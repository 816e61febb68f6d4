import ContainerClients.Number.Decimal

/-!
# Binary floating-point numbers, exactly

A number with a fraction is kept as the exact value that 64-bit binary floating point gives it:
a sign, a mantissa and a power of two, or an infinity.

* `Binary64.ofDecimal` — the nearest such number to a decimal one, ties to the even mantissa.
* `Binary64.truncated?` — the whole number towards zero.
* `Binary64.shortest` — the fewest decimal digits that read back to the same number, and of those
  the nearest.
* `Binary64.text` — those digits as written: positional for exponents from -4 to 15, with `.0` for
  a whole number, and with an exponent of at least two digits otherwise.

Everything is computed on natural numbers.
-/

namespace ContainerClients.Number

/-- **A 64-bit binary floating-point number**, other than not-a-number. -/
inductive Binary64 where
  /-- `mantissa · 2 ^ exponent`, negated when `negative` -/
  | finite (negative : Bool) (mantissa : Nat) (exponent : Int)
  /-- beyond the largest finite number -/
  | infinite (negative : Bool)
deriving DecidableEq, Repr

/-- A power of two. -/
def twoTo (k : Nat) : Nat := Nat.pow 2 k

/-- A power of ten. -/
def tenTo (k : Nat) : Nat := Nat.pow 10 k

/-- The quotient rounded to the nearest number, a tie to the even one. -/
def roundedQuotient (num den : Nat) : Nat :=
  let q := num / den
  let r := num % den
  if 2 * r < den then q
  else if 2 * r > den then q + 1
  else if q % 2 = 0 then q else q + 1

/-- `num · 2 ^ k` and the denominator `den`, for a `k` of either sign. -/
def scaled (num den : Nat) (k : Int) : Nat × Nat :=
  if k < 0 then (num, den * twoTo k.natAbs) else (num * twoTo k.natAbs, den)

namespace Binary64

/-- The least exponent of a finite number. -/
def minExponent : Int := -1074

/-- The number nearest to the positive quotient `num / den`. -/
def ofQuotient (negative : Bool) (num den : Nat) : Binary64 :=
  let guess : Int := (num.log2 : Int) - den.log2 - 53
  let wide := scaled num den (-guess)
  let tight := if wide.1 / wide.2 < twoTo 53 then guess else guess + 1
  let exponent := max tight minExponent
  let (n, d) := scaled num den (-exponent)
  let mantissa := roundedQuotient n d
  let (m, e) := if mantissa = twoTo 53 then (twoTo 52, exponent + 1) else (mantissa, exponent)
  if e > 971 then .infinite negative else .finite negative m e

/-- **The number nearest to `number · 10 ^ exponent`.** -/
def ofDecimal (negative : Bool) (number : Nat) (exponent : Int) : Binary64 :=
  if number = 0 then .finite negative 0 minExponent
  else
    let size : Int := (digits number).length + exponent
    if size > 310 then .infinite negative
    else if size < -330 then .finite negative 0 minExponent
    else if exponent < 0 then ofQuotient negative number (tenTo exponent.natAbs)
    else ofQuotient negative (number * tenTo exponent.natAbs) 1

/-- The whole number towards zero; an infinity has none. -/
def truncated? : Binary64 → Option Int
  | .infinite _ => none
  | .finite negative mantissa exponent =>
    let (n, d) := scaled mantissa 1 exponent
    some (if negative then -((n / d : Nat) : Int) else (n / d : Nat))

/-- The exact value of a finite number. -/
def finiteValue (negative : Bool) (mantissa : Nat) (exponent : Int) : Rat :=
  let (n, d) := scaled mantissa 1 exponent
  if negative then -((n : Rat) / d) else (n : Rat) / d

/-! ## The shortest decimal text -/

/-- The exponent of the leading decimal digit of the positive quotient `num / den`: the largest
`k` with `10 ^ k ≤ num / den`, found from an estimate that is off by less than `fuel`. -/
def leadingExponent (num den : Nat) (estimate : Int) (fuel : Nat) : Int :=
  let reaches (k : Int) : Bool :=
    if k < 0 then den ≤ num * tenTo k.natAbs else den * tenTo k.natAbs ≤ num
  match fuel with
  | 0 => estimate
  | fuel + 1 =>
    if !reaches estimate then leadingExponent num den (estimate - 1) fuel
    else if reaches (estimate + 1) then leadingExponent num den (estimate + 1) fuel
    else estimate

/-- **The fewest digits that read back**, and the decimal exponent of the last of them, for the
positive number `mantissa · 2 ^ exponent`.  The numbers that read back form an interval around it,
ends included when the mantissa is even; the decimal grids of 1, 2, … 17 digits are tried in turn,
on each the two neighbours of the number. -/
def shortest (mantissa : Nat) (exponent : Int) : Nat × Int :=
  let narrow := mantissa = twoTo 52 ∧ exponent > minExponent
  let (lower, den) := scaled (4 * mantissa - (if narrow then 1 else 2)) 1 (exponent - 2)
  let (centre, _) := scaled (4 * mantissa) 1 (exponent - 2)
  let (upper, _) := scaled (4 * mantissa + 2) 1 (exponent - 2)
  let closed := mantissa % 2 = 0
  let estimate : Int := ((centre.log2 : Int) - den.log2) * 30103 / 100000
  let leading := leadingExponent centre den estimate 8
  let attempt (count : Nat) : Option (Nat × Int) :=
    let unit : Int := leading - count + 1
    -- the number in units of the grid is `a / b`, its interval from `lo / b` to `hi / b`
    let (a, lo, hi, b) :=
      if unit < 0 then
        let p := tenTo unit.natAbs
        (centre * p, lower * p, upper * p, den)
      else (centre, lower, upper, den * tenTo unit.natAbs)
    let below := a / b
    let above := below + 1
    let belowIn := if closed then lo ≤ below * b else lo < below * b
    let aboveIn := if closed then above * b ≤ hi else above * b < hi
    if belowIn ∧ aboveIn then some (roundedQuotient a b, unit)
    else if belowIn then some (below, unit)
    else if aboveIn then some (above, unit)
    else none
  ((List.range 17).findSome? fun k => attempt (k + 1)).getD (mantissa, exponent)

/-- Digits with a point behind the first `whole` of them, padded with zeros on either side. -/
def positional (ds : List Char) (whole : Int) : List Char :=
  if whole ≤ 0 then '0' :: '.' :: (List.replicate whole.natAbs '0' ++ ds)
  else
    let w := whole.natAbs
    if ds.length ≤ w then ds ++ List.replicate (w - ds.length) '0' ++ ['.', '0']
    else ds.take w ++ '.' :: ds.drop w

/-- The exponent part: a sign and at least two digits. -/
def exponentText (e : Int) : List Char :=
  let ds := digits e.natAbs
  'e' :: (if e < 0 then '-' else '+') :: (if ds.length < 2 then '0' :: ds else ds)

/-- **The decimal text of a number**, by the fewest digits that read back. -/
def text : Binary64 → List Char
  | .infinite negative => if negative then "-inf".toList else "inf".toList
  | .finite negative mantissa exponent =>
    let unsigned :=
      if mantissa = 0 then "0.0".toList
      else
        let (number, unit) := shortest mantissa exponent
        let all := digits number
        let leading : Int := unit + all.length - 1
        let ds := (all.reverse.dropWhile (· = '0')).reverse
        if -4 ≤ leading ∧ leading < 16 then positional ds (leading + 1)
        else match ds with
          | [d] => d :: exponentText leading
          | d :: rest => d :: '.' :: rest ++ exponentText leading
          | [] => []
    if negative then '-' :: unsigned else unsigned

end Binary64

end ContainerClients.Number
