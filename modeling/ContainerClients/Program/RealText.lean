import ContainerClients.Number.Binary64
import ContainerClients.Program.Octets

/-!
# Numbers with a fraction, as programs write them

A number is read from its decimal text, rounded to as many binary digits as the program keeps, and
written with a given number of places; what is cut off is rounded to the nearest, ties to even.

* `Real` — a number as an exact quotient.
* `readReal` — the number at the front of a text.
* `Real.rounded` — the nearest number of so many binary digits.
* `Real.fixed`, `Real.scientific`, `Real.general` — the three ways of writing.
-/

namespace ContainerClients.Program

/-- **A number**, other than the infinite ones. -/
structure Real where
  /-- it is below zero -/
  negative : Bool
  /-- the number of units … -/
  num : Nat
  /-- … of which so many make one -/
  den : Nat
deriving Repr

/-- A number that is written, or one that has no digits. -/
inductive Written where
  /-- a number -/
  | real (real : Real)
  /-- a word in place of digits -/
  | word (negative : Bool) (s : Octets)

/-- The quotient `n · 10 ^ k`. -/
def scaleByTen (n : Nat) (k : Int) : Nat × Nat :=
  if k < 0 then (n, Number.tenTo (min k.natAbs 5000)) else (n * Number.tenTo (min k.natAbs 5000), 1)

/-- The exponent at the front of a text, and what follows it. -/
def readExponent (s : Octets) : Int × Octets :=
  match s with
  | e :: rest =>
    if e == 'e' || e == 'E' then
      let (negative, digits) := match rest with
        | '-' :: rest => (true, rest)
        | '+' :: rest => (false, rest)
        | rest => (false, rest)
      let found := digits.takeWhile Char.isDigit
      if found.isEmpty then (0, s)
      else
        let n : Int := (Octets.natural? found).getD 0
        (if negative then -n else n, digits.drop found.length)
    else (0, s)
  | [] => (0, s)

/-- **The number at the front of a text**, and what follows it; all of the text where there is no
number. -/
def readReal (s : Octets) : Written × Octets :=
  let body := s.dropWhile fun c => c == ' ' || ('\t' ≤ c && c ≤ '\r')
  let (negative, body) := match body with
    | '-' :: rest => (true, rest)
    | '+' :: rest => (false, rest)
    | rest => (false, rest)
  let whole := body.takeWhile Char.isDigit
  let behind := body.drop whole.length
  let fraction := match behind with
    | '.' :: rest => rest.takeWhile Char.isDigit
    | _ => []
  let lower := body.map Char.toLower
  if whole.isEmpty && fraction.isEmpty then
    match ["infinity", "inf", "nan"].find? fun w => w.toList.isPrefixOf lower with
    | some w => (.word negative (w.toList.take 3), body.drop w.length)
    | none => (.real ⟨false, 0, 1⟩, s)
  else
    let behind := match behind with
      | '.' :: rest => rest.drop fraction.length
      | rest => rest
    let (exponent, rest) := readExponent behind
    let n := (Octets.natural? (whole ++ fraction)).getD 0
    let (num, den) := scaleByTen n (exponent - fraction.length)
    (.real ⟨negative, num, den⟩, rest)

namespace Real

/-- **The nearest number** of so many binary digits. -/
def rounded (bits : Nat) (real : Real) : Real :=
  if real.num = 0 then real
  else
    let guess : Int := (real.num.log2 : Int) - real.den.log2 - bits
    let (wideNum, wideDen) := Number.scaled real.num real.den (-guess)
    let exponent := if wideNum / wideDen < Number.twoTo bits then guess else guess + 1
    let (n, d) := Number.scaled real.num real.den (-exponent)
    let (num, den) := Number.scaled (Number.roundedQuotient n d) 1 exponent
    { real with num, den }

/-- Digits with a point in front of the last so many of them. -/
def pointed (places : Nat) (alternate : Bool) (n : Nat) : Octets :=
  let digits := Octets.padStart (places + 1) '0' (Octets.ofNat n)
  let whole := digits.take (digits.length - places)
  if places = 0 then (if alternate then whole ++ ['.'] else whole)
  else whole ++ '.' :: digits.drop (digits.length - places)

/-- **With so many places** behind the point. -/
def fixed (places : Nat) (alternate : Bool) (real : Real) : Octets :=
  pointed places alternate (Number.roundedQuotient (real.num * Number.tenTo places) real.den)

/-- The digits of a number rounded to so many behind the first, and the exponent of the first. -/
def leadingDigits (places : Nat) (real : Real) : Nat × Int :=
  if real.num = 0 then (0, 0)
  else
    let estimate : Int := ((real.num.log2 : Int) - real.den.log2) * 30103 / 100000
    let leading := Number.Binary64.leadingExponent real.num real.den estimate 8
    let shift := (places : Int) - leading
    let (n, d) :=
      if shift < 0 then (real.num, real.den * Number.tenTo shift.natAbs)
      else (real.num * Number.tenTo shift.natAbs, real.den)
    let digits := Number.roundedQuotient n d
    if digits ≥ Number.tenTo (places + 1) then (digits / 10, leading + 1) else (digits, leading)

/-- **With an exponent**, and so many places behind the point. -/
def scientific (places : Nat) (alternate : Bool) (real : Real) : Octets :=
  let (digits, leading) := leadingDigits places real
  pointed places alternate digits ++ Number.Binary64.exponentText leading

/-- A text with a point, without the zeros at its end. -/
def withoutZeros (s : Octets) : Octets :=
  if s.contains '.' then
    let s := Text.dropEndWhile (· == '0') s
    if s.getLast? == some '.' then s.dropLast else s
  else s

/-- **With so many digits in all**, in the shorter way. -/
def general (count : Nat) (alternate : Bool) (real : Real) : Octets :=
  let count := max count 1
  let (digits, leading) := leadingDigits (count - 1) real
  let trim (s : Octets) : Octets := if alternate then s else withoutZeros s
  if -4 ≤ leading && leading < (count : Int) then
    trim (fixed ((count : Int) - 1 - leading).toNat alternate real)
  else
    trim (pointed (count - 1) alternate digits) ++ Number.Binary64.exponentText leading

end Real

end ContainerClients.Program
