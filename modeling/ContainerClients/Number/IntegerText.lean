import ContainerClients.Number.Decimal
import ContainerClients.Text.Blank
import ContainerClients.Text.DecimalDigit

/-!
# Reading whole numbers

A whole number is written as blanks, an optional sign, decimal digits of any script with single
underscores between them, and blanks.

* Text beyond ASCII may hold any blank and any decimal digit; a character that is neither ends the
  reading.  Text within ASCII has only the six blanks of the ASCII space class, which leaves the
  information separators out.
* More than `maxDigits` digits are refused, whatever follows them.

The result is an integer or an `IntegerFault`.
-/

namespace ContainerClients.Number

/-- Why a text is no whole number. -/
inductive IntegerFault where
  /-- it is not written as one -/
  | malformed
  /-- it has this many digits, more than are read -/
  | tooLong (digits : Nat)
deriving DecidableEq, Repr

/-- The ASCII space class. -/
def isAsciiSpace (c : Char) : Bool := (0x09 ≤ c.toNat && c.toNat ≤ 0x0D) || c.toNat == 0x20

/-- Brings a text beyond ASCII down to ASCII: blanks to spaces, digits to ASCII digits.  What
stands behind any other character beyond ASCII is dropped. -/
def toAscii : List Char → List Char
  | [] => []
  | c :: rest =>
    if c.toNat < 0x7F then c :: toAscii rest
    else if Text.isBlank c then ' ' :: toAscii rest
    else match Text.digitValue? c with
      | some d => Char.ofNat (48 + d) :: toAscii rest
      | none => ['?']

/-- What a run of digits and underscores holds: the number, how many digits, and the rest behind
the run.  `none` where an underscore does not stand between two digits. -/
def digitRun (number count : Nat) (afterDigit : Bool) :
    List Char → Option (Nat × Nat × List Char)
  | [] => if afterDigit then some (number, count, []) else none
  | c :: rest =>
    if c.isDigit then digitRun (10 * number + (c.toNat - 48)) (count + 1) true rest
    else if c = '_' then if afterDigit then digitRun number count false rest else none
    else if afterDigit then some (number, count, c :: rest) else none

/-- **Reading a whole number.** -/
def readInteger (s : List Char) : Except IntegerFault Int :=
  let ascii := if s.all (·.toNat < 0x80) then s else toAscii s
  let body := ascii.dropWhile isAsciiSpace
  let (negative, unsigned) := match body with
    | '-' :: rest => (true, rest)
    | '+' :: rest => (false, rest)
    | rest => (false, rest)
  match digitRun 0 0 false unsigned with
  | none => .error .malformed
  | some (number, count, rest) =>
    if count > maxDigits then .error (.tooLong count)
    else if rest.all isAsciiSpace then .ok (if negative then -(number : Int) else number)
    else .error .malformed

end ContainerClients.Number
