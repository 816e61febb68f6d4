import ContainerClients.Text.Printable

/-!
# Quoted literals

Messages show a text as a quoted literal, so that blanks and control characters can be seen.

* The quote is `'`, unless the text holds a `'` and no `"`; then it is `"`.
* The backslash and the quote in use are written behind a backslash, and so are line feed, carriage
  return and tab, by their letters.
* Any other unprintable character is written by its code point: `\xNN`, `\uNNNN` or `\UNNNNNNNN`,
  the shortest that holds it.
* Every other character is written as itself.
-/

namespace ContainerClients.Text

/-- The hexadecimal digits, in lower case. -/
def hexDigit (n : Nat) : Char :=
  if n < 10 then Char.ofNat (48 + n) else Char.ofNat (87 + n)

/-- The last `width` hexadecimal digits of a number. -/
def hexText (width n : Nat) : List Char :=
  match width with
  | 0 => []
  | w + 1 => hexText w (n / 16) ++ [hexDigit (n % 16)]

/-- The quote that a literal is written with. -/
def quoteMark (s : List Char) : Char := if s.contains '\'' && !s.contains '"' then '"' else '\''

/-- One character inside a literal. -/
def quotedChar (mark c : Char) : List Char :=
  if c = '\\' ∨ c = mark then ['\\', c]
  else if c = '\n' then ['\\', 'n']
  else if c = '\r' then ['\\', 'r']
  else if c = '\t' then ['\\', 't']
  else if isPrintable c then [c]
  else if c.toNat < 0x100 then '\\' :: 'x' :: hexText 2 c.toNat
  else if c.toNat < 0x10000 then '\\' :: 'u' :: hexText 4 c.toNat
  else '\\' :: 'U' :: hexText 8 c.toNat

/-- **The quoted literal** of a text. -/
def quoted (s : List Char) : List Char :=
  quoteMark s :: s.flatMap (quotedChar (quoteMark s)) ++ [quoteMark s]

/-- The quoted literal of a string. -/
def literal (s : String) : String := String.ofList (quoted s.toList)

end ContainerClients.Text
