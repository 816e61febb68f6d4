import ContainerClients.Program.Escapes
import ContainerClients.Program.RealText

/-!
# Formatted output

`printf` writes its arguments by a format: text with escapes, and directives that each take an
argument.  The format is used again as long as arguments are left.

* `FormatRules` — where the dialects differ: escapes, digits that are kept, and complaints.
* `Directive` — a directive: where it pads, to what width, how much it takes, and its letter.
* `formatOnce`, `formatAll` — the format used once, and until no argument is left.
* `Formatted` — what is written, what is complained about, and how it ends.
-/

namespace ContainerClients.Program

/-- **The dialect of formats.** -/
structure FormatRules where
  /-- the escapes of the format -/
  inFormat : EscapeRules
  /-- the escapes of an argument that is written with `%b` -/
  inArgument : EscapeRules
  /-- how many binary digits of a number with a fraction are kept -/
  bits : Nat
  /-- letters that tell the size of a number may stand in front of its letter -/
  sizes : Bool
  /-- an argument that is no number -/
  noNumber : Octets → Octets
  /-- an argument that is a number only in part -/
  partNumber : Octets → Octets
  /-- an argument that is too great a number -/
  tooGreat : Octets → Octets
  /-- a directive that there is not, or that has no letter -/
  noDirective : Octets → Octets
  /-- a directive without a letter -/
  noLetter : Octets → Octets

/-- **A directive.** -/
structure Directive where
  /-- padding goes to the end -/
  left : Bool
  /-- padding is by zeros -/
  zeros : Bool
  /-- what stands in front of a number that is not below zero -/
  plus : Octets
  /-- numbers are marked by their base -/
  alternate : Bool
  /-- the least width -/
  width : Nat
  /-- how many characters of a text or digits of a number are written -/
  precision : Option Nat
  /-- the letter -/
  letter : Char

namespace Directive

/-- A text padded as a directive says. -/
def pad (directive : Directive) (s : Octets) : Octets :=
  if directive.left then Octets.padEnd directive.width s
  else Octets.padStart directive.width ' ' s

/-- A text that is cut and padded. -/
def text (directive : Directive) (s : Octets) : Octets :=
  directive.pad (s.take (directive.precision.getD s.length))

/-- Digits with what stands in front of them, padded by blanks or zeros. -/
def padNumber (directive : Directive) (zeros : Bool) (sign digits : Octets) : Octets :=
  if zeros && directive.zeros && !directive.left then
    sign ++ Octets.padStart (directive.width - sign.length) '0' digits
  else directive.pad (sign ++ digits)

/-- The sign of a number. -/
def sign (directive : Directive) (negative : Bool) : Octets :=
  if negative then ['-'] else directive.plus

/-- The digits of a number in a base. -/
def baseDigits (base : Nat) (capital : Bool) : Nat → Nat → Octets
  | 0, _ => []
  | fuel + 1, n =>
    let d := n % base
    let c := Char.ofNat (if d < 10 then 48 + d else if capital then 55 + d else 87 + d)
    if n < base then [c] else baseDigits base capital fuel (n / base) ++ [c]

/-- A whole number as a directive says. -/
def number (directive : Directive) (n : Int) : Octets :=
  let bits : Nat := (n % 18446744073709551616).toNat
  let digits := match directive.letter with
    | 'o' => baseDigits 8 false 64 bits
    | 'x' => baseDigits 16 false 64 bits
    | 'X' => baseDigits 16 true 64 bits
    | 'u' => Octets.ofNat bits
    | _ => Octets.ofNat n.natAbs
  let digits := if directive.precision = some 0 && n = 0 then [] else digits
  let digits := Octets.padStart (directive.precision.getD 0) '0' digits
  let sign := match directive.letter with
    | 'd' | 'i' => directive.sign (n < 0)
    | 'x' => if directive.alternate && n ≠ 0 then ['0', 'x'] else []
    | 'X' => if directive.alternate && n ≠ 0 then ['0', 'X'] else []
    | 'o' => if directive.alternate && digits.head? != some '0' then ['0'] else []
    | _ => []
  directive.padNumber directive.precision.isNone sign digits

/-- A number with a fraction as a directive says. -/
def real (directive : Directive) (bits : Nat) (written : Written) : Octets :=
  let capital := directive.letter.isUpper
  let raise (s : Octets) : Octets := if capital then s.map Char.toUpper else s
  match written with
  | .word negative s => directive.padNumber false (directive.sign negative) (raise s)
  | .real real =>
    let real := real.rounded bits
    let places := directive.precision.getD 6
    let digits := match directive.letter.toLower with
      | 'e' => real.scientific places directive.alternate
      | 'g' => real.general places directive.alternate
      | _ => real.fixed places directive.alternate
    directive.padNumber true (directive.sign real.negative) (raise digits)

end Directive

/-- **What comes of a format.** -/
structure Formatted where
  /-- what is written -/
  output : Octets
  /-- what is complained about -/
  complaints : List Octets
  /-- the arguments that are left -/
  rest : List Octets
  /-- nothing more is to be written -/
  stopped : Bool
  /-- why there cannot be any more -/
  failure : Option Octets

namespace Formatted

/-- More is written. -/
def add (formatted : Formatted) (s : Octets) : Formatted :=
  { formatted with output := formatted.output ++ s }

/-- More is complained about. -/
def complain (formatted : Formatted) (complaint : Option Octets) : Formatted :=
  { formatted with complaints := formatted.complaints ++ complaint.toList }

/-- The next argument. -/
def argument (formatted : Formatted) : Octets := formatted.rest.headD []

/-- The next argument is used. -/
def used (formatted : Formatted) : Formatted := { formatted with rest := formatted.rest.tail }

end Formatted

/-- The whole number that an argument denotes, and a complaint if it does not.  A quotation mark
denotes the number of the character behind it. -/
def argumentNumber (rules : FormatRules) (signed : Bool) (s : Octets) : Int × Option Octets :=
  match s with
  | [] => (0, none)
  | c :: rest =>
    if c == '\'' || c == '"' then ((rest.headD '\x00').toNat, none)
    else
      let body := s.dropWhile fun c => c == ' ' || ('\t' ≤ c && c ≤ '\r')
      let (negative, body) := match body with
        | '-' :: rest => (true, rest)
        | '+' :: rest => (false, rest)
        | rest => (false, rest)
      let (n, rest) := match body with
        | '0' :: x :: d :: more =>
          if (x == 'x' || x == 'X') &&
            (d.isDigit || ('a' ≤ d.toLower && d.toLower ≤ 'f')) then
            takeDigits 16 (more.length + 1) 0 (d :: more)
          else takeDigits 8 body.length 0 body
        | '0' :: _ => takeDigits 8 body.length 0 body
        | _ => takeDigits 10 body.length 0 body
      let n : Int := if negative then -(n : Int) else n
      let high : Int := if signed then 9223372036854775807 else 18446744073709551615
      let low : Int := if signed then -9223372036854775808 else -18446744073709551615
      if rest.length = body.length then (0, some (rules.noNumber s))
      else
        let complaint :=
          if !rest.isEmpty then some (rules.partNumber s)
          else if n < low || n > high then some (rules.tooGreat s)
          else none
        (if n < low then (if signed then low else high) else min n high, complaint)

/-- The number with a fraction that an argument denotes, and a complaint if it does not. -/
def argumentReal (rules : FormatRules) (s : Octets) : Written × Option Octets :=
  match s with
  | [] => (.real ⟨false, 0, 1⟩, none)
  | c :: rest =>
    if c == '\'' || c == '"' then (.real ⟨false, (rest.headD '\x00').toNat, 1⟩, none)
    else
      let (written, rest) := readReal s
      (written,
        if rest.length = s.length then some (rules.noNumber s)
        else if rest.isEmpty then none
        else some (rules.partNumber s))

/-- A width or precision: digits, or a `*` that takes an argument. -/
def readCount (rules : FormatRules) (s : Octets) (formatted : Formatted) :
    Option Int × Octets × Formatted :=
  match s with
  | '*' :: rest =>
    let (n, complaint) := argumentNumber rules true formatted.argument
    (some n, rest, formatted.used.complain complaint)
  | _ =>
    let digits := s.takeWhile Char.isDigit
    ((Octets.natural? digits).map Int.ofNat, s.drop digits.length, formatted)

/-- The directive behind a `%`, but for its letter, and what follows it. -/
def readDirective (rules : FormatRules) (s : Octets) (formatted : Formatted) :
    Directive × Octets × Formatted :=
  let flags := s.takeWhile fun c => "-+ 0#".toList.contains c || (rules.sizes && c == '\'')
  let (width, rest, formatted) := readCount rules (s.drop flags.length) formatted
  let (precision, rest, formatted) := match rest with
    | '.' :: rest =>
      let (precision, rest, formatted) := readCount rules rest formatted
      (some (precision.getD 0), rest, formatted)
    | rest => (none, rest, formatted)
  let rest := if rules.sizes then rest.dropWhile "hlLjtz".toList.contains else rest
  let width := width.getD 0
  let directive : Directive := {
    left := flags.contains '-' || width < 0
    zeros := flags.contains '0'
    plus := if flags.contains '+' then ['+'] else if flags.contains ' ' then [' '] else []
    alternate := flags.contains '#'
    width := width.natAbs
    precision := precision.bind fun n => if n < 0 then none else some n.toNat
    letter := rest.headD ' ' }
  (directive, rest, formatted)

/-- What a directive writes. -/
def Directive.write (directive : Directive) (rules : FormatRules) (written : Octets)
    (formatted : Formatted) : Formatted :=
  let s := formatted.argument
  let letter := directive.letter
  if letter == 's' then (formatted.add (directive.text s)).used
  else if letter == 'b' then
    let (text, stop) := unescapeAll rules.inArgument s
    { (formatted.add (directive.text text)).used with stopped := stop }
  else if letter == 'c' then
    (formatted.add (directive.pad [s.headD '\x00'])).used
  else if letter == 'd' || letter == 'i' then
    let (n, complaint) := argumentNumber rules true s
    ((formatted.add (directive.number n)).complain complaint).used
  else if "uoxX".toList.contains letter then
    let (n, complaint) := argumentNumber rules false s
    ((formatted.add (directive.number n)).complain complaint).used
  else if "eEfFgG".toList.contains letter then
    let (real, complaint) := argumentReal rules s
    ((formatted.add (directive.real rules.bits real)).complain complaint).used
  else { formatted with failure := some (rules.noDirective written) }

/-- **The format used once**; the number bounds how many characters are read. -/
def formatOnce (rules : FormatRules) : Nat → Octets → Formatted → Formatted
  | 0, _, formatted => formatted
  | _, [], formatted => formatted
  | fuel + 1, c :: rest, formatted =>
    if formatted.stopped || formatted.failure.isSome then formatted
    else if c == '\\' then
      match readEscape rules.inFormat rest with
      | (.stop, _) => { formatted with stopped := true }
      | (.char c, rest) => formatOnce rules fuel rest (formatted.add [c])
      | (.text s, rest) => formatOnce rules fuel rest (formatted.add s)
      | (.none, rest) => formatOnce rules fuel rest (formatted.add ['\\'])
    else if c == '%' then
      match rest with
      | '%' :: rest => formatOnce rules fuel rest (formatted.add ['%'])
      | _ =>
        let (directive, behind, formatted) := readDirective rules rest formatted
        let written := c :: rest.take (rest.length - behind.length + 1)
        if behind.isEmpty then { formatted with failure := some (rules.noLetter written) }
        else formatOnce rules fuel behind.tail (directive.write rules written formatted)
    else formatOnce rules fuel rest (formatted.add [c])

/-- The format used until no argument is left; the number bounds how often. -/
def formatFrom (rules : FormatRules) (format : Octets) : Nat → Formatted → Formatted
  | 0, formatted => formatted
  | fuel + 1, formatted =>
    let once := formatOnce rules (format.length + 1) format formatted
    if once.stopped || once.failure.isSome || once.rest.isEmpty ||
      once.rest.length = formatted.rest.length then once
    else formatFrom rules format fuel once

/-- **Arguments written by a format.** -/
def formatAll (rules : FormatRules) (format : Octets) (args : List Octets) : Formatted :=
  formatFrom rules format (args.length + 1) ⟨[], [], args, false, none⟩

end ContainerClients.Program
