import ContainerClients.Program.Octets

/-!
# Backslash escapes

`echo` and `printf` write some characters by escapes: `\n` for a line feed and so on, and `\101`
for a character by its octal number.

* `EscapeRules` — where the dialects differ.
* `readEscape` — one escape.
* `unescapeAll` — a text with all its escapes read; `\c` ends everything.
-/

namespace ContainerClients.Program

/-- **The dialect of escapes.** -/
structure EscapeRules where
  /-- a zero in front of an octal number does not count as one of its three digits -/
  leadingZero : Bool
  /-- `\x41` is a character by its hexadecimal number -/
  hexadecimal : Bool
  /-- `\"` is a quotation mark -/
  quotes : Bool
  /-- `\c` ends all output -/
  stops : Bool
  /-- `\e` is the character that starts control sequences -/
  control : Bool
  /-- `\u00e9` is a character of the code points by its hexadecimal number, in UTF-8 -/
  codePoints : Bool

/-- What an escape is. -/
inductive Escaped where
  /-- a character -/
  | char (c : Char)
  /-- many characters -/
  | text (s : Octets)
  /-- the end of all output -/
  | stop
  /-- no escape: the backslash stands for itself -/
  | none

/-- The number of the digits in front of a text, at most `count` of them, and what follows. -/
def takeDigits (base : Nat) : Nat → Nat → Octets → Nat × Octets
  | 0, n, s => (n, s)
  | _ + 1, n, [] => (n, [])
  | count + 1, n, c :: rest =>
    let digit :=
      if c.isDigit then c.toNat - 48
      else if 'a' ≤ c ∧ c ≤ 'f' then c.toNat - 87
      else if 'A' ≤ c ∧ c ≤ 'F' then c.toNat - 55
      else base
    if digit < base then takeDigits base count (base * n + digit) rest else (n, c :: rest)

/-- The letters of escapes. -/
def escapeLetters : List (Char × Nat) :=
  [('a', 7), ('b', 8), ('f', 12), ('n', 10), ('r', 13), ('t', 9), ('v', 11), ('\\', 92)]

/-- **One escape**, read behind its backslash. -/
def readEscape (rules : EscapeRules) : Octets → Escaped × Octets
  | [] => (.none, [])
  | c :: rest =>
    match escapeLetters.find? (·.1 == c) with
    | some (_, n) => (.char (Char.ofNat n), rest)
    | none =>
      if c = 'c' && rules.stops then (.stop, [])
      else if c = 'e' && rules.control then (.char (Char.ofNat 27), rest)
      else if c = '"' && rules.quotes then (.char '"', rest)
      else if c = '0' && rules.leadingZero then
        let (n, rest) := takeDigits 8 3 0 rest
        (.char (Char.ofNat (n % 256)), rest)
      else if '0' ≤ c && c ≤ '7' then
        let (n, rest) := takeDigits 8 3 0 (c :: rest)
        (.char (Char.ofNat (n % 256)), rest)
      else if c = 'x' && rules.hexadecimal then
        let (n, behind) := takeDigits 16 2 0 rest
        if behind.length = rest.length then (.none, c :: rest) else (.char (Char.ofNat n), behind)
      else if (c = 'u' || c = 'U') && rules.codePoints then
        let (n, behind) := takeDigits 16 (if c = 'u' then 4 else 8) 0 rest
        if behind.length = rest.length then (.none, c :: rest)
        else (.text (Octets.ofText (String.singleton (Char.ofNat n))), behind)
      else (.none, c :: rest)

/-- A text with its escapes read, and whether it ends all output; the fuel bounds the number of
characters that are read. -/
def unescapeWith (rules : EscapeRules) : Nat → Octets → Octets × Bool
  | 0, s => (s, false)
  | _ + 1, [] => ([], false)
  | fuel + 1, '\\' :: rest =>
    match readEscape rules rest with
    | (.stop, _) => ([], true)
    | (.char c, rest) =>
      let (others, stop) := unescapeWith rules fuel rest
      (c :: others, stop)
    | (.text s, rest) =>
      let (others, stop) := unescapeWith rules fuel rest
      (s ++ others, stop)
    | (.none, rest) =>
      let (others, stop) := unescapeWith rules fuel rest
      ('\\' :: others, stop)
  | fuel + 1, c :: rest =>
    let (others, stop) := unescapeWith rules fuel rest
    (c :: others, stop)

/-- **A text with its escapes read**, and whether it ends all output. -/
def unescapeAll (rules : EscapeRules) (s : Octets) : Octets × Bool :=
  unescapeWith rules s.length s

end ContainerClients.Program
