import ContainerClients.Program.Octets

/-!
# Patterns

A pattern stands for many texts: `*` for any text, `?` for any character, and `[…]` for one
character of a set.

* `PatternItem`, `Pattern` — a pattern.
* `Pattern.ofMarked` — the pattern that is written by characters, of which those that are quoted, or
  come behind a backslash, stand for themselves.
* `Pattern.accepts` — whether a text is one that the pattern stands for.
* `Pattern.trimStart`, `Pattern.trimEnd` — a text without what a pattern stands for.
-/

namespace ContainerClients.Program

/-- A part of a pattern. -/
inductive PatternItem where
  /-- one character -/
  | char (c : Char)
  /-- any character -/
  | anyChar
  /-- any text -/
  | anyText
  /-- a character between the ends of one of the ranges, or of none of them -/
  | oneOf (inverted : Bool) (ranges : List (Char × Char))
deriving DecidableEq, Repr

/-- **A pattern.** -/
abbrev Pattern := List PatternItem

/-- The characters with numbers from `low` to `high`. -/
def charRange (low high : Nat) : Octets :=
  (List.range (high + 1 - low)).map fun k => Char.ofNat (low + k)

/-- Classes of characters by their names, as ranges. -/
def classRanges : List (String × List (Char × Char)) :=
  [("alpha", [('A', 'Z'), ('a', 'z')]),
   ("digit", [('0', '9')]),
   ("alnum", [('0', '9'), ('A', 'Z'), ('a', 'z')]),
   ("upper", [('A', 'Z')]),
   ("lower", [('a', 'z')]),
   ("space", [('\t', '\r'), (' ', ' ')]),
   ("blank", [('\t', '\t'), (' ', ' ')]),
   ("punct", [('!', '/'), (':', '@'), ('[', Char.ofNat 96), ('\x7b', '~')]),
   ("print", [(' ', '~')]),
   ("graph", [('!', '~')]),
   ("cntrl", [('\x00', '\x1f'), ('\x7f', '\x7f')]),
   ("xdigit", [('0', '9'), ('A', 'F'), ('a', 'f')])]

/-- The class named at the front of a text as `[:name:]`, and what follows it. -/
def readClass (s : Octets) : Option (List (Char × Char) × Octets) :=
  classRanges.findSome? fun entry =>
    let word := "[:".toList ++ entry.1.toList ++ ":]".toList
    if word.isPrefixOf s then some (entry.2, s.drop word.length) else none

/-- A character is between the ends of a range. -/
def inRange (c : Char) (range : Char × Char) : Bool := range.1 ≤ c && c ≤ range.2

/-- A character of a script, and whether it is quoted. -/
abbrev Marked := Char × Bool

namespace Pattern

/-- The ranges of a set behind its first bracket, and what follows it; nothing where no bracket
closes it.  A bracket in the first place is a member. -/
def readSet : Nat → Bool → List Marked → Option (List (Char × Char) × List Marked)
  | 0, _, _ => none
  | _, _, [] => none
  | fuel + 1, first, (c, quoted) :: rest =>
    if c == ']' && !quoted && !first then some ([], rest)
    else
      let named :=
        if c == '[' && !quoted then readClass ((c, quoted) :: rest |>.map (·.1)) else none
      match named with
      | some (ranges, behind) =>
        (readSet fuel false (rest.drop (rest.length - behind.length))).map
          fun (others, rest) => (ranges ++ others, rest)
      | none =>
        match rest with
        | ('-', _) :: (high, highQuoted) :: behind =>
          if high == ']' && !highQuoted then
            (readSet fuel false rest).map fun (others, rest) => ((c, c) :: others, rest)
          else
            (readSet fuel false behind).map fun (others, rest) => ((c, high) :: others, rest)
        | _ => (readSet fuel false rest).map fun (others, rest) => ((c, c) :: others, rest)

/-- **The pattern that is written by characters**; the number bounds their count. -/
def ofMarkedWith : Nat → List Marked → Pattern
  | 0, _ => []
  | _, [] => []
  | fuel + 1, (c, quoted) :: rest =>
    if quoted then .char c :: ofMarkedWith fuel rest
    else if c == '\\' then
      match rest with
      | (d, _) :: rest => .char d :: ofMarkedWith fuel rest
      | [] => [.char c]
    else if c == '*' then .anyText :: ofMarkedWith fuel rest
    else if c == '?' then .anyChar :: ofMarkedWith fuel rest
    else if c == '[' then
      let inverted := rest.head? == some ('!', false)
      match readSet (rest.length + 1) true (if inverted then rest.tail else rest) with
      | some (ranges, rest) => .oneOf inverted ranges :: ofMarkedWith fuel rest
      | none => .char c :: ofMarkedWith fuel rest
    else .char c :: ofMarkedWith fuel rest

/-- The pattern that is written by characters. -/
def ofMarked (s : List Marked) : Pattern := ofMarkedWith s.length s

/-- Whether the pattern stands for more than one text. -/
def isOpen (pattern : Pattern) : Bool := pattern.any fun
  | .char _ => false
  | _ => true

/-- **Whether a pattern stands for a text.** -/
def accepts : Pattern → Octets → Bool
  | [], s => s.isEmpty
  | .anyText :: pattern, [] => accepts pattern []
  | .anyText :: pattern, c :: s => accepts pattern (c :: s) || accepts (.anyText :: pattern) s
  | _ :: _, [] => false
  | .char c :: pattern, d :: s => c == d && accepts pattern s
  | .anyChar :: pattern, _ :: s => accepts pattern s
  | .oneOf inverted ranges :: pattern, c :: s =>
    (ranges.any (inRange c) != inverted) && accepts pattern s
termination_by pattern s => pattern.length + s.length

/-- A text without the shortest or longest part at its front that the pattern stands for. -/
def trimStart (pattern : Pattern) (longest : Bool) (s : Octets) : Octets :=
  let lengths := List.range (s.length + 1)
  let lengths := if longest then lengths.reverse else lengths
  match lengths.find? fun n => pattern.accepts (s.take n) with
  | some n => s.drop n
  | none => s

/-- A text without the shortest or longest part at its end that the pattern stands for. -/
def trimEnd (pattern : Pattern) (longest : Bool) (s : Octets) : Octets :=
  let lengths := List.range (s.length + 1)
  let lengths := if longest then lengths else lengths.reverse
  match lengths.find? fun n => pattern.accepts (s.drop n) with
  | some n => s.take n
  | none => s

end Pattern

end ContainerClients.Program
