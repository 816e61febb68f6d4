import ContainerClients.Program.Regex

/-!
# Reading regular expressions

There are two ways of writing: in the basic one, groups, alternatives and counts are written with
backslashes, in the extended one without.

* `RegexStyle` — the way of writing, and what else depends on the tool.
* `RegexToken` — the parts that a regular expression is written with.
* `readRegexTokens` — the parts of a text.
* `readRegex` — **the regular expression that a text denotes**, or what is wrong with it.
-/

namespace ContainerClients.Program

/-- **The way of writing.** -/
structure RegexStyle where
  /-- groups, alternatives and counts are written without backslashes -/
  extended : Bool
  /-- a count must follow something that it counts -/
  strictCounts : Bool
  /-- there are more letters behind backslashes, and groups without numbers -/
  rich : Bool

/-- **The parts that a regular expression is written with.** -/
inductive RegexToken where
  /-- what stands for a character or a place -/
  | single (regex : Regex)
  /-- a place in a line, which cannot be counted -/
  | edge (regex : Regex)
  /-- how often what is in front is to be found -/
  | count (least : Nat) (most : Option Nat)
  /-- the start of a group, which may have a number -/
  | opening (numbered : Bool)
  /-- the end of a group -/
  | closing
  /-- what separates alternatives -/
  | bar

/-- What is wrong with a regular expression. -/
inductive RegexFault where
  /-- a bracket is not closed -/
  | bracket
  /-- a bracket stands at the end -/
  | lastBracket
  /-- a group is not closed -/
  | opening
  /-- a group is not opened -/
  | closing
  /-- a count follows nothing -/
  | count
  /-- a count in braces is wrong -/
  | braces
  /-- braces are not closed -/
  | openBraces
  /-- a count is too great -/
  | tooGreat
  /-- the group that is referred to does not exist -/
  | reference
  /-- a range ends before it starts -/
  | range
  /-- there is no such class of characters -/
  | characterClass
  /-- a backslash stands at the end -/
  | backslash
deriving DecidableEq, Repr

/-- How tools speak of a fault. -/
def RegexFault.message : RegexFault → String
  | .bracket => "Unmatched [, [^, [:, [., or [="
  | .lastBracket => "Invalid regular expression"
  | .opening => "Unmatched ( or \\("
  | .closing => "Unmatched ) or \\)"
  | .count => "Invalid preceding regular expression"
  | .braces => "Invalid content of \\\x7b\\\x7d"
  | .openBraces => "Unmatched \\\x7b"
  | .tooGreat => "Regular expression too big"
  | .reference => "Invalid back reference"
  | .range => "Invalid range end"
  | .characterClass => "Invalid character class name"
  | .backslash => "Trailing backslash"

/-! ## Sets of characters -/

/-- A member of a set that is written between brackets and a mark, as `[.x.]` or `[=x=]`. -/
def markedMember : List Char → Option (Char × List Char)
  | '[' :: mark :: c :: mark' :: ']' :: rest =>
    if mark == mark' && (mark == '.' || mark == '=') then some (c, rest) else none
  | _ => none

/-- One end of a range. -/
def readMember (s : List Char) : Except RegexFault (Char × List Char) :=
  match markedMember s, s with
  | some found, _ => .ok found
  | none, c :: rest => .ok (c, rest)
  | none, [] => .error .bracket

/-- What classes hold beyond the first 128 characters. -/
def widerRanges (name : String) : List (Char × Char) :=
  match name with
  | "alpha" | "alnum" | "graph" | "print" => [(Char.ofNat 0xAA, Char.ofNat 0x10FEFF)]
  | "upper" => [('À', 'Ö'), ('Ø', 'Þ'), ('Α', 'Ω'), ('Ѐ', 'Я')]
  | "lower" => [('ß', 'ö'), ('ø', 'ÿ'), ('α', 'ω'), ('а', 'џ')]
  | _ => []

/-- The class named at the front of a text, with all that it holds, and what follows it. -/
def readWideClass (s : List Char) : Option (List (Char × Char) × List Char) :=
  (readClass s).map fun (ranges, rest) =>
    (ranges ++ widerRanges (String.ofList ((s.drop 2).takeWhile Char.isAlpha)), rest)

/-- The ranges of a set, and what follows it; the number bounds their count. -/
def readMembers : Nat → Bool → List Char → Except RegexFault (List (Char × Char) × List Char)
  | 0, _, _ => .error .bracket
  | _, _, [] => .error .bracket
  | fuel + 1, first, c :: rest =>
    if c == ']' && !first then .ok ([], rest)
    else if c == '[' && rest.head? == some ':' then
      match readWideClass (c :: rest) with
      | some (ranges, rest) =>
        (readMembers fuel false rest).map fun (others, rest) => (ranges ++ others, rest)
      | none => .error (if (rest.drop 1).contains ':' then .characterClass else .bracket)
    else do
      let (low, rest) ← readMember (c :: rest)
      match rest with
      | '-' :: next :: more =>
        if next == ']' then
          let (others, rest) ← readMembers fuel false rest
          return ((low, low) :: others, rest)
        else
          let (high, rest) ← readMember (next :: more)
          if high < low then .error .range
          else
            let (others, rest) ← readMembers fuel false rest
            return ((low, high) :: others, rest)
      | _ =>
        let (others, rest) ← readMembers fuel false rest
        return ((low, low) :: others, rest)

/-- A set behind its first bracket, and what follows it. -/
def readSetRegex (s : List Char) : Except RegexFault (Regex × List Char) :=
  let (inverted, s) := match s with
    | '^' :: rest => (true, rest)
    | rest => (false, rest)
  if s.isEmpty then .error .lastBracket
  else (readMembers (s.length + 1) true s).map fun (ranges, rest) => (.oneOf inverted ranges, rest)

/-! ## Parts -/

/-- The greatest count. -/
def mostRepeats : Nat := 32767

/-- What ends a bound of a count. -/
inductive BoundEnd where
  /-- a comma -/
  | comma
  /-- the closing brace -/
  | closing
  /-- the end of the text -/
  | nothing
deriving DecidableEq

/-- A bound of a count: its characters, what ends it, and what follows. -/
def readBound (extended : Bool) : List Char → List Char × BoundEnd × List Char
  | [] => ([], .nothing, [])
  | '\\' :: '\x7d' :: rest =>
    if extended then
      let (s, ending, rest) := readBound extended rest
      ('\\' :: s, ending, rest)
    else ([], .closing, rest)
  | c :: rest =>
    if c == ',' then ([], .comma, rest)
    else if c == '\x7d' && extended then ([], .closing, rest)
    else
      let (s, ending, rest) := readBound extended rest
      (c :: s, ending, rest)

/-- A count behind its brace, and what follows it; nothing where what is written is no count.  A
count that is none is an error unless the style takes it for characters. -/
def readRegexCount (style : RegexStyle) (s : List Char) :
    Except RegexFault (Option (RegexToken × List Char)) :=
  let (first, ending, rest) := readBound style.extended s
  let (second, ending, rest) : Option (List Char) × BoundEnd × List Char :=
    if ending = .comma then
      let (second, ending, rest) := readBound style.extended rest
      (some second, ending, rest)
    else (none, ending, rest)
  let isBad (s : List Char) : Bool := !s.all Char.isDigit
  if first.isEmpty && second.isNone && ending = .closing then .error .braces
  else if isBad first || second.any isBad || ending = .nothing then
    if style.extended && !style.strictCounts then .ok none
    else .error (if ending = .nothing then .openBraces else .braces)
  else
    let least := (Octets.natural? first).getD 0
    let most : Option Nat := match second with
      | none => some least
      | some digits => Octets.natural? digits
    if ending ≠ .closing || most.any (· < least) then .error .braces
    else if mostRepeats < max least (most.getD 0) then .error .tooGreat
    else .ok (some (.count least most, rest))

/-- The ranges of the characters of words. -/
def wordRanges : List (Char × Char) :=
  [('0', '9'), ('A', 'Z'), ('a', 'z'), ('_', '_'), (Char.ofNat 128, Char.ofNat 0x10FEFF)]

/-- What a letter behind a backslash stands for, where there are more of them. -/
def richlyBackslashed (c : Char) : Option RegexToken :=
  match c with
  | 'd' => some (.single (.oneOf false [('0', '9')]))
  | 'D' => some (.single (.oneOf true [('0', '9')]))
  | 't' => some (.single (.char '\t'))
  | 'A' => some (.edge .textStart)
  | 'z' | 'Z' => some (.edge .textEnd)
  | _ => none

/-- What a letter behind a backslash stands for in all ways of writing. -/
def backslashed (c : Char) : Option RegexToken :=
  if '1' ≤ c && c ≤ '9' then some (.single (.same (c.toNat - 48)))
  else match c with
    | 'w' => some (.single (.oneOf false wordRanges))
    | 'W' => some (.single (.oneOf true wordRanges))
    | 's' => some (.single (.oneOf false [('\t', '\r'), (' ', ' ')]))
    | 'S' => some (.single (.oneOf true [('\t', '\r'), (' ', ' ')]))
    | 'b' => some (.edge (.wordEdge false))
    | 'B' => some (.edge (.wordEdge true))
    | '<' => some (.edge .wordStart)
    | '>' => some (.edge .wordEnd)
    | '\'' => some (.edge .textEnd)
    | _ => if c.toNat = 96 then some (.edge .textStart) else none

/-- The meaning of a character that is written as an operator; nothing for one that is none. -/
def operator (style : RegexStyle) (c : Char) (rest : List Char) :
    Except RegexFault (Option (RegexToken × List Char)) :=
  match c with
  | '(' =>
    match style.rich, rest with
    | true, '?' :: ':' :: rest => .ok (some (.opening false, rest))
    | _, rest => .ok (some (.opening true, rest))
  | ')' => .ok (some (.closing, rest))
  | '|' => .ok (some (.bar, rest))
  | '+' => .ok (some (.count 1 none, rest))
  | '?' => .ok (some (.count 0 (some 1), rest))
  | '\x7b' => readRegexCount style rest
  | _ => .ok none

/-- Whether a new alternative or group starts behind a part. -/
def startsAnew : Option RegexToken → Bool
  | none | some (.opening _) | some .bar => true
  | _ => false

/-- Whether what is written behind a place ends an alternative or a group. -/
def endsHere : List Char → Bool
  | [] => true
  | '\\' :: c :: _ => c == ')' || c == '|'
  | _ => false

/-- Whether a part may be counted. -/
def isCountable : Option RegexToken → Bool
  | some (.single _) | some (.count ..) | some .closing => true
  | _ => false

/-- A count behind a part.  One that follows nothing is a character, or nothing, or an error, as the
style says. -/
def placeCount (style : RegexStyle) (last : Option RegexToken) (c : Char) (token : RegexToken)
    (rest : List Char) : Except RegexFault (Option RegexToken × List Char) :=
  match token with
  | .count .. =>
    if isCountable last then .ok (some token, rest)
    else if style.extended then
      if style.strictCounts then .error .count else .ok (none, rest)
    else if c == '\x7b' then .error .count
    else .ok (some (.single (.char c)), rest)
  | token => .ok (some token, rest)

/-- What a backslash and the character behind it stand for, and what follows them. -/
def readBackslashed (style : RegexStyle) (last : Option RegexToken) (c : Char)
    (rest : List Char) : Except RegexFault (Option RegexToken × List Char) :=
  let known := (if style.rich then richlyBackslashed c else none).or (backslashed c)
  match known with
  | some token => .ok (some token, rest)
  | none =>
    if style.extended then .ok (some (.single (.char c)), rest)
    else do
      match ← operator style c rest with
      | some (token, rest) => placeCount style last c token rest
      | none => return (some (.single (.char c)), rest)

/-- **One part of a regular expression**, and what follows it. -/
def readRegexToken (style : RegexStyle) (last : Option RegexToken) (c : Char) (rest : List Char) :
    Except RegexFault (Option RegexToken × List Char) :=
  let literal : RegexToken := .single (.char c)
  if c == '\\' then
    match rest with
    | [] => .error .backslash
    | d :: rest => readBackslashed style last d rest
  else if c == '*' then placeCount style last c (.count 0 none) rest
  else if c == '.' then .ok (some (.single .anyChar), rest)
  else if c == '[' then
    (readSetRegex rest).map fun (regex, rest) => (some (.single regex), rest)
  else if c == '^' then
    .ok (some (if style.extended || startsAnew last then .edge .lineStart else literal), rest)
  else if c == '$' then
    .ok (some (if style.extended || endsHere rest then .edge .lineEnd else literal), rest)
  else if style.extended then do
    match ← operator style c rest with
    | some (token, behind) => placeCount style last c token behind
    | none => return (some literal, rest)
  else .ok (some literal, rest)

/-- **The parts of a text**; the first number bounds their count. -/
def readRegexTokens (style : RegexStyle) : Nat → Option RegexToken → List Char →
    Except RegexFault (List RegexToken)
  | 0, _, _ => .ok []
  | _, _, [] => .ok []
  | fuel + 1, last, c :: rest => do
    let (token, rest) ← readRegexToken style last c rest
    let others ← readRegexTokens style fuel (token.or last) rest
    return token.toList ++ others

/-! ## Their order -/

/-- What is read of a regular expression: the groups that are open, each with the alternatives and
the sequence in front of it. -/
structure RegexFrame where
  /-- the number of the group -/
  number : Nat
  /-- the alternatives that are complete -/
  alternatives : List Regex
  /-- the parts of the last alternative, the last one first -/
  parts : List Regex
  /-- the groups that were closed in front of it -/
  known : List Nat
  /-- the groups that are closed in the alternatives that are complete -/
  gathered : List Nat

namespace RegexFrame

/-- A group that starts behind groups that are closed. -/
def start (number : Nat) (known : List Nat) : RegexFrame := ⟨number, [], [], known, []⟩

/-- The alternative that is read, as a whole. -/
def current (frame : RegexFrame) : Regex :=
  match frame.parts with
  | [] => .empty
  | last :: others => others.foldl (fun regex part => .sequence part regex) last

/-- All that is read of a group. -/
def whole (frame : RegexFrame) : Regex :=
  frame.alternatives.foldl (fun regex alternative => .either alternative regex) frame.current

/-- One more part. -/
def add (frame : RegexFrame) (part : Regex) : RegexFrame :=
  { frame with parts := part :: frame.parts }

/-- The start of another alternative, with the groups that are closed in the one in front. -/
def another (frame : RegexFrame) (closed : List Nat) : RegexFrame :=
  { frame with
    alternatives := frame.current :: frame.alternatives, parts := []
    gathered := frame.gathered ++ closed }

/-- The last part a number of times. -/
def count (frame : RegexFrame) (least : Nat) (most : Option Nat) : RegexFrame :=
  match frame.parts with
  | last :: others => { frame with parts := .repeated last least most :: others }
  | [] => frame

end RegexFrame

/-- The regular expression that parts stand for: the group that is open, those around it, how many
groups there are, and those that are closed and may be referred to: of another alternative there are
none. -/
def joinTokens (style : RegexStyle) :
    List RegexToken → RegexFrame → List RegexFrame → Nat → List Nat → Except RegexFault Regex
  | [], frame, around, _, _ => if around.isEmpty then .ok frame.whole else .error .opening
  | token :: rest, frame, around, groups, closed =>
    match token with
    | .single (.same number) =>
      if closed.contains number then
        joinTokens style rest (frame.add (.same number)) around groups closed
      else .error .reference
    | .single regex | .edge regex => joinTokens style rest (frame.add regex) around groups closed
    | .count least most => joinTokens style rest (frame.count least most) around groups closed
    | .bar => joinTokens style rest (frame.another closed) around groups frame.known
    | .opening true =>
      joinTokens style rest (.start (groups + 1) closed) (frame :: around) (groups + 1) closed
    | .opening false => joinTokens style rest (.start 0 closed) (frame :: around) groups closed
    | .closing =>
      match around with
      | outer :: around =>
        let whole := if frame.number = 0 then frame.whole else .group frame.number frame.whole
        joinTokens style rest (outer.add whole) around groups
          (frame.number :: frame.gathered ++ closed)
      | [] =>
        if style.extended && !style.strictCounts then
          joinTokens style rest (frame.add (.char ')')) around groups closed
        else .error .closing

/-- **The regular expression that a text denotes**, or what is wrong with it. -/
def readRegex (style : RegexStyle) (s : List Char) : Except RegexFault Regex := do
  let tokens ← readRegexTokens style (s.length + 1) none s
  joinTokens style tokens (.start 0 []) [] 0 []

namespace Regex

/-- How many groups a regular expression has. -/
def groupCount : Regex → Nat
  | .group number body => max number body.groupCount
  | .sequence first second | .either first second => max first.groupCount second.groupCount
  | .repeated body _ _ => body.groupCount
  | _ => 0

end Regex

end ContainerClients.Program
