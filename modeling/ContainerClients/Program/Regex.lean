import ContainerClients.Program.Characters
import ContainerClients.Program.Pattern

/-!
# Regular expressions

A regular expression stands for texts, and is looked for inside a text: where it is found first,
and there as long as can be.

* `Regex` — a regular expression.
* `RegexRules` — how it is applied.
* `Place` — a place in a text, with the groups that are found in front of it.
* `Regex.places` — where what a regular expression stands for may end, the farthest place first.
* `Regex.find?` — the first and longest occurrence in a text.

Of the ways to the same place the first is kept, so that the number of places is bounded by the
text.  Only where a regular expression refers back to its groups do they tell places apart.
-/

namespace ContainerClients.Program

/-- **A regular expression.** -/
inductive Regex where
  /-- the empty text -/
  | empty
  /-- one character -/
  | char (c : Char)
  /-- any character -/
  | anyChar
  /-- a character in one of the ranges, or in none of them -/
  | oneOf (inverted : Bool) (ranges : List (Char × Char))
  /-- one behind the other -/
  | sequence (first second : Regex)
  /-- one or the other -/
  | either (first second : Regex)
  /-- one a number of times -/
  | repeated (body : Regex) (least : Nat) (most : Option Nat)
  /-- a group with a number -/
  | group (number : Nat) (body : Regex)
  /-- the same text as that of a group -/
  | same (number : Nat)
  /-- the start of a line -/
  | lineStart
  /-- the end of a line -/
  | lineEnd
  /-- the start of the text -/
  | textStart
  /-- the end of the text -/
  | textEnd
  /-- the start of a word -/
  | wordStart
  /-- the end of a word -/
  | wordEnd
  /-- an end of a word, or a place that is none -/
  | wordEdge (inverted : Bool)
deriving DecidableEq, Repr

/-- **How a regular expression is applied.** -/
structure RegexRules where
  /-- capital and small letters are the same -/
  ignoreCase : Bool
  /-- lines inside the text have their starts and ends, too -/
  manyLines : Bool
deriving DecidableEq, Repr

/-- **A place in a text.** -/
structure Place where
  /-- the character in front of it -/
  before : Option Char
  /-- the text behind it -/
  rest : List Char
  /-- how many characters are in front of it -/
  position : Nat
  /-- the groups that are found in front of it: where they start, and their texts -/
  groups : List (Nat × Nat × List Char)
deriving DecidableEq, Repr

namespace Place

/-- The place at the start of a text. -/
def start (text : List Char) : Place := ⟨none, text, 0, []⟩

/-- The place behind one more character. -/
def next (place : Place) : Place :=
  match place.rest with
  | [] => place
  | c :: rest => { place with before := some c, rest, position := place.position + 1 }

/-- The place behind more characters. -/
def advance (place : Place) : Nat → Place
  | 0 => place
  | n + 1 => advance place.next n

/-- The place behind a character, if the next one is allowed. -/
def step (place : Place) (allowed : Char → Bool) : List Place :=
  match place.rest with
  | c :: _ => if allowed c then [place.next] else []
  | [] => []

/-- The place itself, if a condition holds there. -/
def keepIf (place : Place) (holds : Bool) : List Place := if holds then [place] else []

/-- A character belongs to words. -/
def isWordPart (c : Char) : Bool := c.isAlphanum || c == '_' || (127 < c.toNat && !isStray c)

/-- There is a character of a word in front of a place. -/
def wordBefore (place : Place) : Bool := place.before.any isWordPart

/-- There is a character of a word behind a place. -/
def wordBehind (place : Place) : Bool := place.rest.head?.any isWordPart

/-- Places by their distance, the farthest first, each once. -/
def ordered (exact : Bool) (places : List Place) : List Place :=
  match places with
  | [] | [_] => places
  | _ =>
    (places.mergeSort fun a b => a.position ≥ b.position).foldr (fun place others =>
      place :: others.filter fun other =>
        other.position != place.position || (exact && other.groups != place.groups)) []

/-- The places behind a number of steps from some places.  Once enough steps are done, a place is
gone on from once only; the number bounds the steps. -/
def repeatedly (exact : Bool) (step : Place → List Place) (least : Nat) (most : Option Nat) :
    Nat → Nat → List Place → List Place → List Place
  | 0, _, _, found => found
  | fuel + 1, count, current, found =>
    let found := if least ≤ count then found ++ current else found
    if current.isEmpty || most == some count then found
    else
      let next := ordered exact (current.flatMap step)
      let next := if least ≤ count then
          next.filter fun place => found.all fun other =>
            other.position != place.position || (exact && other.groups != place.groups)
        else next
      repeatedly exact step least most fuel (count + 1) next found

end Place

namespace Regex

/-- Whether a regular expression refers back to its groups. -/
def refersBack : Regex → Bool
  | .same _ => true
  | .sequence first second | .either first second => first.refersBack || second.refersBack
  | .repeated body _ _ | .group _ body => body.refersBack
  | _ => false

/-- A character is in a set. -/
def inSet (rules : RegexRules) (inverted : Bool) (ranges : List (Char × Char)) (c : Char) : Bool :=
  let found := ranges.any (inRange c) ||
    (rules.ignoreCase &&
      (ranges.any (inRange (smallLetter c)) || ranges.any (inRange (capitalLetter c))))
  found != inverted && !isStray c

/-- Two characters are the same. -/
def sameChar (rules : RegexRules) (c d : Char) : Bool :=
  c == d || (rules.ignoreCase && smallLetter c == smallLetter d)

/-- **Where what a regular expression stands for may end**, if it starts at a place; the farthest
place first. -/
def places (rules : RegexRules) (exact : Bool) : Regex → Place → List Place
  | .empty, place => [place]
  | .char c, place => place.step (sameChar rules c)
  | .anyChar, place => place.step (!isStray ·)
  | .oneOf inverted ranges, place => place.step (inSet rules inverted ranges)
  | .sequence first second, place =>
    Place.ordered exact ((places rules exact first place).flatMap (places rules exact second))
  | .either first second, place =>
    Place.ordered exact (places rules exact first place ++ places rules exact second place)
  | .repeated body least most, place =>
    Place.ordered exact (Place.repeatedly exact (places rules exact body) least most
      (least + place.rest.length + 2) 0 [place] [])
  | .group number body, place =>
    (places rules exact body place).map fun last => { last with
      groups := (number, place.position, place.rest.take (last.position - place.position)) ::
        last.groups.filter (·.1 != number) }
  | .same number, place =>
    match place.groups.lookup number with
    | none => []
    | some (_, text) =>
      let front := place.rest.take text.length
      place.advance text.length |>.keepIf (front.length = text.length &&
        (front.zip text).all fun (c, d) => sameChar rules c d)
  | .lineStart, place =>
    place.keepIf (place.position = 0 || (rules.manyLines && place.before == some '\n'))
  | .lineEnd, place =>
    place.keepIf (place.rest.isEmpty || (rules.manyLines && place.rest.head? == some '\n'))
  | .textStart, place => place.keepIf (place.position = 0)
  | .textEnd, place => place.keepIf place.rest.isEmpty
  | .wordStart, place => place.keepIf (!place.wordBefore && place.wordBehind)
  | .wordEnd, place => place.keepIf (place.wordBefore && !place.wordBehind)
  | .wordEdge inverted, place =>
    place.keepIf ((place.wordBefore != place.wordBehind) != inverted)

/-- An occurrence of a regular expression. -/
structure Occurrence where
  /-- where it starts -/
  start : Place
  /-- where it ends -/
  last : Place

namespace Occurrence

/-- The text of an occurrence. -/
def text (occurrence : Occurrence) : List Char :=
  occurrence.start.rest.take (occurrence.last.position - occurrence.start.position)

/-- The text of a group; the whole of it for 0. -/
def group (occurrence : Occurrence) (number : Nat) : List Char :=
  if number = 0 then occurrence.text
  else ((occurrence.last.groups.lookup number).map (·.2)).getD []

/-- Whether an occurrence is empty. -/
def isEmpty (occurrence : Occurrence) : Bool :=
  occurrence.last.position = occurrence.start.position

end Occurrence

/-- The first occurrence at a place or behind it; the number bounds how far. -/
def findFrom (rules : RegexRules) (exact : Bool) (regex : Regex) :
    Nat → Place → Option Occurrence
  | 0, _ => none
  | fuel + 1, place =>
    match places rules exact regex place with
    | last :: _ => some ⟨place, last⟩
    | [] => if place.rest.isEmpty then none else findFrom rules exact regex fuel place.next

/-- **The first and longest occurrence** at a place or behind it. -/
def find? (rules : RegexRules) (regex : Regex) (place : Place) : Option Occurrence :=
  findFrom rules regex.refersBack regex (place.rest.length + 1) { place with groups := [] }

/-- Whether a regular expression occurs in a text. -/
def occurs (rules : RegexRules) (regex : Regex) (text : List Char) : Bool :=
  (regex.find? rules (.start text)).isSome

end Regex

end ContainerClients.Program
