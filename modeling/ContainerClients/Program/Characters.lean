import ContainerClients.Program.Octets
import ContainerClients.Text.Lowercase

/-!
# Characters of more than one byte

Some tools work on characters in UTF-8 and not on bytes.  A byte that belongs to no character is
kept: it is written as a character beyond all that are in use.

* `readCharacter` — the character at the front of bytes.
* `Octets.characters`, `Octets.ofCharacters` — bytes as characters, and back.
* `smallLetter`, `capitalLetter` — one character for another of the other case.
-/

namespace ContainerClients.Program

/-- The number of the first of the characters that stand for single bytes. -/
def strayBase : Nat := 0x10FF00

/-- A character stands for a byte that belongs to no character. -/
def isStray (c : Char) : Bool := strayBase ≤ c.toNat

/-- **The character at the front of bytes**, and what follows it. -/
def readCharacter (first : Char) (rest : Octets) : Char × Octets :=
  if first.toNat < 0x80 then (first, rest)
  else
    let found := [1, 2, 3].findSome? fun more =>
      let bytes := Octets.toBytes (first :: rest.take more)
      match Text.Utf8.decode bytes with
      | [c] => if Text.Utf8.encodeChar c == bytes then some (c, rest.drop more) else none
      | _ => none
    found.getD (Char.ofNat (strayBase + first.toNat), rest)

namespace Octets

/-- The characters of bytes; the number bounds how many there are. -/
def charactersWith : Nat → Octets → List Char
  | 0, _ => []
  | _, [] => []
  | fuel + 1, first :: rest =>
    let (c, rest) := readCharacter first rest
    c :: charactersWith fuel rest

/-- **The characters of bytes.** -/
def characters (s : Octets) : List Char :=
  if s.all (·.toNat < 0x80) then s else charactersWith s.length s

/-- **The bytes of characters.** -/
def ofCharacters (s : List Char) : Octets :=
  if s.all (·.toNat < 0x80) then s
  else s.flatMap fun c =>
    if isStray c then [Char.ofNat (c.toNat - strayBase)]
    else ofBytes (Text.Utf8.encodeChar c)

end Octets

/-- The small letter of a capital. -/
def smallLetter (c : Char) : Char := Text.lowerChar c

/-- The capital of a small letter. -/
def capitalLetter (c : Char) : Char :=
  if c.toNat < 0x80 then c.toUpper
  else
    let found := Text.caseRuns.findSome? fun run =>
      let n := (c.toNat : Int) - run.shift
      let capital := Char.ofNat n.toNat
      if 0 ≤ n && run.covers capital then some capital else none
    found.getD c

end ContainerClients.Program
