import ContainerClients.Number.Decimal
import ContainerClients.Text.Cut
import ContainerClients.Text.Utf8

/-!
# Bytes as characters

Programs read and write bytes, and take arguments that are bytes too.  A byte is handled as the
character of the same number, so that one kind of text serves for all three.

* `Octets` — text of characters below 256, one a byte.
* `Octets.ofText`, `ofBytes`, `toBytes` — to and from text and bytes.
* `Octets.lines`, `endedLines` — the lines of a text.
-/

namespace ContainerClients.Program

/-- **Bytes, one a character.** -/
abbrev Octets := List Char

namespace Octets

/-- The characters of bytes. -/
def ofBytes (bytes : List UInt8) : Octets := bytes.map fun b => Char.ofNat b.toNat

/-- The bytes of characters. -/
def toBytes (octets : Octets) : List UInt8 := octets.map fun c => UInt8.ofNat c.toNat

/-- The bytes of a text in UTF-8. -/
def ofText (s : String) : Octets := ofBytes (Text.Utf8.encode s.toList)

/-- The lines of a text.  A last line need not be ended. -/
def lines (octets : Octets) : List Octets :=
  let all := Text.pieces '\n' octets
  if all.getLast? == some [] then all.dropLast else all

/-- The lines of a text with their ends. -/
def endedLines (octets : Octets) : List Octets :=
  let all := Text.pieces '\n' octets
  let last := all.getLast?.getD []
  all.dropLast.map (· ++ ['\n']) ++ (if last.isEmpty then [] else [last])

/-- A line without its end. -/
def withoutEnd (line : Octets) : Octets :=
  if line.getLast? == some '\n' then line.dropLast else line

/-- The number that decimal digits denote; nothing if there is any other character. -/
def natural? (octets : Octets) : Option Nat :=
  if octets.isEmpty || !octets.all Char.isDigit then none
  else some (octets.foldl (fun n c => 10 * n + (c.toNat - 48)) 0)

/-- The decimal digits of a number. -/
def ofNat (n : Nat) : Octets := Number.digits n

/-- A text padded in front to a width. -/
def padStart (width : Nat) (pad : Char) (octets : Octets) : Octets :=
  List.replicate (width - octets.length) pad ++ octets

/-- A text padded at the end to a width. -/
def padEnd (width : Nat) (octets : Octets) : Octets :=
  octets ++ List.replicate (width - octets.length) ' '

/-- Parts of so many bytes; the number bounds how many there are. -/
def groups (size : Nat) : Nat → Octets → List Octets
  | 0, _ => []
  | _, [] => []
  | fuel + 1, s => s.take (max size 1) :: groups size fuel (s.drop (max size 1))

/-- Numbers taken together. -/
def total (numbers : List Nat) : Nat := numbers.foldl (· + ·) 0

/-- The order of texts by their bytes. -/
def le : Octets → Octets → Bool
  | [], _ => true
  | _ :: _, [] => false
  | c :: s, d :: t => c < d || (c == d && le s t)

end Octets

end ContainerClients.Program
