import ContainerClients.Datum

/-!
# JSON text of a value

Two layouts of the same text: on one line, with `", "` between items and `": "` behind keys, and
indented by two spaces a level.  Text is kept within printable ASCII; every other character is
escaped, beyond `U+FFFF` as a pair of surrogates.

* `Datum.jsonText` — the text of a string in quotation marks.
* `Datum.json` — one line.
* `Datum.indentedJson` — one item a line; an empty list or record stays on one line.
-/

namespace ContainerClients.Datum

open ContainerClients.Text

/-- A code unit as an escape. -/
def jsonUnit (n : Nat) : List Char := '\\' :: 'u' :: hexText 4 n

/-- One character inside quotation marks. -/
def jsonChar (c : Char) : List Char :=
  if c = '"' then ['\\', '"']
  else if c = '\\' then ['\\', '\\']
  else if c = '\n' then ['\\', 'n']
  else if c = '\r' then ['\\', 'r']
  else if c = '\t' then ['\\', 't']
  else if c.toNat = 0x8 then ['\\', 'b']
  else if c.toNat = 0xC then ['\\', 'f']
  else if 0x20 ≤ c.toNat ∧ c.toNat ≤ 0x7E then [c]
  else if c.toNat < 0x10000 then jsonUnit c.toNat
  else
    let n := c.toNat - 0x10000
    jsonUnit (0xD800 + n / 0x400) ++ jsonUnit (0xDC00 + n % 0x400)

/-- **A string in quotation marks.** -/
def jsonText (s : String) : String := String.ofList ('"' :: s.toList.flatMap jsonChar ++ ['"'])

/-- A value without parts. -/
def jsonAtom : Datum → String
  | .null => "null"
  | .flag b => if b then "true" else "false"
  | .whole i => Number.text i
  | .real (.infinite negative) => if negative then "-Infinity" else "Infinity"
  | .real x => String.ofList x.text
  | .text s => jsonText s
  | .list _ => "[]"
  | .record _ => "\x7b\x7d"

mutual

/-- **The text on one line.** -/
def json : Datum → String
  | .list items => "[" ++ ", ".intercalate (jsonItems items) ++ "]"
  | .record fields => "\x7b" ++ ", ".intercalate (jsonFields fields) ++ "\x7d"
  | d => d.jsonAtom

/-- The texts of items. -/
def jsonItems : List Datum → List String
  | [] => []
  | d :: rest => json d :: jsonItems rest

/-- The texts of fields. -/
def jsonFields : List (String × Datum) → List String
  | [] => []
  | (key, d) :: rest => (jsonText key ++ ": " ++ json d) :: jsonFields rest

end

/-- The start of a line at a depth. -/
def lineStart (depth : Nat) : String := "\n" ++ String.ofList (List.replicate (2 * depth) ' ')

/-- Parts between brackets, one a line. -/
def bracketed (opened closed : String) (depth : Nat) (parts : List String) : String :=
  if parts.isEmpty then opened ++ closed
  else
    opened ++ lineStart (depth + 1) ++ ("," ++ lineStart (depth + 1)).intercalate parts
      ++ lineStart depth ++ closed

mutual

/-- The indented text of a value that stands at a depth. -/
def indentedAt (depth : Nat) : Datum → String
  | .list items => bracketed "[" "]" depth (indentedItems (depth + 1) items)
  | .record fields => bracketed "\x7b" "\x7d" depth (indentedFields (depth + 1) fields)
  | d => d.jsonAtom

/-- The indented texts of items. -/
def indentedItems (depth : Nat) : List Datum → List String
  | [] => []
  | d :: rest => indentedAt depth d :: indentedItems depth rest

/-- The indented texts of fields. -/
def indentedFields (depth : Nat) : List (String × Datum) → List String
  | [] => []
  | (key, d) :: rest => (jsonText key ++ ": " ++ indentedAt depth d) :: indentedFields depth rest

end

/-- **The indented text.** -/
def indentedJson (d : Datum) : String := indentedAt 0 d

end ContainerClients.Datum
