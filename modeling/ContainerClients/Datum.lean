import ContainerClients.Number.Binary64
import ContainerClients.Text.Quoted

/-!
# Untyped values

Configuration comes as untyped values: the person who writes it may give a command as one text or
as a list, a mount as a text, a pair or a record, and a number where a name is expected.  `Datum`
is such a value.

* `Datum.shown` — the value as text: a text stands for itself, everything else is written out.
* `Datum.literal` — the value written out, texts quoted; this is how values look inside others.
* `Datum.isTruthy` — whether a value counts as given where emptiness means absence.
* `Datum.items?` — the values that a value is made of, for those that are made of any.
-/

namespace ContainerClients

open ContainerClients.Text

/-- **An untyped value.**  Records keep the order of their fields. -/
inductive Datum where
  /-- nothing -/
  | null
  /-- a truth value -/
  | flag (b : Bool)
  /-- a whole number, of any size -/
  | whole (i : Int)
  /-- a number with a fraction -/
  | real (x : Number.Binary64)
  /-- a text -/
  | text (s : String)
  /-- a list -/
  | list (items : List Datum)
  /-- a record of named fields -/
  | record (fields : List (String × Datum))
deriving Inhabited

namespace Datum

/-! ## Values as text -/

mutual

/-- **The value written out**, with texts as quoted literals. -/
def literal : Datum → String
  | .null => "None"
  | .flag b => if b then "True" else "False"
  | .whole i => Number.text i
  | .real x => String.ofList x.text
  | .text s => Text.literal s
  | .list items => "[" ++ ", ".intercalate (literals items) ++ "]"
  | .record fields => "\x7b" ++ ", ".intercalate (fieldLiterals fields) ++ "\x7d"

/-- The items of a list, written out. -/
def literals : List Datum → List String
  | [] => []
  | d :: rest => literal d :: literals rest

/-- The fields of a record, written out. -/
def fieldLiterals : List (String × Datum) → List String
  | [] => []
  | (key, d) :: rest => (Text.literal key ++ ": " ++ literal d) :: fieldLiterals rest

end

/-- **The value as text.**  A text is itself; any other value is written out. -/
def shown : Datum → String
  | .text s => s
  | d => d.literal

@[simp] theorem shown_text (s : String) : shown (.text s) = s := rfl

/-! ## Values as parts -/

/-- A value counts as given unless it is nothing, zero, false or empty. -/
def isTruthy : Datum → Bool
  | .null => false
  | .flag b => b
  | .whole i => i != 0
  | .real (.finite _ mantissa _) => mantissa != 0
  | .real (.infinite _) => true
  | .text s => !s.isEmpty
  | .list items => !items.isEmpty
  | .record fields => !fields.isEmpty

/-- A value is a text. -/
def isText : Datum → Bool
  | .text _ => true
  | _ => false

/-- The value, unless it counts as absent. -/
def orElse (d other : Datum) : Datum := if d.isTruthy then d else other

/-- **The parts of a value**: the items of a list, the characters of a text, the keys of a record.
Nothing and numbers have no parts. -/
def items? : Datum → Option (List Datum)
  | .list items => some items
  | .text s => some (s.toList.map fun c => .text (String.singleton c))
  | .record fields => some (fields.map fun field => .text field.1)
  | _ => none

/-- The list of the given texts. -/
def ofTexts (texts : List String) : Datum := .list (texts.map .text)

/-- The value of a field of a record. -/
def field? (key : String) (fields : List (String × Datum)) : Option Datum :=
  (fields.find? (·.1 == key)).map (·.2)

end Datum

end ContainerClients
