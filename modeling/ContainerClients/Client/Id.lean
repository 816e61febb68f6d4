import ContainerClients.Datum.Rank
import ContainerClients.Failure

/-!
# Ids of clients

The id of a client is a text as a rule, but any value without parts will do.  A list or a record
cannot be an id.

* `ClientId` — an id; `ClientId.ofDatum?` and `ClientId.toDatum` lead from and to values.
* `Datum.needId` — the id that a value has to be.
* `ClientId.key` — what tells ids apart: numbers are the same id at the same rank, whatever kind of
  number they are.
* `ClientId.Key.precedes` — the order of ids: texts by their characters, numbers by rank.
* `ClientId.areComparable` — ids can be put in order only when all of them are texts or all of them
  are numbers.
-/

namespace ContainerClients

open ContainerClients.Number

/-- **The id of a client.** -/
inductive ClientId where
  /-- no value at all -/
  | nothing
  /-- a truth value -/
  | flag (b : Bool)
  /-- a whole number -/
  | whole (i : Int)
  /-- a number with a fraction -/
  | real (x : Binary64)
  /-- a text -/
  | text (s : String)
deriving DecidableEq, Inhabited

namespace ClientId

/-- **The id that a value is**, unless it has parts and is no text. -/
def ofDatum? : Datum → Option ClientId
  | .null => some .nothing
  | .flag b => some (.flag b)
  | .whole i => some (.whole i)
  | .real x => some (.real x)
  | .text s => some (.text s)
  | .list _ | .record _ => none

/-- The id as a value. -/
def toDatum : ClientId → Datum
  | .nothing => .null
  | .flag b => .flag b
  | .whole i => .whole i
  | .real x => .real x
  | .text s => .text s

/-- The id as text. -/
def shown (id : ClientId) : String := id.toDatum.shown

/-! ## What tells ids apart -/

/-- **What tells ids apart.** -/
inductive Key where
  /-- that of no value -/
  | nothing
  /-- that of a number -/
  | number (rank : Rank)
  /-- that of a text -/
  | text (s : String)
deriving DecidableEq

/-- **The key of an id.** -/
def key : ClientId → Key
  | .nothing => .nothing
  | .flag b => .number (.ofFlag b)
  | .whole i => .number (.ofWhole i)
  | .real x => .number (.ofReal x)
  | .text s => .text s

@[simp] theorem key_text (s : String) : (text s).key = .text s := rfl

theorem key_text_inj {s t : String} : (text s).key = (text t).key ↔ s = t := by simp

/-! ## The order of ids -/

namespace Key

/-- **The order of ids**: texts by their characters, numbers by their rank, and numbers before
texts. -/
def precedes : Key → Key → Bool
  | .text s, .text t => decide (s ≤ t)
  | .number r, .number s => !s.lt r
  | .nothing, _ => true
  | .number _, .text _ => true
  | _, _ => false

/-- Two keys are of one kind, so that one can be put before the other. -/
def sameKind : Key → Key → Bool
  | .text _, .text _ => true
  | .number _, .number _ => true
  | .nothing, .nothing => true
  | _, _ => false

end Key

/-- **Ids can be put in order** when all of them are of one kind. -/
def areComparable (ids : List ClientId) : Bool :=
  ids.all fun a => ids.all fun b => a.key.sameKind b.key

/-- Ids that are texts can be put in order. -/
theorem areComparable_texts (texts : List String) : areComparable (texts.map text) = true := by
  simp [areComparable, Key.sameKind]

/-- The ids by the order of their keys. -/
def sorted (ids : List ClientId) : List ClientId :=
  ids.mergeSort fun a b => a.key.precedes b.key

end ClientId

/-- **The id that a value has to be.** -/
def Datum.needId (d : Datum) : Except Failure ClientId :=
  match ClientId.ofDatum? d with
  | some id => .ok id
  | none => .error .mistyped

theorem Datum.needId_eq_ok_iff {d : Datum} {id : ClientId} :
    d.needId = .ok id ↔ ClientId.ofDatum? d = some id := by
  rw [needId]
  cases ClientId.ofDatum? d <;> simp

@[simp] theorem Datum.needId_text (s : String) : (Datum.text s).needId = .ok (.text s) := rfl

end ContainerClients
