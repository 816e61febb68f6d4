import ContainerClients.Datum

/-!
# Ranks and sameness of values

Numbers of either kind are compared by their exact values; a truth value counts as 0 or 1.

* `Rank` — where a number stands on the line of numbers, or beyond all of them on either side.
* `Rank.ofDatum?` — the rank of a value; what is no number has none.
* `Datum.same` — whether two values are the same.  Numbers are the same at the same rank, lists
  item by item, and records field by field, in whatever order the fields are.
-/

namespace ContainerClients

open ContainerClients.Number

/-- **Where a number stands.** -/
inductive Rank where
  /-- below every finite number -/
  | below
  /-- at a finite number -/
  | number (value : Rat)
  /-- above every finite number -/
  | above
deriving DecidableEq

namespace Rank

/-- The rank of a truth value. -/
def ofFlag (b : Bool) : Rank := .number (if b then 1 else 0)

/-- The rank of a whole number. -/
def ofWhole (i : Int) : Rank := .number i

/-- The rank of a number with a fraction. -/
def ofReal : Binary64 → Rank
  | .infinite negative => if negative then .below else .above
  | .finite negative mantissa exponent => .number (Binary64.finiteValue negative mantissa exponent)

/-- **The rank of a value**, if it is a number. -/
def ofDatum? : Datum → Option Rank
  | .flag b => some (ofFlag b)
  | .whole i => some (ofWhole i)
  | .real x => some (ofReal x)
  | _ => none

/-- One rank is below another. -/
def lt : Rank → Rank → Bool
  | .below, .below => false
  | .below, _ => true
  | .number a, .number b => a < b
  | .number _, .above => true
  | .number _, .below => false
  | .above, _ => false

end Rank

namespace Datum

mutual

/-- **Two values are the same.** -/
def same : Datum → Datum → Bool
  | .null, .null => true
  | .text s, .text t => s == t
  | .list items, .list others => sameItems items others
  | .record fields, .record others =>
    fields.length == others.length && sameFields fields others
  | d, e =>
    match Rank.ofDatum? d, Rank.ofDatum? e with
    | some r, some s => r = s
    | _, _ => false

/-- Two lists of values are the same. -/
def sameItems : List Datum → List Datum → Bool
  | [], [] => true
  | d :: rest, e :: others => same d e && sameItems rest others
  | _, _ => false

/-- Every field is among the others with the same value. -/
def sameFields : List (String × Datum) → List (String × Datum) → Bool
  | [], _ => true
  | (key, d) :: rest, others =>
    (match field? key others with
      | some e => same d e
      | none => false) && sameFields rest others

end

end Datum

end ContainerClients
