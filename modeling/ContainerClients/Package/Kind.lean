import ContainerClients.Package.Value

/-!
# Kinds of values

What leads on from a value is written in its kind and in the kinds that its kind extends.

* `Slot` — what a kind has under a name, for its things and for itself.
* `Kind` — a kind, with its line: itself and all that it extends, the nearest first.
* `Kinds`, `Kinds.slot?` — the kinds that are known; the first slot of a name along a line counts.
* `operationTexts` — what is said of the operations that kinds have in common.
-/

namespace ContainerClients

/-- **What a kind has under a name.** -/
inductive SlotForm where
  /-- an operation of its things -/
  | operation
  /-- a method of its things -/
  | method
  /-- a method of the kind, which knows what kind it is called on -/
  | shared
  /-- a method of the kind that makes things -/
  | maker
  /-- a method that belongs to nothing -/
  | fixed
  /-- what its things have, worked out -/
  | place
  /-- what its things have, kept -/
  | field
  /-- a value -/
  | held (value : Value)
  /-- a function for its things -/
  | function (function : Function)
  /-- a function for the kind -/
  | sharedFunction (function : Function)
  /-- a function that works out what its things have -/
  | property (function : Function)

/-- **A slot of a kind.** -/
structure Slot where
  /-- its name -/
  name : String
  /-- what is there -/
  form : SlotForm
  /-- how long the text is that describes it -/
  described : Option Nat
  /-- how long the text of its arguments is -/
  signature : Option Nat

namespace Slot

/-- A slot that holds a value. -/
def holding (name : String) (value : Value) : Slot := ⟨name, .held value, none, none⟩

/-- What a slot says comes before what a thing has of its own. -/
def isPlace (slot : Slot) : Bool :=
  match slot.form with
  | .place | .field | .property _ => true
  | _ => false

end Slot

/-- **A kind of values.** -/
structure Kind where
  /-- its name -/
  name : String
  /-- the kind that it is of -/
  ofKind : String := "type"
  /-- the module that it is written in -/
  home : String := "builtins"
  /-- itself and all the kinds that it extends, the nearest first -/
  line : List String
  /-- the kinds that it extends directly -/
  bases : List String
  /-- how long the text is that describes it, if it is not held in a slot -/
  described : Option Nat
  /-- how long the text of the arguments is that make a thing of the kind -/
  signature : Option Nat
  /-- how many notes on its slots there are, if there can be any -/
  annotated : Option Nat
  /-- its slots -/
  slots : List Slot

/-- A kind of which nothing is known. -/
def Kind.unknown (name : String) : Kind where
  name
  home := ""
  line := [name, "object"]
  bases := ["object"]
  described := none
  signature := none
  annotated := some 0
  slots := []

/-- **The kinds that are known.** -/
abbrev Kinds := List Kind

namespace Kinds

/-- The kind of a name. -/
def kind (kinds : Kinds) (name : String) : Kind :=
  (kinds.find? (·.name == name)).getD (.unknown name)

/-- The slot of a name in one kind, with the name of the kind. -/
def ownSlot? (kinds : Kinds) (kind name : String) : Option (String × Slot) :=
  ((kinds.kind kind).slots.find? (·.name == name)).map (kind, ·)

/-- **The slot of a name along the line of a kind**, with the kind that has it. -/
def slot? (kinds : Kinds) (kind name : String) : Option (String × Slot) :=
  (kinds.kind kind).line.findSome? fun kind => kinds.ownSlot? kind name

end Kinds

/-! ## Slots in groups -/

/-- The length of a text that there may be none of. -/
def lengthOrNone (n : Nat) : Option Nat := if n = 0 then none else some n

/-- **What is said of operations**: how long their descriptions and the texts of their arguments
are. -/
def operationTexts : List (String × Nat × Nat) :=
  [("__abs__", 9, 10), ("__add__", 18, 17), ("__and__", 18, 17), ("__bool__", 23, 10),
   ("__call__", 24, 27), ("__contains__", 19, 15), ("__delattr__", 30, 16), ("__delete__", 32, 20),
   ("__delitem__", 17, 15), ("__divmod__", 27, 17), ("__eq__", 19, 17), ("__float__", 11, 10),
   ("__floordiv__", 19, 17), ("__ge__", 19, 17), ("__get__", 56, 32), ("__getattribute__", 27, 16),
   ("__getitem__", 17, 15), ("__gt__", 18, 17), ("__hash__", 18, 10), ("__iadd__", 22, 17),
   ("__imul__", 22, 17), ("__index__", 89, 10), ("__init__", 62, 27), ("__int__", 9, 10),
   ("__invert__", 5, 10), ("__ior__", 19, 17), ("__iter__", 21, 10), ("__le__", 19, 17),
   ("__len__", 17, 10), ("__lshift__", 19, 17), ("__lt__", 18, 17), ("__mod__", 18, 17),
   ("__mul__", 18, 17), ("__ne__", 19, 17), ("__neg__", 5, 10), ("__or__", 18, 17),
   ("__pos__", 5, 10), ("__pow__", 29, 27), ("__radd__", 18, 17), ("__rand__", 18, 17),
   ("__rdivmod__", 27, 17), ("__repr__", 18, 10), ("__rfloordiv__", 19, 17),
   ("__rlshift__", 19, 17), ("__rmod__", 18, 17), ("__rmul__", 18, 17), ("__ror__", 18, 17),
   ("__rpow__", 29, 27), ("__rrshift__", 19, 17), ("__rshift__", 19, 17), ("__rsub__", 18, 17),
   ("__rtruediv__", 18, 17), ("__rxor__", 18, 17), ("__set__", 38, 27), ("__setattr__", 37, 23),
   ("__setitem__", 23, 22), ("__str__", 17, 10), ("__sub__", 18, 17), ("__truediv__", 18, 17),
   ("__xor__", 18, 17)]

namespace Slot

/-- Operations, by their names. -/
def operations (names : List String) : List Slot :=
  names.map fun name =>
    let texts := operationTexts.lookup name
    ⟨name, .operation, texts.map (·.1), texts.map (·.2)⟩

/-- Slots of one form, with the lengths of their descriptions and of the texts of their
arguments. -/
def slotsOf (form : SlotForm) (rows : List (String × Nat × Nat)) : List Slot :=
  rows.map fun (name, described, signature) =>
    ⟨name, form, lengthOrNone described, lengthOrNone signature⟩

/-- Methods. -/
def methods : List (String × Nat × Nat) → List Slot := slotsOf .method

/-- Methods of the kind. -/
def sharedMethods : List (String × Nat × Nat) → List Slot := slotsOf .shared

/-- Methods that belong to nothing. -/
def fixedMethods : List (String × Nat × Nat) → List Slot := slotsOf .fixed

/-- Places that are worked out, with the lengths of their descriptions. -/
def places (rows : List (String × Nat)) : List Slot :=
  rows.map fun (name, described) => ⟨name, .place, lengthOrNone described, none⟩

/-- Places that are kept, with the lengths of their descriptions. -/
def fields (rows : List (String × Nat)) : List Slot :=
  rows.map fun (name, described) => ⟨name, .field, lengthOrNone described, none⟩

/-- What makes the things of a kind. -/
def maker : Slot := ⟨"__new__", .maker, some 71, some 24⟩

end Slot

end ContainerClients
