import ContainerClients.Package.Kind

/-!
# What leads on from values

A value leads on to what its kind has for its things: methods and operations that belong to the
value from then on, and places.  A kind leads on to what it has itself, and a function that belongs
to a value leads on like the function.

* `Kinds.kindOf`, `Kinds.subject` — the kind of a value, and how messages speak of the value.
* `Slot.onKind`, `Kinds.onThing?` — what a slot comes to on a kind and on a thing.
* `Kinds.place?` — what a value has in a place.
* `Kinds.attribute?` — what leads on from a value under a name.
* `Kinds.absence` — what messages say where a name leads nowhere.
-/

namespace ContainerClients

/-- The kind of descriptors of a form. -/
def DescriptorForm.kind : DescriptorForm → String
  | .method => "method_descriptor"
  | .operation => "wrapper_descriptor"
  | .shared => "classmethod_descriptor"
  | .place => "getset_descriptor"
  | .field => "member_descriptor"

/-- How long two names are with a dot between them. -/
def dottedLength (a b : String) : Nat := a.length + 1 + b.length

/-- **What a slot comes to on a kind**, which need not be the one that has it. -/
def Slot.onKind (slot : Slot) (owner kind : String) : Value :=
  match slot.form with
  | .operation => .descriptor .operation owner slot.name
  | .method => .descriptor .method owner slot.name
  | .shared => .method owner slot.name (.kind kind)
  | .maker => .method owner slot.name (.kind owner)
  | .fixed => .method owner slot.name .nothing
  | .place => .descriptor .place owner slot.name
  | .field => .descriptor .field owner slot.name
  | .held value => value
  | .function function => .function function
  | .sharedFunction function => .boundFunction function (.kind kind)
  | .property function => .property function

namespace Kinds

variable (kinds : Kinds)

/-! ## Kinds of values -/

/-- **The kind of a value.** -/
def kindOf : Value → String
  | .nothing => "NoneType"
  | .text _ => "str"
  | .collection kind _ | .thing kind _ | .generic kind .. => kind
  | .kind name => (kinds.kind name).ofKind
  | .method .. => "builtin_function_or_method"
  | .operation .. => "method-wrapper"
  | .descriptor form .. => form.kind
  | .function _ => "function"
  | .boundFunction .. => "method"
  | .property _ => "property"
  | .package _ => "module"

/-- **How messages speak of a value.** -/
def subject (value : Value) : String :=
  match value with
  | .kind name | .generic _ name _ => "type object '" ++ name ++ "'"
  | .package name => "module '" ++ name ++ "'"
  | .boundFunction .. => "'function' object"
  | value => "'" ++ kinds.kindOf value ++ "' object"

/-- What messages say where a name leads nowhere. -/
def absence (value : Value) (name : String) : String :=
  match value, name with
  | .kind _, "__abstractmethods__" => name
  | _, _ => kinds.subject value ++ " has no attribute '" ++ name ++ "'"

/-! ## Places -/

/-- What a kind has in a place. -/
def placeOfKind? (kind : Kind) (place : String) : Option Value :=
  match place with
  | "__name__" | "__qualname__" => some (.text kind.name.length)
  | "__module__" => some (.text kind.home.length)
  | "__bases__" => some (.foreign "tuple" kind.bases.length)
  | "__mro__" => some (.foreign "tuple" kind.line.length)
  | "__base__" => some ((kind.bases.head?.map Value.kind).getD .nothing)
  | "__dict__" => some (.foreign "mappingproxy" kind.slots.length)
  | "__text_signature__" => some (.ofLength kind.signature)
  | "__annotations__" => kind.annotated.map (Value.foreign "dict")
  | "__doc__" =>
    match kind.described, kinds.ownSlot? kind.name place with
    | some length, _ => some (.text length)
    | none, some (owner, slot) => some (slot.onKind owner kind.name)
    | none, none => some .nothing
  | "__abstractmethods__" => none
  | _ => some .number

/-- What a function has in a place. -/
def placeOfFunction? (function : Function) (place : String) : Option Value :=
  match place with
  | "__name__" => some (.text function.name.length)
  | "__qualname__" => some (.text function.path.length)
  | "__module__" => some (.text function.home.length)
  | "__doc__" => some (.ofLength function.described)
  | "__defaults__" => some ((function.defaults.map (Value.foreign "tuple")).getD .nothing)
  | "__kwdefaults__" => some ((function.keywords.map (Value.foreign "dict")).getD .nothing)
  | "__annotations__" => some (.foreign "dict" function.annotated)
  | "__globals__" => some (.foreign "dict" function.visible)
  | "__builtins__" => some (.foreign "dict" 157)
  | "__dict__" => some (.foreign "dict" 0)
  | "__closure__" => some .nothing
  | "__code__" =>
    some (.thing "code" [("co_name", .text function.name.length),
      ("co_qualname", .text function.path.length)])
  | _ => none

/-- The kind that a method is named by: the one that it is called on. -/
def holder (owner name : String) (receiver : Value) : Option String :=
  match kinds.ownSlot? owner name, receiver with
  | some (_, ⟨_, .fixed, _, _⟩), _ => some owner
  | _, .package _ => none
  | _, .kind kind => some kind
  | _, value => some (kinds.kindOf value)

/-- **What a value has in a place.** -/
def place? (value : Value) (place : String) : Option Value :=
  if place == "__class__" then some (.kind (kinds.kindOf value))
  else match value with
    | .kind name => kinds.placeOfKind? (kinds.kind name) place
    | .function function => placeOfFunction? function place
    | .boundFunction function receiver =>
      match place with
      | "__func__" => some (.function function)
      | "__self__" => some receiver
      | _ => placeOfFunction? function place
    | .property function =>
      match place with
      | "fget" => some (.function function)
      | "__doc__" => some (.ofLength function.described)
      | "__isabstractmethod__" => some .flag
      | _ => some .nothing
    | .method owner name receiver =>
      let slot := (kinds.ownSlot? owner name).map (·.2)
      match place with
      | "__name__" => some (.text name.length)
      | "__qualname__" =>
        some (.text (((kinds.holder owner name receiver).map (dottedLength · name)).getD
          name.length))
      | "__self__" => some receiver
      | "__doc__" => some (.ofLength (slot.bind (·.described)))
      | "__text_signature__" => some (.ofLength (slot.bind (·.signature)))
      | _ => some .nothing
    | .operation owner name receiver =>
      if place == "__self__" then some receiver else descriptorPlace owner name place
    | .descriptor _ owner name => descriptorPlace owner name place
    | .thing kind own =>
      match own.lookup place with
      | some value => some value
      | none =>
        if place == "__dict__" then some (.foreign "dict" own.length)
        else if place == "__weakref__" then some .nothing
        else if kind == "int" || kind == "bool" then some .number
        else if kind == "float" then some (.thing kind [])
        else none
    | _ => none
where
  /-- What a slot has in a place. -/
  descriptorPlace (owner name place : String) : Option Value :=
    let slot := (kinds.ownSlot? owner name).map (·.2)
    match place with
    | "__name__" => some (.text name.length)
    | "__qualname__" => some (.text (dottedLength owner name))
    | "__objclass__" => some (.kind owner)
    | "__doc__" => some (.ofLength (slot.bind (·.described)))
    | "__text_signature__" => some (.ofLength (slot.bind (·.signature)))
    | _ => none

/-! ## Names -/

/-- **What a slot comes to on a thing.** -/
def onThing? (value : Value) (owner : String) (slot : Slot) : Option Value :=
  match slot.form with
  | .operation => some (.operation owner slot.name value)
  | .method => some (.method owner slot.name value)
  | .place | .field => kinds.place? value slot.name
  | .function function => some (.boundFunction function value)
  | .property _ => some (.thing "object" [])
  | _ => some (slot.onKind owner (kinds.kindOf value))

/-- What a value has of its own. -/
def ownOf : Value → List (String × Value)
  | .thing _ own => own
  | _ => []

/-- What leads on from a thing: the places of its kind come before what it has of its own, and that
before all else that its kind has. -/
def ofThing? (value : Value) (name : String) : Option Value :=
  match kinds.slot? (kinds.kindOf value) name, (ownOf value).lookup name with
  | some (owner, slot), some own =>
    if slot.isPlace then kinds.onThing? value owner slot else some own
  | some (owner, slot), none => kinds.onThing? value owner slot
  | none, own => own

/-- What leads on from a kind: the places of kinds come before what it has itself, and that before
all else that kinds have. -/
def ofKind? (kind name : String) : Option Value :=
  match kinds.slot? (kinds.kindOf (.kind kind)) name, kinds.slot? kind name with
  | some (owner, slot), some (other, own) =>
    if slot.isPlace then kinds.onThing? (.kind kind) owner slot else some (own.onKind other kind)
  | some (owner, slot), none => kinds.onThing? (.kind kind) owner slot
  | none, some (other, own) => some (own.onKind other kind)
  | none, none => none

/-- **What leads on from a value under a name.** -/
def attribute? (value : Value) (name : String) : Option Value :=
  match value with
  | .kind kind => kinds.ofKind? kind name
  | .boundFunction function _ =>
    match kinds.slot? "method" name with
    | some (owner, slot) => kinds.onThing? value owner slot
    | none => kinds.ofThing? (.function function) name
  | .generic kind origin count =>
    match name with
    | "__class__" => some (.kind kind)
    | "__origin__" => some (.kind origin)
    | "__args__" => some (.foreign "tuple" count)
    | "__parameters__" => some (.foreign "tuple" 0)
    | "__unpacked__" => some .flag
    | "__typing_unpacked_tuple_args__" => some .nothing
    | _ => kinds.ofKind? origin name
  | value => kinds.ofThing? value name

end Kinds

end ContainerClients
