import ContainerClients.Registry

/-!
# What names stand for

A module gives values under names, and the names of an entry point lead from value to value.  Of
most values only the kind matters, because it says what leads on from them; of a text or a
collection it also matters how many parts there are, and which of them are clients.

* `ExportItem`, `Export` — what a value gives as clients.
* `Function` — what is known of a function.
* `Value` — what a name stands for.
* `Value.given` — what a value gives as clients.
-/

namespace ContainerClients

/-! ## Clients -/

/-- One of the things that a module gives as its clients. -/
inductive ExportItem where
  /-- a client -/
  | client (client : Client)
  /-- a client with an id that nothing can be registered under -/
  | unregistrable
  /-- anything else -/
  | foreign

/-- **What a value gives as clients.** -/
inductive Export where
  /-- nothing -/
  | nothing
  /-- a collection -/
  | collection (items : List ExportItem)
  /-- a value that is no collection -/
  | single

/-- Things that are no clients. -/
def foreignItems (count : Nat) : List ExportItem := List.replicate count .foreign

/-! ## Values -/

/-- **What is known of a function.** -/
structure Function where
  /-- its name -/
  name : String
  /-- its name with those of the kinds that it is written in -/
  path : String
  /-- the module that it is written in -/
  home : String
  /-- how long the text is that describes it -/
  described : Option Nat
  /-- how many of its arguments in order can be left out, if any -/
  defaults : Option Nat
  /-- how many of its named arguments can be left out, if any -/
  keywords : Option Nat
  /-- how many notes on its arguments and its result there are -/
  annotated : Nat
  /-- how many names there are in its module -/
  visible : Nat
deriving DecidableEq, Repr

/-- The forms of descriptors: what a kind holds where its things have something of their own. -/
inductive DescriptorForm where
  /-- a method -/
  | method
  /-- an operation -/
  | operation
  /-- a method of the kind itself -/
  | shared
  /-- a place that is worked out -/
  | place
  /-- a place that is kept -/
  | field
deriving DecidableEq, Repr

/-- **What a name stands for.** -/
inductive Value where
  /-- nothing -/
  | nothing
  /-- a text of some length -/
  | text (length : Nat)
  /-- a collection of some kind -/
  | collection (kind : String) (items : List ExportItem)
  /-- a thing of some kind, with what it has beside what its kind gives it -/
  | thing (kind : String) (own : List (String × Value))
  /-- a kind of things -/
  | kind (name : String)
  /-- a kind of things with the kinds of its parts: the kind of this value, the kind itself, and how
  many kinds of parts there are -/
  | generic (kind origin : String) (count : Nat)
  /-- a method, with the kind that has it, of a value -/
  | method (owner name : String) (receiver : Value)
  /-- an operation, with the kind that has it, of a value -/
  | operation (owner name : String) (receiver : Value)
  /-- what a kind holds for its things -/
  | descriptor (form : DescriptorForm) (owner name : String)
  /-- a function -/
  | function (function : Function)
  /-- a function that belongs to a value -/
  | boundFunction (function : Function) (receiver : Value)
  /-- what a kind holds where a function works out what its things have -/
  | property (function : Function)
  /-- a module -/
  | package (name : String)

namespace Value

/-- A collection of things that are no clients. -/
def foreign (kind : String) (count : Nat) : Value := .collection kind (foreignItems count)

/-- A text of some length, if there is one. -/
def ofLength : Option Nat → Value
  | some length => .text length
  | none => .nothing

/-- A number. -/
def number : Value := .thing "int" []

/-- A truth value. -/
def flag : Value := .thing "bool" []

/-- **What a value gives as clients.** -/
def given : Value → Export
  | .nothing => .nothing
  | .text length => .collection (foreignItems length)
  | .collection _ items => .collection items
  | .generic .. => .collection (foreignItems 1)
  | _ => .single

end Value

/-- **A member of a module.** -/
structure Member where
  /-- its name -/
  name : String
  /-- its value -/
  value : Value

end ContainerClients
