import ContainerClients.Package
import ContainerClients.Text.WordCharacter

/-!
# Entry points

The value of an entry point names a module and, behind a colon, the way from it to what is meant:
`package.module : name.inner [extras]`.  Blanks may stand around the parts, and the extras say
nothing here.

* `EntryPointTarget` — a module, and the names that lead on from it.
* `EntryPointTarget.read?` — reading a value.
* `EntryPoint.load` — what an entry point gives.
-/

namespace ContainerClients

open ContainerClients.Text

/-- **What an entry point means.** -/
structure EntryPointTarget where
  /-- the module -/
  package : String
  /-- the names that lead on from it -/
  path : List String
deriving DecidableEq, Repr

namespace EntryPointTarget

/-- The characters of dotted names. -/
def isNameChar (c : Char) : Bool := isWordChar c || c == '.'

/-- A dotted name at the front of a text, and what follows it and the blanks behind it. -/
def cutName? (s : List Char) : Option (List Char × List Char) :=
  match s.takeWhile isNameChar with
  | [] => none
  | name => some (name, (s.dropWhile isNameChar).dropWhile isBlank)

/-- What may end a value: nothing, or extras in brackets on one line. -/
def isEnd (s : List Char) : Bool :=
  match dropEndWhile isBlank s with
  | [] => true
  | '[' :: extras => extras.getLast? == some ']' && !extras.contains '\n'
  | _ => false

/-- **The target that a value names.** -/
def read? (value : String) : Option EntryPointTarget := do
  let (package, rest) ← cutName? value.toList
  let (path, rest) ← match rest with
    | ':' :: rest => cutName? (rest.dropWhile isBlank)
    | rest => some ([], rest)
  if isEnd rest then
    some ⟨String.ofList package, ((pieces '.' path).filter (!·.isEmpty)).map String.ofList⟩
  else none

end EntryPointTarget

/-- **Why an entry point gives nothing.** -/
inductive EntryPointFault where
  /-- its value names no module -/
  | unreadable
  /-- its module is not imported -/
  | notImported (fault : ImportFault)
  /-- a name leads nowhere; in words -/
  | leadsNowhere (absence : String)
deriving DecidableEq, Repr

/-- The wording of a fault. -/
def EntryPointFault.message : EntryPointFault → String
  | .unreadable => "'NoneType' object has no attribute 'group'"
  | .notImported fault => fault.message
  | .leadsNowhere absence => absence

namespace Installed

/-- One name further. -/
def follow (installed : Installed) (imported : Imported) (source : Value) (name : String) :
    Except EntryPointFault Value :=
  match installed.attribute? imported source name with
  | some next => .ok next
  | none => .error (.leadsNowhere (installed.kinds.absence source name))

/-- What something gives as clients.  A module that has the name for clients stands for them; any
other module is no collection. -/
def exportOf (installed : Installed) (imported : Imported) : Value → Export
  | .package name =>
    ((installed.find? name).bind (installed.clientsExport? imported)).getD .single
  | value => value.given

end Installed

/-- **What an entry point gives**, and the modules that are imported then. -/
def EntryPoint.load (entryPoint : EntryPoint) (installed : Installed) (imported : Imported) :
    Except EntryPointFault Export × Imported :=
  match EntryPointTarget.read? entryPoint.value with
  | none => (.error .unreadable, imported)
  | some target =>
    match installed.importPackage imported target.package with
    | (.error fault, imported) => (.error (.notImported fault), imported)
    | (.ok package, imported) =>
      ((target.path.foldlM (installed.follow imported) (.package package.name)).map
        (installed.exportOf imported), imported)

end ContainerClients
