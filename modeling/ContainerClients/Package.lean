import ContainerClients.Package.Attribute

/-!
# Client packages

A client package is a module that can be imported by its dotted name and that gives clients under
the name `CLIENTS`.  What it gives there need not be what it should.  A module has a body, which
runs when the module is imported: it defines the members of the module, then it imports other
modules, and it comes to its end, good or bad.  It does nothing else, and both the body and what it
imports come to the same end whenever it runs.

* `Package` — a module: what its body imports, and what it gives or why it cannot be imported.
* `Installed` — the packages and entry points that are there.
* `Installed.importChain`, `Installed.runBody` — importing modules, each below the one before, and
  running their bodies.
* `Installed.importPackage` — importing by name: every dotted prefix is imported first.
* `Installed.resolve?` — what a name in a module stands for.  A module below it that was imported
  hides a member of the same name.
* `Installed.attribute?` — what leads on from a value under a name.
-/

namespace ContainerClients

/-- **A module.** -/
structure Package where
  /-- its dotted name -/
  name : String
  /-- in how many places modules below it are looked for; `none` for a module that has none below -/
  places : Option Nat
  /-- how long the text is that describes it, if there is one -/
  described : Option Nat
  /-- its members, or the text of the fault that its body ends with -/
  content : Except String (List Member)
  /-- how many notes on its members there are -/
  annotated : Nat := 0
  /-- the dotted names of the modules that its body imports, in order -/
  imports : List String := []

/-- The name under which a module gives its clients. -/
def clientsName : String := "CLIENTS"

/-- The group of the entry points that give clients. -/
def entryPointGroup : String := "lsp_docker.clients"

/-- **An entry point**: a name for what a module gives. -/
structure EntryPoint where
  /-- the name of the entry point -/
  name : String
  /-- the text that says which module it is, and which of its members -/
  value : String
  /-- the group that it is declared for -/
  group : String

/-- **What is installed.** -/
structure Installed where
  /-- the modules; of two with one name, the first counts -/
  packages : List Package
  /-- the kinds of the values that modules give -/
  kinds : Kinds
  /-- the entry points, or the text of the fault that listing them meets -/
  entryPoints : Except String (List EntryPoint)

/-- **The modules that were imported**, by name. -/
abbrev Imported := List String

/-- The imported modules with one more. -/
def Imported.mark (imported : Imported) (name : String) : Imported :=
  if imported.contains name then imported else imported ++ [name]

/-- **Why a module is not imported.** -/
inductive ImportFault where
  /-- it raises a fault of its own -/
  | broken (reason : String)
  /-- there is none of this name -/
  | missing (name : String)
  /-- there is none of this name, below a module that has no parts -/
  | belowPlain (name parent : String)
  /-- the name starts with a dot -/
  | relative (name : String)
deriving DecidableEq, Repr

/-- The wording of a fault. -/
def ImportFault.message : ImportFault → String
  | .broken reason => reason
  | .missing name => "No module named " ++ Text.literal name
  | .belowPlain name parent =>
    "No module named " ++ Text.literal name ++ "; " ++ Text.literal parent ++ " is not a package"
  | .relative name =>
    "the 'package' argument is required to perform a relative import for " ++ Text.literal name

/-- **The dotted prefixes of a name**, the shortest first; the name itself is the last. -/
def dottedPrefixes (name : String) : List String :=
  let parts := Text.pieces '.' name.toList
  (List.range parts.length).map fun k => String.ofList (['.'].intercalate (parts.take (k + 1)))

namespace Package

/-- A module that only exists because another is below it. -/
def parent (name : String) : Package where
  name
  places := some 0
  described := none
  content := .ok []

/-- The package that a module belongs to: itself if it can have modules below it. -/
def home (package : Package) : String :=
  if package.places.isSome then package.name
  else match (dottedPrefixes package.name).dropLast.getLast? with
    | some above => above
    | none => ""

/-- What a module was made from. -/
def origin (package : Package) : Value :=
  .thing "ModuleSpec"
    [("name", .text package.name.length), ("parent", .text package.home.length),
     ("loader", .thing "Loader" []), ("origin", .nothing), ("loader_state", .nothing),
     ("submodule_search_locations",
       (package.places.map (Value.foreign "list")).getD .nothing),
     ("cached", .nothing), ("has_location", .flag)]

/-- The members that every module has: its name, its package, what it was made from, its
description, and where modules below it are looked for. -/
def commonMembers (package : Package) : List Member :=
  [⟨"__name__", .text package.name.length⟩, ⟨"__package__", .text package.home.length⟩,
   ⟨"__spec__", package.origin⟩, ⟨"__loader__", .thing "Loader" []⟩,
   ⟨"__doc__", .ofLength package.described⟩]
  ++ (package.places.map fun count => ⟨"__path__", .foreign "list" count⟩).toList

/-- **The member of a name.**  Its own members come before those that every module has. -/
def member? (package : Package) (name : String) : Option Member :=
  match package.content with
  | .ok members => (members ++ package.commonMembers).find? (·.name == name)
  | .error _ => none

end Package

namespace Installed

/-! ## Importing -/

/-- A module that is there because another is below it. -/
def isParent (installed : Installed) (name : String) : Bool :=
  installed.packages.any fun package => (dottedPrefixes package.name).dropLast.contains name

/-- The module of a name. -/
def find? (installed : Installed) (name : String) : Option Package :=
  (installed.packages.find? (·.name == name)).or
    (if installed.isParent name then some (.parent name) else none)

/-- A module below the one that was imported before it.  Below a module that has none below, it is
there only if it was imported already. -/
def locate (installed : Installed) (imported : Imported) (parent : Option Package)
    (name : String) : Except ImportFault Package :=
  match parent with
  | some { name := parentName, places := none, .. } =>
    match imported.contains name, installed.find? name with
    | true, some package => .ok package
    | _, _ => .error (.belowPlain name parentName)
  | _ =>
    match installed.find? name with
    | none => .error (.missing name)
    | some package => .ok package

/-- Imports modules one after the other, each below the one before, while the bodies of some modules
are being run.  A module that is being run is there already; any other has its body run, and what
that imports stays imported though the body ends with a fault. -/
def importChain (installed : Installed) (run : Imported → Package → Imported)
    (running : List String) (imported : Imported) (parent : Option Package) :
    List String → Except ImportFault (Option Package) × Imported
  | [] => (.ok parent, imported)
  | name :: rest =>
    match installed.locate imported parent name with
    | .error fault => (.error fault, imported)
    | .ok package =>
      if running.contains name then importChain installed run running imported (some package) rest
      else match package.content with
        | .error reason => (.error (.broken reason), run imported package)
        | .ok _ =>
          importChain installed run running ((run imported package).mark name) (some package) rest

/-- The names of the modules with a body of their own that are not being run. -/
def idle (installed : Installed) (running : List String) : List String :=
  (installed.packages.map (·.name)).filter (!running.contains ·)

/-- **A body that starts to run is idle no more.** -/
theorem length_idle_lt {installed : Installed} {running : List String} {name : String}
    (h : name ∈ installed.idle running) :
    (installed.idle (name :: running)).length < (installed.idle running).length := by
  have hidle : installed.idle (name :: running)
      = (installed.idle running).filter fun other => !other == name := by
    rw [idle, idle, List.filter_filter]
    refine List.filter_congr fun other _ => ?_
    rw [List.contains_cons, Bool.not_or]
  rw [hidle, List.length_filter_lt_length_iff_exists]
  exact ⟨name, h, by simp⟩

/-- **Running the body of a module** imports the modules that it names, each with all above it.  A
body that is being run already is not run again; so bodies can import each other's modules.  A fault
of one of these imports is seen in what the body comes to, if the body does not handle it.  A body
is run once only; here it is run at every import, and since its imports come to the same end each
time, all that they bring is there from the first run on. -/
@[semireducible]
def runBody (installed : Installed) (running : List String) (imported : Imported)
    (package : Package) : Imported :=
  if package.name ∈ installed.idle running then
    let running' := package.name :: running
    package.imports.foldl (fun imported name =>
      (installed.importChain (installed.runBody running') running' imported none
        (dottedPrefixes name)).2) imported
  else imported
termination_by (installed.idle running).length
decreasing_by exact length_idle_lt (by assumption)

/-- **Importing a module** (`import_module`) imports every module above it first.  Those stay
imported when a module further down cannot be. -/
def importPackage (installed : Installed) (imported : Imported) (name : String) :
    Except ImportFault Package × Imported :=
  if name.toList.head? == some '.' then (.error (.relative name), imported)
  else match installed.importChain (installed.runBody []) [] imported none
      (dottedPrefixes name) with
    | (.ok (some package), imported) => (.ok package, imported)
    | (.ok none, imported) => (.error (.missing name), imported)
    | (.error fault, imported) => (.error fault, imported)

/-! ## Names -/

/-- **What a name in a module stands for**, once some modules are imported. -/
def resolve? (installed : Installed) (imported : Imported) (package : Package) (name : String) :
    Option Value :=
  let below := package.name ++ "." ++ name
  if imported.contains below then (installed.find? below).map fun found => .package found.name
  else (package.member? name).map (·.value)

/-- The names in a module: those of its members, and of the modules below it that were imported. -/
def namesIn (imported : Imported) (package : Package) : List String :=
  let members := match package.content with
    | .ok members => members
    | .error _ => []
  let front := package.name ++ "."
  let below := imported.filterMap fun name =>
    if name.startsWith front then
      let rest := name.toList.drop front.length
      if rest.contains '.' then none else some (String.ofList rest)
    else none
  let notes := if package.annotated = 0 then [] else ["__annotations__"]
  ((members ++ package.commonMembers).map (·.name) ++ below ++ notes).eraseDups

/-- What leads on from a module: its kind and the table of its names come before the names
themselves, and those before all else that its kind has. -/
def ofPackage? (installed : Installed) (imported : Imported) (package name : String) :
    Option Value :=
  let value : Value := .package package
  let found := installed.find? package
  match name with
  | "__class__" => installed.kinds.place? value name
  | "__dict__" => some (.foreign "dict" ((found.map (namesIn imported)).getD []).length)
  | "__annotations__" => some (.foreign "dict" ((found.map (·.annotated)).getD 0))
  | _ =>
    (found.bind fun found => installed.resolve? imported found name).or
      (installed.kinds.ofThing? value name)

/-- **What leads on from a value under a name.** -/
def attribute? (installed : Installed) (imported : Imported) (value : Value) (name : String) :
    Option Value :=
  match value with
  | .package package => installed.ofPackage? imported package name
  | value => installed.kinds.attribute? value name

/-- What a module gives as its clients, if it has the name for them. -/
def clientsExport? (installed : Installed) (imported : Imported) (package : Package) :
    Option Export :=
  (installed.resolve? imported package clientsName).map Value.given

end Installed

end ContainerClients
