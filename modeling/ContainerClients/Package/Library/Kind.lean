import ContainerClients.Package.Kind.Basic
import ContainerClients.Package.Library.Function

/-!
# The library's own kinds

The library's modules define kinds of things: records, kinds of faults, and kinds that have
functions only.

* `recordKind`, `plainKind`, `faultKindOf` — kinds by what they are made of.
* `libraryKinds` — the library's own kinds, and those that it takes over.
-/

namespace ContainerClients

open Slot

/-! ## Making kinds -/

/-- A slot with a function. -/
def functionSlot (path : String) : Slot :=
  ⟨lastPart path, .function (libraryFunction path), none, none⟩

/-- A slot with a function for the kind. -/
def sharedSlot (path : String) : Slot :=
  ⟨lastPart path, .sharedFunction (libraryFunction path), none, none⟩

/-- A slot with a function that works out what is there. -/
def propertySlot (path : String) : Slot :=
  ⟨lastPart path, .property (libraryFunction path), none, none⟩

/-- The slots that every written kind has: its module and its description. -/
def writtenSlots (home : String) (described : Nat) : List Slot :=
  [.holding "__module__" (.text home.length),
   .holding "__doc__" (.ofLength (lengthOrNone described))]

/-- The places of things that can have more than their kind gives them. -/
def ownPlaces : List Slot := places [("__dict__", 33), ("__weakref__", 37)]

/-- A kind with slots of its own, and how many notes there are on them. -/
def plainKind (home name : String) (described annotated : Nat) (slots : List Slot) : Kind where
  name
  home
  line := [name, "object"]
  bases := ["object"]
  described := none
  signature := none
  annotated := some annotated
  slots := writtenSlots home described ++ slots ++ ownPlaces

/-- A function that comes with a record. -/
def recordFunction (home kind name : String) (defaults : Option Nat) (annotated : Nat) : Slot :=
  ⟨name, .function ⟨name, kind ++ "." ++ name, home, none, defaults, none, annotated,
    libraryNameCount home⟩, none, none⟩

/-- **A kind of records** with a number of fields.  Some of them have a value from the start, which
is held in a slot unless it is made anew for each record. -/
def recordKind (home name : String) (isFixed : Bool) (described fields : Nat)
    (defaults : Option Nat) (slots : List Slot) : Kind :=
  let common (name' : String) := recordFunction home name name' none 0
  plainKind home name described fields <|
    [.holding "__annotations__" (.foreign "dict" fields)] ++ slots ++
    [.holding "__dataclass_params__" (.thing "_DataclassParams" []),
     .holding "__dataclass_fields__" (.foreign "dict" fields),
     recordFunction home name "__init__" defaults (fields + 1), common "__repr__",
     common "__eq__", .holding "__match_args__" (.foreign "tuple" fields)] ++
    (if isFixed then [common "__setattr__", common "__delattr__", common "__hash__"]
      else [.holding "__hash__" .nothing])

/-- **A kind of faults.** -/
def faultKindOf (name : String) (described : Nat) (bases line : List String)
    (slots : List Slot) : Kind where
  name
  home := "lsp_docker.errors"
  line := name :: line
  bases
  described := none
  signature := none
  annotated := some 0
  slots := writtenSlots "lsp_docker.errors" described ++ slots

/-- A kind that comes from elsewhere: its module, its description and the kinds that it extends. -/
def outsideKind (home name ofKind : String) (described : Nat) (bases line : List String)
    (slots : List Slot) : Kind where
  name
  ofKind
  home
  line := name :: line
  bases
  described := none
  signature := none
  annotated := some 0
  slots := writtenSlots home described ++ slots

/-! ## The kinds -/

/-- What the line of every kind of faults ends with. -/
def faultLine : List String := ["Exception", "BaseException", "object"]

/-- The kinds of faults. -/
def faultKinds : Kinds :=
  [faultKindOf "LspDockerError" 37 ["Exception"] faultLine (places [("__weakref__", 37)]),
   faultKindOf "PathNotMapped" 67 ["LspDockerError", "ValueError"]
     ("LspDockerError" :: "ValueError" :: faultLine) [functionSlot "PathNotMapped.__init__"],
   faultKindOf "UnknownServerId" 57 ["LspDockerError", "LookupError"]
     ("LspDockerError" :: "LookupError" :: faultLine) [functionSlot "UnknownServerId.__init__"],
   faultKindOf "InvalidServerSpec" 69 ["LspDockerError", "ValueError"]
     ("LspDockerError" :: "ValueError" :: faultLine)
     [functionSlot "InvalidServerSpec.__init__"]]

/-- The kinds of records. -/
def recordKinds : Kinds :=
  [recordKind "lsp_docker.adapter" "DockerClientBinding" true 40 7 none [],
   recordKind "lsp_docker.catalog" "ServerSpec" true 48 6 (some 3)
     [.holding "docker_image_id" .nothing, .holding "docker_container_name" .nothing,
      .holding "priority" .nothing, sharedSlot "ServerSpec.from_mapping"],
   recordKind "lsp_docker.catalog" "CatalogConfig" true 60 6 (some 5)
     [.holding "docker_image_id" (.text 31), .holding "docker_container_name" (.text 13),
      .holding "priority" .number,
      .holding "client_packages" (.foreign "tuple" bundledNames.length),
      .holding "server_specs" (.foreign "tuple" 8), functionSlot "CatalogConfig.__post_init__",
      sharedSlot "CatalogConfig.from_env"],
   recordKind "lsp_docker.catalog" "InitReport" false 37 3 (some 3)
     [propertySlot "InitReport.ok"],
   recordKind "lsp_docker.catalog" "ResolvedServer" true 44 4 none [],
   recordKind "lsp_docker.cli" "RuntimeStatus" false 42 5 (some 2)
     [.holding "version" .nothing, .holding "reason" .nothing],
   recordKind "lsp_docker.clients.base" "StdioConnection" true 62 1 none
     [functionSlot "StdioConnection.open"],
   recordKind "lsp_docker.clients.base" "ClientDescriptor" true 63 8 (some 5)
     [.holding "server_command" (.foreign "tuple" 0), .holding "priority" .number,
      .holding "activation_fn" .nothing,
      .holding "uri_to_path" (.function (libraryFunction "uri_to_path")),
      .holding "path_to_uri" (.function (libraryFunction "path_to_uri")),
      functionSlot "ClientDescriptor.handles_extension",
      functionSlot "ClientDescriptor.is_activated"],
   recordKind "lsp_docker.containers" "ContainerIdentity" true 66 2 none
     [propertySlot "ContainerIdentity.name"]]

/-- A lock. -/
def lockValue : Value := .thing "_thread.lock" []

/-- The kinds that have functions only. -/
def functionKinds : Kinds :=
  [plainKind "lsp_docker.clients.registry" "ClientRegistry" 191 1 <|
     [.holding "__annotations__" (.foreign "dict" 1),
      .holding "_instance" (.thing "ClientRegistry" []), .holding "_lock" lockValue,
      sharedSlot "ClientRegistry.get", sharedSlot "ClientRegistry.reset",
      propertySlot "ClientRegistry.server_ids"] ++
     ["__init__", "register", "get_client", "require_client", "clients_for_file",
      "__contains__"].map fun name => functionSlot ("ClientRegistry." ++ name),
   plainKind "lsp_docker.containers" "ContainerIdentityAllocator" 338 0
     [functionSlot "ContainerIdentityAllocator.__init__",
      functionSlot "ContainerIdentityAllocator.next"],
   plainKind "lsp_docker.containers" "NewContainerLauncher" 197 0
     [functionSlot "NewContainerLauncher.__init__", functionSlot "NewContainerLauncher.__call__"],
   plainKind "lsp_docker.containers" "ContainerExecLauncher" 66 0
     [functionSlot "ContainerExecLauncher.__init__",
      functionSlot "ContainerExecLauncher.__call__"]]

/-- The functions of a kind that comes from elsewhere. -/
def functionSlotsOf (kind : String) : List Slot :=
  libraryFunctions.filterMap fun function =>
    if function.path.startsWith (kind ++ ".") then some (functionSlot function.path) else none

/-- The kinds that come from elsewhere. -/
def outsideKinds : Kinds :=
  [outsideKind "abc" "ABCMeta" "type" 656 ["type"] ["type", "object"] [],
   outsideKind "collections.abc" "Callable" "ABCMeta" 0 ["object"] ["object"] [],
   outsideKind "collections.abc" "Iterable" "ABCMeta" 0 ["object"] ["object"] [],
   outsideKind "collections.abc" "AsyncIterator" "ABCMeta" 0 ["AsyncIterable"]
     ["AsyncIterable", "object"] [],
   outsideKind "collections.abc" "Sequence" "ABCMeta" 138 ["Reversible", "Collection"]
     ["Reversible", "Collection", "Sized", "Iterable", "Container", "object"] [],
   outsideKind "collections.abc" "Mapping" "ABCMeta" 198 ["Collection"]
     ["Collection", "Sized", "Iterable", "Container", "object"] [],
   outsideKind "typing" "BinaryIO" "type" 53 ["IO"] ["IO", "Generic", "object"] [],
   outsideKind "typing" "Any" "_AnyMeta" 343 ["object"] ["object"] [],
   outsideKind "typing" "_AnyMeta" "type" 0 ["type"] ["type", "object"] [],
   outsideKind "pathlib" "PurePosixPath" "type" 188 ["PurePath"] ["PurePath", "object"] [],
   outsideKind "importlib.metadata" "EntryPoints" "type" 67 ["DeprecatedList"]
     ["DeprecatedList", "list", "object"] [],
   outsideKind "anyio.abc" "Process" "ABCMeta" 57 ["AsyncResource"] ["AsyncResource", "object"] [],
   outsideKind "anyio" "AsyncFile" "ABCMeta" 0 ["AsyncResource", "Generic"]
     ["AsyncResource", "Generic", "object"] [],
   outsideKind "logging" "Filterer" "type" 91 ["object"] ["object"]
     (functionSlotsOf "Filterer" ++ ownPlaces),
   outsideKind "logging" "Logger" "type" 882 ["Filterer"] ["Filterer", "object"]
     (functionSlotsOf "Logger" ++
       [.holding "root" (.thing "RootLogger" []), .holding "manager" (.thing "Manager" [])])]

/-- **The kinds of the values that modules give.** -/
def libraryKinds : Kinds := basicKinds ++ faultKinds ++ recordKinds ++ functionKinds ++ outsideKinds

end ContainerClients
