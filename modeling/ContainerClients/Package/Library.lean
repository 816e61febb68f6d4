import ContainerClients.Catalog.Config
import ContainerClients.Package.Library.Kind
import ContainerClients.Package.Loading
import ContainerClients.Package.Standard
import ContainerClients.Version

/-!
# The library's own modules

The parts of the library are modules themselves, and an entry point may name anything in one of
them, also what a module takes over from elsewhere.  Only the bundled packages give clients.

* `libraryValues`, `libraryMember` — what the names in the library's modules stand for.
* `bundledPackages`, `coreModules` — the modules of the library.
* `importedAtStart` — the modules that the program itself imports: all but the bundled packages.
* `Installed.withLibrary` — what is installed when other modules join the library's own, which
  cannot be replaced.
-/

namespace ContainerClients

/-! ## Values -/

/-- A text. -/
def textValue (s : String) : Value := .text s.length

/-- The modules from elsewhere that the library uses. -/
def outsideModules : List String :=
  ["anyio", "argparse", "contextlib", "dataclasses", "functools", "itertools", "json", "logging",
   "os", "shlex", "shutil", "subprocess", "sys", "threading"]

/-- The functions from elsewhere that the library uses. -/
def outsideFunctions : List Function :=
  [⟨"asynccontextmanager", "asynccontextmanager", "contextlib", some 509, none, none, 0, 37⟩,
   ⟨"dataclass", "dataclass", "dataclasses", some 646, some 1, some 10, 0, 80⟩,
   ⟨"entry_points", "entry_points", "importlib.metadata", some 651, none, none, 1, 75⟩,
   ⟨"field", "field", "dataclasses", some 754, none, some 8, 0, 80⟩,
   ⟨"import_module", "import_module", "importlib", some 222, some 1, none, 0, 29⟩,
   ⟨"quote", "quote", "urllib.parse", some 1685, some 3, none, 0, 100⟩,
   ⟨"unquote", "unquote", "urllib.parse", some 406, some 2, none, 0, 100⟩,
   ⟨"urlparse", "urlparse", "urllib.parse", some 727, some 2, none, 0, 100⟩]

/-- The texts and numbers that the library's modules give, and what is made of kinds. -/
def constantValues : List (String × Value) :=
  [("ActivationFn", .generic "_CallableGenericAlias" "Callable" 2),
   ("BUILTIN_PACKAGE_PREFIX", textValue bundledRoot),
   ("CONTAINER_NAME_ENV_VAR", textValue Variable.containerName.name),
   ("ConnectionFactory", .generic "_CallableGenericAlias" "Callable" 1),
   ("DEFAULT_CLIENT_PACKAGES", .foreign "tuple" bundledNames.length),
   ("DEFAULT_CONTAINER_NAME", textValue CatalogConfig.defaultContainerName.shown),
   ("DEFAULT_IMAGE_ID", textValue CatalogConfig.defaultImage.shown),
   ("DEFAULT_PRIORITY", .number),
   ("DEFAULT_RUNTIME", textValue (" ".intercalate Command.defaultRuntime)),
   ("DEFAULT_SERVER_SPECS", .foreign "tuple" ServerSpec.defaults.length),
   ("IMAGE_ENV_VAR", textValue Variable.image.name),
   ("LaunchFn", .generic "_CallableGenericAlias" "Callable" 5),
   ("PATH_MAPPINGS_ENV_VAR", textValue Variable.mounts.name),
   ("PLUGIN_ENTRYPOINT_GROUP", textValue entryPointGroup),
   ("PLUGIN_PATHS_ENV_VAR", textValue Variable.packages.name),
   ("PRIORITY_ENV_VAR", textValue Variable.priority.name),
   ("PathMapping", .generic "types.GenericAlias" "tuple" 2),
   ("REMOTE_PATH_PREFIX", textValue Mapping.remoteMarker),
   ("RUNTIME_ENV_VAR", textValue Variable.runtime.name),
   ("_CHUNK_SIZE", .number),
   ("_URI_SAFE_CHARS", textValue "/:@!$&'()*+,;=~"),
   ("__all__", .foreign "list" 7),
   ("__version__", textValue version),
   ("_process_allocator",
     .thing "ContainerIdentityAllocator" [("_counter", .thing "itertools.count" []),
       ("_lock", lockValue)]),
   ("annotations",
     .thing "_Feature" [("optional", .foreign "tuple" 5), ("mandatory", .nothing),
       ("compiler_flag", .number)])]

/-- **What the names in the library's modules stand for.** -/
def libraryValues : List (String × Value) :=
  constantValues ++ outsideModules.map (fun name => (name, .package name))
    ++ outsideFunctions.map (fun function => (function.name, .function function))
    ++ (faultKinds ++ recordKinds ++ functionKinds ++ outsideKinds).map
        (fun kind => (kind.name, .kind kind.name))
    ++ libraryFunctions.map (fun function => (function.path, .function function))

/-- What takes the reports of a module. -/
def loggerValue (module : String) : Value :=
  .thing "Logger"
    [("filters", .foreign "list" 0), ("name", textValue module), ("level", .number),
     ("parent", .thing "RootLogger" []), ("propagate", .flag), ("handlers", .foreign "list" 0),
     ("disabled", .flag), ("_cache", .foreign "dict" 0), ("manager", .thing "Manager" [])]

/-- **A member of a module of the library**, by its name. -/
def libraryMember (module name : String) : Member :=
  ⟨name, if name == "logger" then loggerValue module
    else (libraryValues.lookup name).getD .nothing⟩

/-- The members of every module that is read from a file: where the file and its compiled form are,
which is up to the installation, and what needs no import. -/
def fileMembers (name : String) : List Member :=
  [⟨"__file__", textValue name⟩, ⟨"__cached__", textValue name⟩,
   ⟨"__builtins__", .foreign "dict" 157⟩]

/-! ## Bundled packages -/

/-- How long the descriptions of the bundled packages are. -/
def bundledDescriptions : List (String × Nat) :=
  [("bash", 47), ("clangd", 34), ("css", 51), ("dockerfile", 66), ("go", 30), ("html", 53),
   ("python", 168), ("typescript", 70)]

/-- The module of a bundled package. -/
def bundledPackage (name : String) (clients : List Client) : Package where
  name := bundledRoot ++ name
  places := none
  described := (bundledDescriptions.find? (·.1 == name)).map (·.2)
  content := .ok
    (⟨clientsName, .collection "tuple" (clients.map .client)⟩ ::
      libraryMember (bundledRoot ++ name) "native_client" :: fileMembers (bundledRoot ++ name))

/-- **The bundled packages** as modules. -/
def bundledPackages : List Package :=
  bundledClients.map fun entry => bundledPackage entry.1 entry.2

/-! ## The other modules -/

/-- A module of the library: how long its description is, and whether there are modules below
it. -/
def coreModule (name : String) (described : Nat) (isOuter : Bool) : Package where
  name
  places := if isOuter then some 1 else none
  described := some described
  content := .ok (((libraryNames.lookup name).getD []).map (libraryMember name) ++ fileMembers name)
  annotated := (annotatedNames.lookup name).getD 0

/-- **The modules of the library that give no clients.** -/
def coreModules : List Package :=
  [coreModule "lsp_docker" 89 true, coreModule "lsp_docker.clients" 69 true,
   coreModule "lsp_docker.adapter" 63 false, coreModule "lsp_docker.bridge" 309 false,
   coreModule "lsp_docker.catalog" 359 false, coreModule "lsp_docker.cli" 56 false,
   coreModule "lsp_docker.clients.base" 331 false,
   coreModule "lsp_docker.clients.plugin_loader" 318 false,
   coreModule "lsp_docker.clients.registry" 232 false,
   coreModule "lsp_docker.containers" 415 false, coreModule "lsp_docker.errors" 167 false,
   coreModule "lsp_docker.path_mapping" 544 false]

/-- Second names of the modules that have others below them. -/
def secondNames : List Package :=
  ["lsp_docker", "lsp_docker.clients"].filterMap fun name =>
    (coreModules.find? (·.name == name)).map fun package =>
      { package with name := name ++ ".__init__", places := none }

/-- **All modules of the library.** -/
def libraryPackages : List Package := bundledPackages ++ coreModules ++ secondNames

/-- **The modules that the program itself imports.** -/
def importedAtStart : Imported := coreModules.map (·.name) ++ standardImported

/-- The holdings at the start: an empty registry, and the modules of the program. -/
def Holdings.initial : Holdings := ⟨.empty, importedAtStart⟩

/-- **What is installed** when modules are added to the library's own.  The standard modules are
looked for last. -/
def Installed.withLibrary (packages : List Package)
    (entryPoints : Except String (List EntryPoint)) : Installed where
  packages := libraryPackages ++ packages ++ standardPackages
  kinds := libraryKinds
  entryPoints

end ContainerClients
