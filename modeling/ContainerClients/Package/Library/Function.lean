import ContainerClients.Package.Bundled
import ContainerClients.Package.Standard.Names

/-!
# The library's own functions

* `libraryNames` — the names in each of the library's modules that give no clients.
* `libraryFunctions` — what is known of the functions of the library, and of the logging that it
  uses.
* `libraryFunction` — the function of a dotted name.
-/

namespace ContainerClients

/-- **The names in the library's modules** that give no clients. -/
def libraryNames : List (String × List String) :=
  [("lsp_docker",
    ["__version__"]),
   ("lsp_docker.adapter",
    ["annotations", "dataclasses", "functools", "logging", "Callable", "Sequence", "dataclass",
     "ClientDescriptor", "stdio_connection", "ClientRegistry", "NewContainerLauncher",
     "parse_command", "InvalidServerSpec", "PathMapping", "is_path_mapped", "parse_path_mappings",
     "to_container_uri", "to_host_path", "LaunchFn", "logger", "DockerClientBinding",
     "derive_docker_client", "register_docker_client"]),
   ("lsp_docker.bridge",
    ["annotations", "contextlib", "logging", "sys", "BinaryIO", "anyio", "AsyncFile", "Process",
     "StdioConnection", "_CHUNK_SIZE", "logger", "_pump_input", "_pump_output", "bridge_stdio",
     "run_bridge"]),
   ("lsp_docker.catalog",
    ["annotations", "logging", "os", "Iterable", "Mapping", "dataclass", "field", "Any",
     "LaunchFn", "register_docker_client", "DEFAULT_CLIENT_PACKAGES", "load_client_packages",
     "ClientRegistry", "InvalidServerSpec", "LspDockerError", "PathMapping", "parse_path_mappings",
     "DEFAULT_IMAGE_ID", "DEFAULT_CONTAINER_NAME", "DEFAULT_PRIORITY", "IMAGE_ENV_VAR",
     "CONTAINER_NAME_ENV_VAR", "PRIORITY_ENV_VAR", "PATH_MAPPINGS_ENV_VAR", "logger", "ServerSpec",
     "DEFAULT_SERVER_SPECS", "CatalogConfig", "InitReport", "ResolvedServer", "_split_env_list",
     "_env_int", "resolve_server_spec", "init_clients"]),
   ("lsp_docker.cli",
    ["argparse", "json", "logging", "os", "shutil", "subprocess", "sys", "dataclass",
     "__version__", "run_bridge", "PATH_MAPPINGS_ENV_VAR", "CatalogConfig", "InitReport",
     "init_clients", "ClientDescriptor", "DEFAULT_CLIENT_PACKAGES", "load_client_packages",
     "ClientRegistry", "ContainerExecLauncher", "NewContainerLauncher", "format_command",
     "resolve_runtime", "LspDockerError", "to_container_uri", "to_host_path", "RuntimeStatus",
     "_runtime_status", "_print_doctor", "_build_config", "_init_catalog", "_describe", "_fail",
     "_add_catalog_arguments", "main"]),
   ("lsp_docker.clients",
    ["ClientDescriptor", "StdioConnection", "native_client", "stdio_connection",
     "DEFAULT_CLIENT_PACKAGES", "load_client_packages", "ClientRegistry", "__all__"]),
   ("lsp_docker.clients.base",
    ["annotations", "logging", "subprocess", "AsyncIterator", "Callable", "Sequence",
     "asynccontextmanager", "dataclass", "PurePosixPath", "anyio", "Process", "format_command",
     "parse_command", "path_to_uri", "uri_to_path", "logger", "StdioConnection",
     "ConnectionFactory", "ActivationFn", "stdio_connection", "ClientDescriptor", "native_client"]),
   ("lsp_docker.clients.plugin_loader",
    ["annotations", "logging", "os", "Iterable", "import_module", "EntryPoints", "entry_points",
     "ClientDescriptor", "ClientRegistry", "PLUGIN_ENTRYPOINT_GROUP", "PLUGIN_PATHS_ENV_VAR",
     "BUILTIN_PACKAGE_PREFIX", "DEFAULT_CLIENT_PACKAGES", "logger", "_module_name",
     "_valid_clients", "load_client_package", "_entry_points_for_group",
     "load_entry_point_clients", "env_client_packages", "load_client_packages"]),
   ("lsp_docker.clients.registry",
    ["logging", "threading", "UnknownServerId", "ClientDescriptor", "ClientRegistry"]),
   ("lsp_docker.containers",
    ["annotations", "itertools", "logging", "os", "shlex", "threading", "Sequence", "dataclass",
     "PathMapping", "DEFAULT_RUNTIME", "RUNTIME_ENV_VAR", "logger", "parse_command",
     "format_command", "resolve_runtime", "ContainerIdentity", "ContainerIdentityAllocator",
     "_process_allocator", "process_allocator", "volume_flags", "build_launch", "build_exec",
     "NewContainerLauncher", "ContainerExecLauncher"]),
   ("lsp_docker.errors",
    ["LspDockerError", "PathNotMapped", "UnknownServerId", "InvalidServerSpec"]),
   ("lsp_docker.path_mapping",
    ["annotations", "Iterable", "Mapping", "Sequence", "PurePosixPath", "Any", "quote", "unquote",
     "urlparse", "PathNotMapped", "PathMapping", "REMOTE_PATH_PREFIX", "_URI_SAFE_CHARS",
     "parse_path_mappings", "_strip_trailing_slash", "uri_to_path", "path_to_uri", "remote_path",
     "is_remote_path", "to_host_path", "to_container_uri", "is_path_mapped"])]

/-- How many names every module has that is read from a file. -/
def commonNameCount : Nat := 8

/-- How many names of modules have notes. -/
def annotatedNames : List (String × Nat) := [("lsp_docker.catalog", 1)]

/-- How many names there are in a module of the library. -/
def libraryNameCount (module : String) : Nat :=
  ((libraryNames.lookup module).getD []).length + commonNameCount
    + (if (annotatedNames.lookup module).isSome then 1 else 0)

/-- What is known of the functions of each module: the dotted name, the length of the description,
how many arguments in order and how many named ones can be left out, and how many notes there
are. -/
def functionRows : List (String × List (String × Nat × Nat × Nat × Nat)) :=
  [("lsp_docker.adapter",
    [("derive_docker_client", 198, 0, 0, 4), ("register_docker_client", 224, 0, 2, 10)]),
   ("lsp_docker.bridge",
    [("_pump_input", 64, 0, 0, 3), ("_pump_output", 64, 0, 0, 3), ("bridge_stdio", 79, 2, 0, 4),
     ("run_bridge", 69, 0, 0, 2)]),
   ("lsp_docker.catalog",
    [("ServerSpec.from_mapping", 60, 0, 0, 2), ("CatalogConfig.__post_init__", 0, 0, 0, 1),
     ("CatalogConfig.from_env", 77, 0, 1, 2), ("InitReport.ok", 0, 0, 0, 1),
     ("_split_env_list", 0, 0, 0, 2), ("_env_int", 0, 0, 0, 2),
     ("resolve_server_spec", 189, 0, 0, 3), ("init_clients", 71, 0, 4, 6)]),
   ("lsp_docker.cli",
    [("_runtime_status", 67, 0, 0, 2), ("_print_doctor", 31, 0, 0, 3),
     ("_build_config", 0, 0, 0, 2), ("_init_catalog", 0, 0, 0, 3), ("_describe", 0, 0, 0, 3),
     ("_fail", 0, 1, 0, 3), ("_add_catalog_arguments", 0, 0, 0, 2), ("main", 0, 1, 0, 2)]),
   ("lsp_docker.clients.base",
    [("StdioConnection.open", 72, 0, 0, 1), ("stdio_connection", 72, 0, 0, 2),
     ("ClientDescriptor.handles_extension", 71, 0, 0, 2),
     ("ClientDescriptor.is_activated", 63, 0, 0, 2), ("native_client", 54, 0, 1, 5)]),
   ("lsp_docker.clients.plugin_loader",
    [("_module_name", 66, 0, 0, 2), ("_valid_clients", 0, 0, 0, 3),
     ("load_client_package", 68, 0, 0, 3), ("_entry_points_for_group", 55, 0, 0, 2),
     ("load_entry_point_clients", 71, 1, 0, 3), ("env_client_packages", 61, 0, 0, 1),
     ("load_client_packages", 66, 1, 2, 5)]),
   ("lsp_docker.clients.registry",
    [("ClientRegistry.__init__", 0, 0, 0, 1), ("ClientRegistry.get", 36, 0, 0, 1),
     ("ClientRegistry.reset", 34, 0, 0, 1), ("ClientRegistry.register", 67, 0, 0, 2),
     ("ClientRegistry.get_client", 30, 0, 0, 2), ("ClientRegistry.require_client", 65, 0, 0, 2),
     ("ClientRegistry.clients_for_file", 66, 0, 0, 2), ("ClientRegistry.__contains__", 0, 0, 0, 2),
     ("ClientRegistry.server_ids", 45, 0, 0, 1)]),
   ("lsp_docker.containers",
    [("parse_command", 51, 0, 0, 2), ("format_command", 59, 0, 0, 2),
     ("resolve_runtime", 69, 1, 0, 2), ("ContainerIdentity.name", 0, 0, 0, 1),
     ("ContainerIdentityAllocator.__init__", 0, 1, 0, 2),
     ("ContainerIdentityAllocator.next", 43, 0, 0, 2), ("process_allocator", 62, 0, 0, 1),
     ("volume_flags", 67, 0, 0, 2), ("build_launch", 75, 0, 1, 6), ("build_exec", 68, 0, 1, 4),
     ("NewContainerLauncher.__init__", 0, 1, 1, 3), ("NewContainerLauncher.__call__", 0, 0, 0, 5),
     ("ContainerExecLauncher.__init__", 0, 0, 1, 2),
     ("ContainerExecLauncher.__call__", 0, 0, 0, 5)]),
   ("lsp_docker.errors",
    [("PathNotMapped.__init__", 0, 0, 0, 2), ("UnknownServerId.__init__", 0, 1, 0, 3),
     ("InvalidServerSpec.__init__", 0, 0, 0, 3)]),
   ("lsp_docker.path_mapping",
    [("parse_path_mappings", 212, 0, 0, 2), ("_strip_trailing_slash", 0, 0, 0, 2),
     ("uri_to_path", 63, 0, 0, 2), ("path_to_uri", 48, 0, 0, 2), ("remote_path", 57, 0, 0, 3),
     ("is_remote_path", 0, 0, 0, 2), ("to_host_path", 60, 0, 0, 4),
     ("to_container_uri", 123, 0, 0, 3), ("is_path_mapped", 74, 0, 0, 3)]),
   ("logging",
    [("Logger.__init__", 74, 1, 0, 0), ("Logger.setLevel", 87, 0, 0, 0),
     ("Logger.debug", 243, 0, 0, 0), ("Logger.info", 246, 0, 0, 0),
     ("Logger.warning", 249, 0, 0, 0), ("Logger.warn", 0, 0, 0, 0), ("Logger.error", 242, 0, 0, 0),
     ("Logger.exception", 85, 0, 1, 0), ("Logger.critical", 249, 0, 0, 0),
     ("Logger.fatal", 64, 0, 0, 0), ("Logger.log", 255, 0, 0, 0),
     ("Logger.findCaller", 133, 2, 0, 0), ("Logger.makeRecord", 114, 3, 0, 0),
     ("Logger._log", 146, 4, 0, 0), ("Logger.handle", 213, 0, 0, 0),
     ("Logger.addHandler", 59, 0, 0, 0), ("Logger.removeHandler", 64, 0, 0, 0),
     ("Logger.hasHandlers", 418, 0, 0, 0), ("Logger.callHandlers", 412, 0, 0, 0),
     ("Logger.getEffectiveLevel", 207, 0, 0, 0), ("Logger.isEnabledFor", 59, 0, 0, 0),
     ("Logger.getChild", 354, 0, 0, 0), ("Logger.__repr__", 0, 0, 0, 0),
     ("Logger.__reduce__", 0, 0, 0, 0),
     ("Filterer.__init__", 69, 0, 0, 0), ("Filterer.addFilter", 59, 0, 0, 0),
     ("Filterer.removeFilter", 64, 0, 0, 0), ("Filterer.filter", 360, 0, 0, 0)])]

/-- **The functions of the library.** -/
def libraryFunctions : List Function :=
  functionRows.flatMap fun (home, rows) =>
    rows.map fun (path, described, defaults, keywords, annotated) => {
      name := lastPart path
      path, home, annotated
      described := lengthOrNone described
      defaults := lengthOrNone defaults
      keywords := lengthOrNone keywords
      visible := libraryNameCount home }

/-- **The function of a dotted name.** -/
def libraryFunction (path : String) : Function :=
  (libraryFunctions.find? (·.path == path)).getD (.unknown "" path)

end ContainerClients
