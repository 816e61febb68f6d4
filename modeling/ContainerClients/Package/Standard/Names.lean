import ContainerClients.Package

/-!
# The names in standard modules

What the standard modules that the library uses give under their names: functions, methods of the
module, kinds, numbers, texts, other modules.

* `StandardNames` — the names in a module, in groups.
* `StandardNames.members` — what they stand for.
* `standardNames` — the names in the modules that the library uses.
-/

namespace ContainerClients

/-- **The names in a standard module**, in groups. -/
structure StandardNames where
  /-- the name of the module -/
  name : String
  /-- how long the text is that describes it, if there is one -/
  described : Option Nat
  /-- the functions -/
  functions : List String := []
  /-- the methods of the module itself -/
  methods : List String := []
  /-- the kinds, some of them with the module that they are from; they go by the last part -/
  kinds : List String := []
  /-- the numbers -/
  numbers : List String := []
  /-- the texts, with their lengths -/
  texts : List (String × Nat) := []
  /-- the modules, with their own names -/
  modules : List (String × String) := []
  /-- everything else -/
  others : List (String × Value) := []

/-- The last part of a dotted name. -/
def lastPart (path : String) : String :=
  String.ofList (((Text.pieces '.' path.toList).getLast?).getD [])

/-- A function of which no more than its name is known. -/
def Function.unknown (home path : String) : Function :=
  ⟨lastPart path, path, home, none, none, none, 0, 0⟩

/-- **What the names stand for.** -/
def StandardNames.members (names : StandardNames) : List Member :=
  names.functions.map (fun name => ⟨name, .function (.unknown names.name name)⟩)
    ++ names.methods.map (fun name => ⟨name, .method names.name name (.package names.name)⟩)
    ++ names.kinds.map (fun name => ⟨lastPart name, .kind name⟩)
    ++ names.numbers.map (fun name => ⟨name, .number⟩)
    ++ names.texts.map (fun (name, length) => ⟨name, .text length⟩)
    ++ names.modules.map (fun (name, module) => ⟨name, .package module⟩)
    ++ names.others.map (fun (name, value) => ⟨name, value⟩)

/-- **The names in the standard modules that the library uses.** -/
def standardNames : List StandardNames :=
  [{ name := "argparse"
     described := some 2811
     functions := ["ngettext"]
     kinds :=
       ["Action", "ArgumentDefaultsHelpFormatter", "ArgumentError", "ArgumentParser",
        "ArgumentTypeError", "BooleanOptionalAction", "FileType", "HelpFormatter",
        "MetavarTypeHelpFormatter", "Namespace", "RawDescriptionHelpFormatter",
        "RawTextHelpFormatter"]
     texts :=
       [("ONE_OR_MORE", 1), ("OPTIONAL", 1), ("PARSER", 4), ("REMAINDER", 3), ("SUPPRESS", 12),
        ("ZERO_OR_MORE", 1)]
     modules := [("warnings", "warnings")]
     others := [("__all__", .foreign "list" 18)] },
   { name := "contextlib"
     described := some 52
     functions := ["asynccontextmanager", "contextmanager", "wraps"]
     kinds :=
       ["AbstractAsyncContextManager", "AbstractContextManager", "AsyncContextDecorator",
        "AsyncExitStack", "ContextDecorator", "ExitStack", "types.GenericAlias", "aclosing",
        "chdir", "closing", "collections.deque", "nullcontext", "redirect_stderr",
        "redirect_stdout", "suppress"]
     modules := [("abc", "abc"), ("os", "os"), ("sys", "sys")]
     others := [("MethodType", .kind "method"), ("__all__", .foreign "list" 14)] },
   { name := "dataclasses"
     described := none
     functions :=
       ["asdict", "astuple", "dataclass", "field", "fields", "is_dataclass", "make_dataclass",
        "replace"]
     kinds := ["Field", "FrozenInstanceError", "types.GenericAlias", "InitVar"]
     modules :=
       [("abc", "abc"), ("builtins", "builtins"), ("copy", "copy"), ("functools", "functools"),
        ("inspect", "inspect"), ("itertools", "itertools"), ("keyword", "keyword"), ("re", "re"),
        ("sys", "sys"), ("types", "types")]
     others :=
       [("FunctionType", .kind "function"), ("KW_ONLY", .thing "_KW_ONLY_TYPE" []),
        ("MISSING", .thing "_MISSING_TYPE" []), ("__all__", .foreign "list" 13)] },
   { name := "functools"
     described := some 69
     functions :=
       ["cache", "lru_cache", "namedtuple", "recursive_repr", "singledispatch", "total_ordering",
        "update_wrapper", "wraps"]
     methods := ["cmp_to_key", "get_cache_token", "reduce"]
     kinds :=
       ["types.GenericAlias", "_thread.RLock", "cached_property", "functools.partial",
        "partialmethod", "singledispatchmethod"]
     others :=
       [("WRAPPER_ASSIGNMENTS", .foreign "tuple" 5), ("WRAPPER_UPDATES", .foreign "tuple" 1),
        ("__all__", .foreign "list" 14)] },
   { name := "itertools"
     described := some 1285
     methods := ["tee"]
     kinds :=
       ["itertools.accumulate", "itertools.chain", "itertools.combinations",
        "itertools.combinations_with_replacement", "itertools.compress", "itertools.count",
        "itertools.cycle", "itertools.dropwhile", "itertools.filterfalse", "itertools.groupby",
        "itertools.islice", "itertools.pairwise", "itertools.permutations", "itertools.product",
        "itertools.repeat", "itertools.starmap", "itertools.takewhile", "itertools.zip_longest"] },
   { name := "json"
     described := some 2841
     functions := ["detect_encoding", "dump", "dumps", "load", "loads"]
     kinds := ["JSONDecodeError", "JSONDecoder", "JSONEncoder"]
     modules :=
       [("codecs", "codecs"), ("decoder", "json.decoder"), ("encoder", "json.encoder"),
        ("scanner", "json.scanner")]
     others := [("__all__", .foreign "list" 7)] },
   { name := "logging"
     described := some 194
     functions :=
       ["addLevelName", "basicConfig", "captureWarnings", "critical", "currentframe", "debug",
        "disable", "error", "exception", "fatal", "getLevelName", "getLevelNamesMapping",
        "getLogRecordFactory", "getLogger", "getLoggerClass", "info", "log", "makeLogRecord",
        "setLogRecordFactory", "setLoggerClass", "shutdown", "warn", "warning"]
     kinds :=
       ["BufferingFormatter", "FileHandler", "Filter", "Filterer", "Formatter",
        "types.GenericAlias", "Handler", "LogRecord", "Logger", "LoggerAdapter", "Manager",
        "NullHandler", "PercentStyle", "PlaceHolder", "RootLogger", "StrFormatStyle",
        "StreamHandler", "StringTemplateStyle", "Template"]
     numbers := ["CRITICAL", "DEBUG", "ERROR", "FATAL", "INFO", "NOTSET", "WARN", "WARNING"]
     texts := [("BASIC_FORMAT", 34)]
     modules :=
       [("atexit", "atexit"), ("collections", "collections"), ("io", "io"), ("os", "os"),
        ("re", "re"), ("sys", "sys"), ("threading", "threading"), ("time", "time"),
        ("traceback", "traceback"), ("warnings", "warnings"), ("weakref", "weakref")]
     others :=
       [("__all__", .foreign "list" 43), ("lastResort", .thing "_StderrHandler" []),
        ("logMultiprocessing", .flag), ("logProcesses", .flag), ("logThreads", .flag),
        ("raiseExceptions", .flag), ("root", .thing "RootLogger" [])] },
   { name := "os"
     described := some 1102
     functions :=
       ["execl", "execle", "execlp", "execlpe", "execvp", "execvpe", "fdopen", "fsdecode",
        "fsencode", "fwalk", "get_exec_path", "getenv", "getenvb", "makedirs", "popen",
        "removedirs", "renames", "spawnl", "spawnle", "spawnlp", "spawnlpe", "spawnv", "spawnve",
        "spawnvp", "spawnvpe", "walk"]
     methods :=
       ["WCOREDUMP", "WEXITSTATUS", "WIFCONTINUED", "WIFEXITED", "WIFSIGNALED", "WIFSTOPPED",
        "WSTOPSIG", "WTERMSIG", "abort", "access", "chdir", "chmod", "chown", "chroot", "close",
        "closerange", "confstr", "cpu_count", "ctermid", "device_encoding", "dup", "dup2",
        "eventfd", "eventfd_read", "eventfd_write", "execv", "execve", "fchdir", "fchmod",
        "fchown", "fdatasync", "fork", "forkpty", "fpathconf", "fspath", "fstat", "fstatvfs",
        "fsync", "ftruncate", "get_blocking", "get_inheritable", "get_terminal_size", "getcwd",
        "getcwdb", "getegid", "geteuid", "getgid", "getgrouplist", "getgroups", "getloadavg",
        "getlogin", "getpgid", "getpgrp", "getpid", "getppid", "getpriority", "getresgid",
        "getresuid", "getsid", "getuid", "getxattr", "initgroups", "isatty", "kill", "killpg",
        "lchown", "link", "listdir", "listxattr", "lockf", "login_tty", "lseek", "lstat", "major",
        "makedev", "minor", "mkdir", "mkfifo", "mknod", "nice", "open", "openpty", "pathconf",
        "pipe", "pipe2", "posix_fadvise", "posix_fallocate", "posix_spawn", "posix_spawnp",
        "pread", "preadv", "putenv", "pwrite", "pwritev", "read", "readlink", "readv",
        "register_at_fork", "remove", "removexattr", "rename", "replace", "rmdir", "scandir",
        "sched_get_priority_max", "sched_get_priority_min", "sched_getaffinity", "sched_getparam",
        "sched_getscheduler", "sched_rr_get_interval", "sched_setaffinity", "sched_setparam",
        "sched_setscheduler", "sched_yield", "sendfile", "set_blocking", "set_inheritable",
        "setegid", "seteuid", "setgid", "setgroups", "setpgid", "setpgrp", "setpriority",
        "setregid", "setresgid", "setresuid", "setreuid", "setsid", "setuid", "setxattr", "splice",
        "stat", "statvfs", "strerror", "symlink", "sync", "sysconf", "system", "tcgetpgrp",
        "tcsetpgrp", "times", "truncate", "ttyname", "umask", "uname", "unlink", "unsetenv",
        "urandom", "utime", "wait", "wait3", "wait4", "waitid", "waitpid",
        "waitstatus_to_exitcode", "write", "writev"]
     kinds :=
       ["posix.DirEntry", "types.GenericAlias", "Mapping", "MutableMapping", "PathLike",
        "posix.sched_param", "os.stat_result", "os.statvfs_result", "os.terminal_size",
        "posix.times_result", "posix.uname_result", "posix.waitid_result"]
     numbers :=
       ["CLD_CONTINUED", "CLD_DUMPED", "CLD_EXITED", "CLD_KILLED", "CLD_STOPPED", "CLD_TRAPPED",
        "EFD_CLOEXEC", "EFD_NONBLOCK", "EFD_SEMAPHORE", "EX_CANTCREAT", "EX_CONFIG", "EX_DATAERR",
        "EX_IOERR", "EX_NOHOST", "EX_NOINPUT", "EX_NOPERM", "EX_NOUSER", "EX_OK", "EX_OSERR",
        "EX_OSFILE", "EX_PROTOCOL", "EX_SOFTWARE", "EX_TEMPFAIL", "EX_UNAVAILABLE", "EX_USAGE",
        "F_LOCK", "F_OK", "F_TEST", "F_TLOCK", "F_ULOCK", "NGROUPS_MAX", "O_ACCMODE", "O_APPEND",
        "O_ASYNC", "O_CLOEXEC", "O_CREAT", "O_DIRECT", "O_DIRECTORY", "O_DSYNC", "O_EXCL",
        "O_FSYNC", "O_LARGEFILE", "O_NDELAY", "O_NOATIME", "O_NOCTTY", "O_NOFOLLOW", "O_NONBLOCK",
        "O_PATH", "O_RDONLY", "O_RDWR", "O_RSYNC", "O_SYNC", "O_TMPFILE", "O_TRUNC", "O_WRONLY",
        "POSIX_FADV_DONTNEED", "POSIX_FADV_NOREUSE", "POSIX_FADV_NORMAL", "POSIX_FADV_RANDOM",
        "POSIX_FADV_SEQUENTIAL", "POSIX_FADV_WILLNEED", "POSIX_SPAWN_CLOSE", "POSIX_SPAWN_DUP2",
        "POSIX_SPAWN_OPEN", "PRIO_PGRP", "PRIO_PROCESS", "PRIO_USER", "P_ALL", "P_NOWAIT",
        "P_NOWAITO", "P_PGID", "P_PID", "P_WAIT", "RTLD_DEEPBIND", "RTLD_GLOBAL", "RTLD_LAZY",
        "RTLD_LOCAL", "RTLD_NODELETE", "RTLD_NOLOAD", "RTLD_NOW", "R_OK", "SCHED_BATCH",
        "SCHED_FIFO", "SCHED_IDLE", "SCHED_OTHER", "SCHED_RESET_ON_FORK", "SCHED_RR", "SEEK_CUR",
        "SEEK_DATA", "SEEK_END", "SEEK_HOLE", "SEEK_SET", "SPLICE_F_MORE", "SPLICE_F_MOVE",
        "SPLICE_F_NONBLOCK", "ST_APPEND", "ST_MANDLOCK", "ST_NOATIME", "ST_NODEV", "ST_NODIRATIME",
        "ST_NOEXEC", "ST_NOSUID", "ST_RDONLY", "ST_RELATIME", "ST_SYNCHRONOUS", "ST_WRITE",
        "TMP_MAX", "WCONTINUED", "WEXITED", "WNOHANG", "WNOWAIT", "WSTOPPED", "WUNTRACED", "W_OK",
        "XATTR_CREATE", "XATTR_REPLACE", "XATTR_SIZE_MAX", "X_OK"]
     texts :=
       [("curdir", 1), ("defpath", 13), ("devnull", 9), ("extsep", 1), ("linesep", 1), ("name", 5),
        ("pardir", 2), ("pathsep", 1), ("sep", 1)]
     modules := [("abc", "abc"), ("path", "os.path"), ("st", "stat"), ("sys", "sys")]
     others :=
       [("__all__", .foreign "list" 329), ("altsep", .nothing),
        ("confstr_names", .foreign "dict" 27), ("error", .kind "OSError"),
        ("pathconf_names", .foreign "dict" 20), ("supports_bytes_environ", .flag),
        ("supports_dir_fd", .foreign "set" 15), ("supports_effective_ids", .foreign "set" 1),
        ("supports_fd", .foreign "set" 11), ("supports_follow_symlinks", .foreign "set" 5),
        ("sysconf_names", .foreign "dict" 134)] },
   { name := "os.path"
     described := some 473
     functions :=
       ["abspath", "basename", "commonpath", "commonprefix", "dirname", "exists", "expanduser",
        "expandvars", "getatime", "getctime", "getmtime", "getsize", "isabs", "isdir", "isfile",
        "islink", "ismount", "join", "lexists", "normcase", "normpath", "realpath", "relpath",
        "samefile", "sameopenfile", "samestat", "split", "splitdrive", "splitext"]
     texts :=
       [("curdir", 1), ("defpath", 13), ("devnull", 9), ("extsep", 1), ("pardir", 2),
        ("pathsep", 1), ("sep", 1)]
     modules := [("genericpath", "genericpath"), ("os", "os"), ("stat", "stat"), ("sys", "sys")]
     others :=
       [("__all__", .foreign "list" 38), ("altsep", .nothing),
        ("supports_unicode_filenames", .flag)] },
   { name := "shlex"
     described := some 56
     functions := ["join", "quote", "split"]
     kinds := ["_io.StringIO", "collections.deque", "shlex"]
     modules := [("os", "os"), ("re", "re"), ("sys", "sys")]
     others := [("__all__", .foreign "list" 4)] },
   { name := "shutil"
     described := some 151
     functions :=
       ["chown", "copy", "copy2", "copyfile", "copyfileobj", "copymode", "copystat", "copytree",
        "disk_usage", "get_archive_formats", "get_terminal_size", "get_unpack_formats",
        "ignore_patterns", "make_archive", "move", "register_archive_format",
        "register_unpack_format", "rmtree", "unpack_archive", "unregister_archive_format",
        "unregister_unpack_format", "which"]
     kinds :=
       ["Error", "ExecError", "ReadError", "RegistryError", "SameFileError", "SpecialFileError"]
     numbers := ["COPY_BUFSIZE"]
     modules :=
       [("collections", "collections"), ("errno", "errno"), ("fnmatch", "fnmatch"), ("os", "os"),
        ("posix", "posix"), ("stat", "stat"), ("sys", "sys")]
     others := [("__all__", .foreign "list" 26), ("nt", .nothing)] },
   { name := "subprocess"
     described := some 1173
     functions :=
       ["call", "check_call", "check_output", "getoutput", "getstatusoutput", "list2cmdline", "run"]
     kinds :=
       ["CalledProcessError", "CompletedProcess", "Popen", "SubprocessError", "TimeoutExpired"]
     numbers := ["DEVNULL", "PIPE", "STDOUT"]
     modules :=
       [("builtins", "builtins"), ("contextlib", "contextlib"), ("errno", "errno"),
        ("fcntl", "fcntl"), ("io", "io"), ("locale", "locale"), ("os", "os"), ("select", "select"),
        ("selectors", "selectors"), ("signal", "signal"), ("sys", "sys"),
        ("threading", "threading"), ("time", "time"), ("types", "types"), ("warnings", "warnings")]
     others := [("__all__", .foreign "list" 14)] },
   { name := "sys"
     described := some 3477
     methods :=
       ["addaudithook", "audit", "breakpointhook", "call_tracing", "displayhook", "exc_info",
        "excepthook", "exception", "exit", "get_asyncgen_hooks",
        "get_coroutine_origin_tracking_depth", "get_int_max_str_digits", "getallocatedblocks",
        "getdefaultencoding", "getdlopenflags", "getfilesystemencodeerrors",
        "getfilesystemencoding", "getprofile", "getrecursionlimit", "getrefcount", "getsizeof",
        "getswitchinterval", "gettrace", "intern", "is_finalizing", "set_asyncgen_hooks",
        "set_coroutine_origin_tracking_depth", "set_int_max_str_digits", "setdlopenflags",
        "setprofile", "setrecursionlimit", "setswitchinterval", "settrace", "unraisablehook"]
     numbers := ["api_version", "maxsize", "maxunicode"]
     texts := [("byteorder", 6), ("float_repr_style", 5), ("platform", 5)]
     others := [("dont_write_bytecode", .flag)] },
   { name := "threading"
     described := some 59
     functions :=
       ["RLock", "activeCount", "active_count", "currentThread", "current_thread", "enumerate",
        "getprofile", "gettrace", "main_thread", "setprofile", "settrace"]
     methods := ["Lock", "excepthook", "get_ident", "get_native_id", "stack_size"]
     kinds :=
       ["Barrier", "BoundedSemaphore", "BrokenBarrierError", "Condition", "Event", "Semaphore",
        "Thread", "Timer", "WeakSet"]
     modules := [("functools", "functools")]
     others :=
       [("ExceptHookArgs", .kind "_thread._ExceptHookArgs"), ("TIMEOUT_MAX", .thing "float" []),
        ("ThreadError", .kind "RuntimeError"), ("__all__", .foreign "list" 26),
        ("local", .kind "_thread._local")] }]

end ContainerClients
