import ContainerClients.Package.Standard.Names

/-!
# The standard modules

Some modules are there on every installation.  None of them gives clients.

* `standardOuterModules`, `standardModules` — their names; the first have modules below them.
* `standardPackages` — the modules.
-/

namespace ContainerClients

/-- **The standard modules that have others below them.** -/
def standardOuterModules : List String :=
  ["asyncio", "collections", "concurrent", "concurrent.futures", "ctypes", "curses", "dbm",
   "distutils", "email", "email.mime", "encodings", "ensurepip", "html", "http", "importlib",
   "importlib.metadata", "importlib.resources", "json", "logging", "multiprocessing", "pydoc_data",
   "re", "sqlite3", "tomllib", "unittest", "urllib", "venv", "wsgiref", "xml", "xml.dom",
   "xml.etree", "xml.parsers", "xml.sax", "xmlrpc", "zoneinfo"]

/-- **The other standard modules.** -/
def standardModules : List String :=
  ["abc", "aifc", "argparse", "array", "ast", "asynchat", "asyncio.events", "asyncio.exceptions",
   "asyncio.futures", "asyncio.locks", "asyncio.protocols", "asyncio.queues", "asyncio.runners",
   "asyncio.streams", "asyncio.subprocess", "asyncio.tasks", "asyncio.transports", "asyncore",
   "atexit", "audioop", "base64", "bdb", "binascii", "bisect", "builtins", "bz2", "cProfile",
   "calendar", "cgi", "cgitb", "chunk", "cmath", "cmd", "code", "codecs", "codeop",
   "collections.abc", "colorsys", "compileall", "concurrent.futures.process",
   "concurrent.futures.thread", "configparser", "contextlib", "contextvars", "copy", "copyreg",
   "crypt", "csv", "ctypes.util", "curses.ascii", "curses.panel", "curses.textpad", "dataclasses",
   "datetime", "dbm.dumb", "decimal", "difflib", "dis", "doctest", "email.base64mime",
   "email.charset", "email.contentmanager", "email.encoders", "email.errors", "email.feedparser",
   "email.generator", "email.header", "email.headerregistry", "email.iterators", "email.message",
   "email.mime.application", "email.mime.audio", "email.mime.base", "email.mime.image",
   "email.mime.message", "email.mime.multipart", "email.mime.nonmultipart", "email.mime.text",
   "email.parser", "email.policy", "email.quoprimime", "email.utils", "enum", "errno",
   "faulthandler", "fcntl", "filecmp", "fileinput", "fnmatch", "fractions", "ftplib", "functools",
   "gc", "genericpath", "getopt", "getpass", "gettext", "glob", "graphlib", "grp", "gzip",
   "hashlib", "heapq", "hmac", "html.entities", "html.parser", "http.client", "http.cookiejar",
   "http.cookies", "http.server", "imaplib", "imghdr", "imp", "importlib.abc",
   "importlib.machinery", "importlib.readers", "importlib.resources.abc",
   "importlib.resources.readers", "importlib.resources.simple", "importlib.simple",
   "importlib.util", "inspect", "io", "ipaddress", "itertools", "json.decoder", "json.encoder",
   "json.scanner", "json.tool", "keyword", "linecache", "locale", "logging.config",
   "logging.handlers", "lzma", "mailbox", "mailcap", "marshal", "math", "mimetypes", "mmap",
   "modulefinder", "multiprocessing.connection", "multiprocessing.context",
   "multiprocessing.dummy.connection", "multiprocessing.managers", "multiprocessing.pool",
   "multiprocessing.process", "multiprocessing.queues", "multiprocessing.shared_memory",
   "multiprocessing.sharedctypes", "multiprocessing.synchronize", "multiprocessing.util", "netrc",
   "nntplib", "ntpath", "nturl2path", "numbers", "opcode", "operator", "optparse", "os", "os.path",
   "pathlib", "pdb", "pickle", "pickletools", "pipes", "pkgutil", "platform", "plistlib", "poplib",
   "posix", "posixpath", "pprint", "profile", "pstats", "pty", "pwd", "py_compile", "pyclbr",
   "pydoc", "pyexpat", "queue", "quopri", "random", "readline", "reprlib", "resource",
   "rlcompleter", "runpy", "sched", "secrets", "select", "selectors", "shelve", "shlex", "shutil",
   "signal", "site", "smtpd", "smtplib", "sndhdr", "socket", "socketserver", "sqlite3.dbapi2",
   "sqlite3.dump", "sre_compile", "sre_constants", "sre_parse", "ssl", "stat", "statistics",
   "string", "stringprep", "struct", "subprocess", "sunau", "symtable", "sys", "sysconfig",
   "syslog", "tabnanny", "tarfile", "telnetlib", "tempfile", "termios", "textwrap", "threading",
   "time", "timeit", "token", "tokenize", "trace", "traceback", "tracemalloc", "tty", "types",
   "typing", "unicodedata", "unittest.async_case", "unittest.case", "unittest.loader",
   "unittest.main", "unittest.mock", "unittest.result", "unittest.runner", "unittest.signals",
   "unittest.suite", "unittest.util", "urllib.error", "urllib.parse", "urllib.request",
   "urllib.response", "urllib.robotparser", "uu", "uuid", "warnings", "wave", "weakref",
   "webbrowser", "wsgiref.handlers", "wsgiref.headers", "wsgiref.simple_server", "wsgiref.types",
   "wsgiref.util", "wsgiref.validate", "xdrlib", "xml.dom.domreg", "xml.dom.expatbuilder",
   "xml.dom.minicompat", "xml.dom.minidom", "xml.dom.pulldom", "xml.dom.xmlbuilder",
   "xml.etree.ElementInclude", "xml.etree.ElementPath", "xml.etree.ElementTree",
   "xml.parsers.expat", "xml.sax.expatreader", "xml.sax.handler", "xml.sax.saxutils",
   "xml.sax.xmlreader", "xmlrpc.client", "xmlrpc.server", "zipapp", "zipfile", "zipimport", "zlib"]

/-- The standard modules that are imported whenever anything is. -/
def standardImported : Imported := ["os", "os.path", "sys"]

/-- A standard module. -/
def standardPackage (places : Option Nat) (name : String) : Package :=
  match standardNames.find? (·.name == name) with
  | some names => { name, places, described := names.described, content := .ok names.members }
  | none => { name, places, described := none, content := .ok [] }

/-- The standard modules. -/
def standardPackages : List Package :=
  standardOuterModules.map (standardPackage (some 1)) ++ standardModules.map (standardPackage none)

end ContainerClients
