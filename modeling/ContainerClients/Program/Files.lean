import ContainerClients.Program.Octets

/-!
# Files

The programs that run beside a server share a small tree of files, which starts with the usual
folders and is kept as long as they run.

* `Path` — the names from the root to a file.
* `Node`, `Files` — what is found at a path.
* `Files.read`, `Files.write`, `Files.remove`, `Files.makeFolder` — the operations, each with a
  `FileFault` where it cannot be done.
-/

namespace ContainerClients.Program

/-- **A path**: the names from the root. -/
abbrev Path := List Octets

/-- The path that a text denotes, seen from a folder. -/
def Path.resolve (folder : Path) (s : Octets) : Path :=
  let start := if s.head? == some '/' then [] else folder
  (Text.pieces '/' s).foldl (fun path name =>
    if name.isEmpty || name == ['.'] then path
    else if name == ['.', '.'] then path.dropLast
    else path ++ [name]) start

/-- A path as it is written. -/
def Path.text (path : Path) : Octets :=
  if path.isEmpty then ['/'] else path.flatMap ('/' :: ·)

/-- **What is found at a path.** -/
inductive Node where
  /-- a folder -/
  | folder
  /-- a file with a text, which may be run as a script -/
  | file (content : Octets) (runnable : Bool)
  /-- a program -/
  | program
  /-- a file that takes everything and holds nothing -/
  | null
deriving DecidableEq, Repr

/-- **The tree of files.** -/
structure Files where
  /-- what is found at each path but the root, which is a folder -/
  nodes : List (Path × Node)
deriving Repr

/-- Why an operation cannot be done. -/
inductive FileFault where
  /-- there is no file -/
  | missing
  /-- the file is a folder -/
  | isFolder
  /-- a part of the path is no folder -/
  | notFolder
  /-- there is a file already -/
  | present
  /-- the folder is not empty -/
  | notEmpty
deriving DecidableEq, Repr

/-- How programs speak of a fault. -/
def FileFault.message : FileFault → String
  | .missing => "No such file or directory"
  | .isFolder => "Is a directory"
  | .notFolder => "Not a directory"
  | .present => "File exists"
  | .notEmpty => "Directory not empty"

namespace Files

/-- The folders that are there from the start. -/
def folders : List String :=
  ["/bin", "/boot", "/dev", "/etc", "/home", "/lib", "/media", "/mnt", "/opt", "/proc", "/root",
   "/run", "/sbin", "/srv", "/sys", "/tmp", "/usr", "/usr/bin", "/usr/lib", "/usr/local",
   "/usr/local/bin", "/usr/sbin", "/usr/share", "/var", "/var/log", "/var/tmp"]

/-- The folders that hold programs. -/
def programFolders : List String := ["/usr/bin", "/bin"]

/-- **The tree at the start**, with the programs that are there. -/
def initial (programs : List String) : Files where
  nodes := folders.map (fun name => (Path.resolve [] name.toList, .folder)) ++
    [(Path.resolve [] "/dev/null".toList, .null),
     (Path.resolve [] "/etc/passwd".toList,
       .file "root:x:0:0:root:/root:/bin/bash\n".toList false)] ++
    programFolders.flatMap fun folder => programs.map fun program =>
      (Path.resolve [] (folder ++ "/" ++ program).toList, .program)

/-- What is found at a path. -/
def node? (files : Files) (path : Path) : Option Node :=
  if path.isEmpty then some .folder else files.nodes.lookup path

/-- There is a folder at a path. -/
def isFolder (files : Files) (path : Path) : Bool := files.node? path == some .folder

/-- Why there is nothing at a path: something on the way to it may be no folder. -/
def absence (files : Files) (path : Path) : FileFault :=
  let isBehindFile := (List.range path.length).any fun n =>
    match files.node? (path.take n) with
    | some .folder | none => false
    | some _ => true
  if isBehindFile then .notFolder else .missing

/-- The text of a file. -/
def read (files : Files) (path : Path) : Except FileFault Octets :=
  match files.node? path with
  | some (.file content _) => .ok content
  | some .program | some .null => .ok []
  | some .folder => .error .isFolder
  | none => .error (files.absence path)

/-- The tree with another node at a path. -/
def put (files : Files) (path : Path) (node : Node) : Files :=
  ⟨(path, node) :: files.nodes.filter (·.1 != path)⟩

/-- The tree with another text in a file. -/
def write (files : Files) (path : Path) (content : Octets) : Except FileFault Files :=
  match files.node? path with
  | some .folder => .error .isFolder
  | some .null => .ok files
  | some .program => .ok (files.put path (.file content true))
  | some (.file _ runnable) => .ok (files.put path (.file content runnable))
  | none =>
    if files.isFolder path.dropLast then .ok (files.put path (.file content false))
    else .error (files.absence path)

/-- The tree with a file that may be run, or not. -/
def setRunnable (files : Files) (path : Path) (runnable : Bool) : Except FileFault Files :=
  match files.node? path with
  | some (.file content _) => .ok (files.put path (.file content runnable))
  | some _ => .ok files
  | none => .error (files.absence path)

/-- What is at a path can be run. -/
def isRunnable (files : Files) (path : Path) : Bool :=
  match files.node? path with
  | some (.file _ runnable) => runnable
  | some .program => true
  | _ => false

/-- The tree with a new folder. -/
def makeFolder (files : Files) (path : Path) : Except FileFault Files :=
  match files.node? path with
  | some _ => .error .present
  | none =>
    if files.isFolder path.dropLast then .ok (files.put path .folder)
    else .error (files.absence path)

/-- The names in a folder, in order. -/
def names (files : Files) (folder : Path) : List Octets :=
  (files.nodes.filterMap fun entry =>
    if !entry.1.isEmpty && entry.1.dropLast == folder then entry.1.getLast? else none).mergeSort
      Octets.le

/-- The tree without a file. -/
def remove (files : Files) (path : Path) : Except FileFault Files :=
  match files.node? path with
  | none => .error (files.absence path)
  | some .folder => .error .isFolder
  | some _ => .ok ⟨files.nodes.filter (·.1 != path)⟩

/-- The tree without a folder that holds nothing. -/
def removeFolder (files : Files) (path : Path) : Except FileFault Files :=
  match files.node? path with
  | none => .error (files.absence path)
  | some .folder =>
    if (files.names path).isEmpty then .ok ⟨files.nodes.filter (·.1 != path)⟩
    else .error .notEmpty
  | some _ => .error .notFolder

/-- The tree without all that is at a path and below it. -/
def removeAll (files : Files) (path : Path) : Files :=
  ⟨files.nodes.filter fun entry => !path.isPrefixOf entry.1⟩

end Files

end ContainerClients.Program
