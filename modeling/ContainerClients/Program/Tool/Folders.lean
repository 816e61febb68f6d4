import ContainerClients.Program.Tool.Usage
import ContainerClients.Program.Tool.Words

/-!
# Files and folders

* `ls` — the names in folders.
* `mkdir`, `rmdir`, `rm`, `touch`, `chmod` — making, removing and marking files and folders.
* `cp`, `mv` — files under other names.
* `realpath`, `which` — where files and programs are.

A tool that changes several files goes on after a fault, and ends with a status that says so.
-/

namespace ContainerClients.Program

/-! ## Changes in turn -/

/-- **What comes of changing files in turn**: the tree, what is written and whether all went
well. -/
structure Changes where
  /-- the tree of files -/
  files : Files
  /-- what is written, in order -/
  writes : List (Channel × Octets)
  /-- nothing went wrong -/
  isOk : Bool

namespace Changes

/-- Nothing is changed yet. -/
def start (files : Files) : Changes := ⟨files, [], true⟩

/-- The tree after a change. -/
def taking (changes : Changes) (files : Files) : Changes := { changes with files }

/-- Something went wrong. -/
def wrong (changes : Changes) (call : Call) (message : Octets) : Changes :=
  { changes with
    writes := changes.writes ++ [(.errors, call.name ++ ": ".toList ++ message ++ ['\n'])]
    isOk := false }

/-- A change that may not be possible, with what is said then in front of the fault. -/
def attempt (changes : Changes) (call : Call) (words : Octets)
    (change : Except FileFault Files) : Changes :=
  match change with
  | .ok files => changes.taking files
  | .error fault => changes.wrong call (words ++ ": ".toList ++ fault.message.toList)

/-- What a tool does by its changes. -/
def effect (changes : Changes) (call : Call) : Effect :=
  ⟨changes.writes, call.input, if changes.isOk then 0 else 1, changes.files⟩

end Changes

namespace Call

/-- The path that a word of a call denotes. -/
def path (call : Call) (name : Octets) : Path := Path.resolve call.folder name

/-- Changes files in turn. -/
def changing (call : Call) (names : List Octets) (change : Changes → Octets → Changes) : Effect :=
  if names.isEmpty then call.misused "missing operand".toList 1
  else (names.foldl change (.start call.files)).effect call

end Call

/-- A name between straight quotation marks. -/
def inStraightMarks (s : Octets) : Octets := '\'' :: s ++ ['\'']

/-! ## Names in folders -/

/-- How the names in folders are listed. -/
structure Listing where
  /-- names that start with a dot are listed -/
  hidden : Bool
  /-- the folder itself and the one above it are listed -/
  dots : Bool
  /-- names are marked by what they are -/
  marks : Bool
  /-- folders are listed by their names -/
  asFiles : Bool
  /-- the last name comes first -/
  reversed : Bool
  /-- folders in folders are listed too -/
  deep : Bool

namespace Listing

/-- A name as it is listed. -/
def entry (listing : Listing) (files : Files) (folder : Path) (name : Octets) : Octets :=
  let path := Path.resolve folder name
  let mark := if !listing.marks then []
    else if files.isFolder path then ['/']
    else if files.isRunnable path then ['*']
    else []
  name ++ mark ++ ['\n']

/-- The names in a folder that are listed. -/
def names (listing : Listing) (files : Files) (folder : Path) : List Octets :=
  let names := (files.names folder).filter fun name => listing.hidden || name.head? != some '.'
  let names := if listing.dots then ['.'] :: ['.', '.'] :: names else names
  if listing.reversed then names.reverse else names

/-- What is listed of a folder. -/
def folderText (listing : Listing) (files : Files) (folder : Path) : Octets :=
  (listing.names files folder).flatMap (listing.entry files folder)

/-- Folders with what is listed of each, the folders in them behind them.  The number bounds how
deep they are. -/
def sections (listing : Listing) (files : Files) : Nat → Octets → Path → List (Octets × Octets)
  | 0, _, _ => []
  | fuel + 1, name, folder =>
    let inside := if listing.deep then
        (listing.names files folder).filter fun name =>
          name != ['.'] && name != ['.', '.'] && files.isFolder (folder ++ [name])
      else []
    let front := if name.getLast? == some '/' then name else name ++ ['/']
    (name, listing.folderText files folder) ::
      inside.flatMap fun name => sections listing files fuel (front ++ name) (folder ++ [name])

end Listing

/-- **The names in folders.** -/
def ls (call : Call) : Effect :=
  call.byUsage [.flag '1' "", .flag 'a' "all", .flag 'A' "almost-all", .flag 'd' "directory",
    .flag 'F' "classify", .flag 'p' "", .flag 'r' "reverse", .flag 'R' "recursive",
    .flag 'C' "", .flag 'x' ""] false 2 fun usage =>
      let listing : Listing := ⟨usage.has 'a' || usage.has 'A', usage.last? ['a', 'A'] == some 'a',
        usage.has 'F', usage.has 'd', usage.has 'r', usage.has 'R'⟩
      let names := if usage.operands.isEmpty then [['.']] else usage.operands
      let names := names.mergeSort Octets.le
      let names := if listing.reversed then names.reverse else names
      let isThere (name : Octets) : Bool := (call.files.node? (call.path name)).isSome
      let isFolder (name : Octets) : Bool :=
        !listing.asFiles && call.files.isFolder (call.path name)
      let complaints := (names.filter (!isThere ·)).map fun name =>
        (Channel.errors, call.name ++ ": cannot access ".toList ++ inStraightMarks name ++
          ": ".toList ++ (call.files.absence (call.path name)).message.toList ++ ['\n'])
      let plain := (names.filter fun name => isThere name && !isFolder name).flatMap
        (listing.entry call.files call.folder)
      let sections := (names.filter isFolder).flatMap fun name =>
        listing.sections call.files 64 name (call.path name)
      let headed := 1 < names.length || listing.deep
      let texts := sections.map fun (name, text) =>
        if headed then name ++ [':', '\n'] ++ text else text
      let blocks := (if plain.isEmpty then [] else [plain]) ++ texts
      ⟨complaints ++ [(.output, ['\n'].intercalate blocks)], call.input,
        if complaints.isEmpty then 0 else 2, call.files⟩

/-! ## Making and removing -/

/-- The tree with a folder and all those above it. -/
def Files.makeFolders (files : Files) (path : Path) : Except FileFault Files :=
  (List.range path.length).foldlM (fun files n =>
    let path := path.take (n + 1)
    if files.isFolder path then .ok files else files.makeFolder path) files

/-- **Makes folders.** -/
def mkdir (call : Call) : Effect :=
  call.byUsage [.flag 'p' "parents", .flag 'v' "verbose", .valued 'm' "mode"] false 1 fun usage =>
    call.changing usage.operands fun changes name =>
      let path := call.path name
      let made := if usage.has 'p' then changes.files.makeFolders path
        else changes.files.makeFolder path
      let changes := changes.attempt call ("cannot create directory ".toList ++ inMarks name) made
      if usage.has 'v' && made.isOk then
        { changes with writes := changes.writes ++
          [(.output,
            call.name ++ ": created directory ".toList ++ inStraightMarks name ++ ['\n'])] }
      else changes

/-- **Removes folders that hold nothing.** -/
def rmdir (call : Call) : Effect :=
  call.byUsage [.flag 'p' "parents"] false 1 fun usage =>
    call.changing usage.operands fun changes name =>
      let parts := (Text.pieces '/' name).length
      let path := call.path name
      let count := if usage.has 'p' then parts else 1
      (List.range count).foldl (fun changes n =>
        if changes.isOk then
          changes.attempt call ("failed to remove ".toList ++ inStraightMarks name)
            (changes.files.removeFolder (path.take (path.length - n)))
        else changes) changes

/-- **Removes files**, and folders if that is asked for. -/
def rm (call : Call) : Effect :=
  call.byUsage [.flag 'f' "force", .flag 'r' "recursive", ⟨'R', "", .none⟩, .flag 'd' "dir",
    .flag 'v' "verbose", .flag 'i' ""] false 1 fun usage =>
      let deep := usage.has 'r' || usage.has 'R'
      let force := usage.has 'f'
      if usage.operands.isEmpty && force then call.ignoring [] 0
      else call.changing usage.operands fun changes name =>
        let path := call.path name
        let words := "cannot remove ".toList ++ inStraightMarks name
        match changes.files.node? path with
        | none =>
          if force then changes
          else changes.attempt call words (.error (changes.files.absence path))
        | some .folder =>
          let last := baseName name
          if deep && (last == ['.'] || last == ['.', '.']) then
            changes.wrong call ("refusing to remove '.' or '..' directory: skipping ".toList ++
              inStraightMarks name)
          else if deep then changes.taking (changes.files.removeAll path)
          else if usage.has 'd' then
            changes.attempt call words (changes.files.removeFolder path)
          else changes.attempt call words (.error .isFolder)
        | some _ => changes.attempt call words (changes.files.remove path)

/-- **Makes files that are not there.** -/
def touch (call : Call) : Effect :=
  call.byUsage [.flag 'a' "", .flag 'm' "", .flag 'c' "no-create", .valued 'd' "date",
    .valued 'r' "reference", .valued 't' ""] false 1 fun usage =>
      if usage.operands.isEmpty then call.misused "missing file operand".toList 1
      else call.changing usage.operands fun changes name =>
        let path := call.path name
        if usage.has 'c' || (changes.files.node? path).isSome then changes
        else changes.attempt call ("cannot touch ".toList ++ inStraightMarks name)
          (changes.files.write path [])

/-- Whether a mode lets files be run; nothing if it says nothing about that. -/
def readRunnable? (mode : Octets) : Option Bool :=
  if !mode.isEmpty && mode.all Char.isDigit then
    some (mode.any fun c => c.toNat % 2 = 1)
  else (Text.pieces ',' mode).foldl (fun found part =>
    if !part.contains 'x' then found
    else some !(part.contains '-')) none

/-- **Lets files be run**, or not. -/
def chmod (call : Call) : Effect :=
  let isMode (s : Octets) : Bool := s.head? == some '-' && s.tail.any "rwx".toList.contains
  match call.args.filter fun s => s.head? != some '-' || isMode s with
  | [] => call.misused "missing operand".toList 1
  | [mode] => call.misused ("missing operand after ".toList ++ inMarks mode) 1
  | mode :: names =>
    call.changing names fun changes name =>
      let path := call.path name
      match changes.files.node? path, readRunnable? mode with
      | none, _ =>
        changes.attempt call ("cannot access ".toList ++ inStraightMarks name)
          (.error (changes.files.absence path))
      | some _, some runnable =>
        changes.attempt call [] (changes.files.setRunnable path runnable)
      | some _, none => changes

/-! ## Other names -/

/-- The tree with a copy of what is at a path and below it. -/
def Files.copyAll (files : Files) (source target : Path) : Files :=
  let copies := files.nodes.filterMap fun entry =>
    if source.isPrefixOf entry.1 then some (target ++ entry.1.drop source.length, entry.2)
    else none
  copies.foldl (fun files entry => files.put entry.1 entry.2) files

/-- The target of a file: inside a folder it keeps its name. -/
def targetOf (files : Files) (target : Path) (name : Octets) : Path :=
  if files.isFolder target then target ++ [baseName name] else target

/-- Copies or moves one file. -/
def placeFile (call : Call) (keeps deep : Bool) (target : Octets) (changes : Changes)
    (name : Octets) : Changes :=
  let files := changes.files
  let source := call.path name
  let place := targetOf files (call.path target) name
  let clash (words : Octets) : Changes := changes.wrong call words
  match files.node? source with
  | none =>
    changes.attempt call ("cannot stat ".toList ++ inStraightMarks name)
      (.error (files.absence source))
  | some node =>
    let placeName := inStraightMarks (if files.isFolder (call.path target) then
      withoutSlashes target ++ '/' :: baseName name else target)
    if source == place then
      clash (inStraightMarks name ++ " and ".toList ++ placeName ++ " are the same file".toList)
    else if node == .folder && keeps && !deep then
      clash ("-r not specified; omitting directory ".toList ++ inStraightMarks name)
    else if node == .folder && source.isPrefixOf place then
      clash ((if keeps then "cannot copy a directory, ".toList else "cannot move ".toList) ++
        inStraightMarks name ++ (if keeps then ", into itself, ".toList
          else " to a subdirectory of itself, ".toList) ++ placeName)
    else match files.node? place with
      | some .folder =>
        if node == .folder then
          changes.taking (if keeps then files.copyAll source place
            else (files.copyAll source place).removeAll source)
        else clash ("cannot overwrite directory ".toList ++ placeName ++
          " with non-directory".toList)
      | some _ =>
        if node == .folder then
          clash ("cannot overwrite non-directory ".toList ++ placeName ++ " with directory ".toList
            ++ inStraightMarks name)
        else changes.taking (put files source place node)
      | none =>
        if files.isFolder place.dropLast then
          if node == .folder then
            changes.taking (if keeps then files.copyAll source place
              else (files.copyAll source place).removeAll source)
          else changes.taking (put files source place node)
        else if keeps then
          changes.attempt call ((if node == .folder then "cannot create directory ".toList
            else "cannot create regular file ".toList) ++ placeName)
            (.error (files.absence place.dropLast))
        else
          changes.attempt call ("cannot move ".toList ++ inStraightMarks name ++ " to ".toList ++
            placeName) (.error (files.absence place.dropLast))
where
  /-- The tree with a file at another place. -/
  put (files : Files) (source place : Path) (node : Node) : Files :=
    let node := match node, files.node? place with
      | .program, _ => .file [] true
      | .null, _ => .file [] false
      | .file text _, some (.file _ runnable) => if keeps then .file text runnable else node
      | node, _ => node
    let files := if files.node? place == some .null then files else files.put place node
    if keeps then files else ⟨files.nodes.filter (·.1 != source)⟩

/-- Copies or moves files. -/
def placeFiles (call : Call) (keeps deep : Bool) (names : List Octets) : Effect :=
  match names.getLast?, names.dropLast with
  | none, _ => call.misused "missing file operand".toList 1
  | some name, [] =>
    call.misused ("missing destination file operand after ".toList ++ inStraightMarks name) 1
  | some target, sources =>
    if 1 < sources.length && !call.files.isFolder (call.path target) then
      call.failing ("target ".toList ++ inStraightMarks target ++ ": ".toList ++
        (if (call.files.node? (call.path target)).isSome then "Not a directory".toList
          else "No such file or directory".toList)) 1
    else (sources.foldl (placeFile call keeps deep target) (.start call.files)).effect call

/-- **Copies files.** -/
def cp (call : Call) : Effect :=
  call.byUsage [.flag 'r' "recursive", ⟨'R', "", .none⟩, .flag 'a' "archive", .flag 'f' "force",
    .flag 'p' "", .flag 'v' "verbose"] false 1 fun usage =>
      placeFiles call true (usage.has 'r' || usage.has 'R' || usage.has 'a') usage.operands

/-- **Moves files.** -/
def mv (call : Call) : Effect :=
  call.byUsage [.flag 'f' "force", .flag 'v' "verbose", .flag 'n' "no-clobber"] false 1 fun usage =>
    placeFiles call false true usage.operands

/-! ## Places -/

/-- **Where files are**, from the root. -/
def realpath (call : Call) : Effect :=
  call.byUsage [.flag 'e' "canonicalize-existing", .flag 'm' "canonicalize-missing",
    .flag 's' "strip", .flag 'q' "quiet"] false 1 fun usage =>
      call.changing usage.operands fun changes name =>
        let path := call.path name
        let isThere := (call.files.node? path).isSome
        let isBelow := call.files.isFolder path.dropLast
        if isThere || usage.has 'm' || (isBelow && !usage.has 'e') then
          { changes with writes := changes.writes ++ [(.output, path.text ++ ['\n'])] }
        else changes.attempt call name (.error (call.files.absence path))

/-- **Where files are**, if they are more than names for others. -/
def readlink (call : Call) : Effect :=
  call.byUsage [.flag 'f' "canonicalize", .flag 'e' "canonicalize-existing",
    .flag 'm' "canonicalize-missing", .flag 'n' "no-newline"] false 1 fun usage =>
      let found := usage.operands.filterMap fun name =>
        let path := call.path name
        let isThere := (call.files.node? path).isSome
        if usage.has 'm' || (usage.has 'e' && isThere) ||
          (usage.has 'f' && (isThere || call.files.isFolder path.dropLast)) then some path.text
        else none
      let ending := if usage.has 'n' then [] else ['\n']
      call.ignoring (found.flatMap (· ++ ending))
        (if found.length = usage.operands.length then 0 else 1)

/-- **Where programs are.** -/
def which (call : Call) : Effect :=
  let folders := Text.pieces ':' ((call.settings.lookup "PATH".toList).getD [])
  let all := call.args.head? == some ['-', 'a']
  let names := if all then call.args.tail else call.args
  let found := names.map fun name =>
    let places := if name.contains '/' then [name] else folders.map fun folder =>
      (if folder.isEmpty then ['.'] else folder) ++ '/' :: name
    let places := places.filter fun place => call.files.isRunnable (call.path place)
    if all then places else places.take 1
  call.ignoring (found.flatMap fun places => places.flatMap (· ++ ['\n']))
    (if !names.isEmpty && found.all (!·.isEmpty) then 0 else 1)

end ContainerClients.Program
