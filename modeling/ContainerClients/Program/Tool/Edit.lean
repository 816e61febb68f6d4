import ContainerClients.Program.Edit.Run
import ContainerClients.Program.Tool.Usage

/-!
# The line editor

`sed` takes each line of its files through the commands of a script.

* `editLines` — the lines of files.
* `sed` — the tool.
-/

namespace ContainerClients.Program

/-- The options of `sed`. -/
def sedOptions : List OptionRule :=
  [.flag 'n' "quiet", .flag 'n' "silent", .flag '\x02' "debug", .valued 'e' "expression",
   .valued 'f' "file", .flag '\x03' "follow-symlinks", ⟨'i', "in-place", .possible⟩,
   .valued 'l' "line-length", .flag '\x04' "posix", .flag 'E' "regexp-extended", .flag 'r' "",
   .flag 's' "separate", .flag '\x05' "sandbox", .flag 'u' "unbuffered", .flag 'z' "null-data"]

/-- How `sed` is used. -/
def sedUsage : String :=
  "Usage: sed [OPTION]... \x7bscript-only-if-no-other-script\x7d [input-file]...\n\n"

/-- The lines of a file. -/
def editLines (lineEnd : Char) (file text : Octets) : List EditLine :=
  let all := Text.pieces lineEnd text
  let last := all.getLast?.getD []
  let ended := all.dropLast.map fun line => (Octets.characters line, true)
  let lines := ended ++ (if last.isEmpty then [] else [(Octets.characters last, false)])
  lines.zipIdx.map fun ((text, ended), k) => ⟨text, ended, file, k + 1 = lines.length⟩

/-- The editor in front of lines. -/
def EditState.start (lines : List EditLine) (files : Files) : EditState :=
  ⟨[], true, ['-'], false, 0, [], lines, [], [], false, none, false, [], [], files, [], 0, false⟩

/-- The files that a script writes to, which are made empty first. -/
def EditScript.written (script : EditScript) : List (List Char) :=
  script.filterMap fun command => match command.action with
    | .writeFile name | .writeFirst name => some name
    | .substitute substitution => substitution.file
    | _ => none

/-- The texts of a script that is given by options, or by the first operand, and the files; or a
file of a script that cannot be read. -/
def scriptTexts (call : Call) (usage : Usage) :
    Except (Octets × FileFault) (List Octets × List Octets) := do
  let given ← (usage.options.filter fun option => option.1 == 'e' || option.1 == 'f').mapM
    fun (letter, value) =>
      if letter == 'e' then .ok value
      else match call.textOf value with
        | .ok text => .ok (Octets.withoutEnd text)
        | .error fault => .error (value, fault)
  if given.isEmpty then return (usage.operands.take 1, usage.operands.drop 1)
  else return (given, usage.operands)

/-- Edits files in their places, one after the other. -/
def editInPlace (rules : EditRules) (script : EditScript) (folder : Path) (suffix : Octets) :
    List Octets → EditState → Option Nat × EditState
  | [], state => (none, state)
  | name :: others, state =>
    let path := Path.resolve folder name
    match state.files.read path with
    | .error fault =>
      let complaint := "can't read ".toList ++ name ++ ": ".toList ++ fault.message.toList
      editInPlace rules script folder suffix others
        { state with complaints := complaint :: state.complaints }
    | .ok text =>
      let files := if suffix.isEmpty then state.files
        else
          let written := state.files.write (Path.resolve folder (name ++ suffix)) text
          written.toOption.getD state.files
      let (status, after) := EditScript.runLines rules script (2 * text.length + 2) false
        { state with
          rest := editLines rules.lineEnd name text
          number := 0, files, writes := [], owed := false }
      let rest := after.rest.map fun line => Octets.ofCharacters line.text ++
        (if line.ended then [rules.lineEnd] else [])
      let content := after.writes.reverse.flatten ++ rest.flatten
      let files := ((after.files.write path content).toOption).getD after.files
      let after := { after with files, writes := [] }
      match status with
      | some status => (some status, after)
      | none => editInPlace rules script folder suffix others after

/-- Edits the files of a call by a script. -/
def editFiles (call : Call) (usage : Usage) (script : EditScript) (quiet : Bool)
    (names : List Octets) : Effect :=
  let rules : EditRules := {
    quiet
    separate := usage.has 's' || usage.has 'i'
    lineEnd := if usage.has 'z' then '\x00' else '\n'
    width := ((usage.value? 'l').bind Octets.natural?).getD 70
    folder := call.folder }
  let files := script.written.foldl (fun files name =>
    let name := Octets.ofCharacters name
    if "/dev/std".toList.isPrefixOf name then files
    else ((files.write (Path.resolve call.folder name) []).toOption).getD files) call.files
  let complain (messages : List Octets) : List (Channel × Octets) :=
    messages.map fun message => (.errors, call.name ++ ": ".toList ++ message ++ ['\n'])
  if usage.has 'i' then
    let (status, state) := editInPlace rules script call.folder ((usage.value? 'i').getD []) names
      (.start [] files)
    ⟨complain state.complaints.reverse, call.input,
      status.getD (if state.complaints.isEmpty then 0 else 4), state.files⟩
  else
    let parts := call.texts names
    let lines := parts.flatMap fun (name, text) => match text with
      | .ok text => editLines rules.lineEnd name text
      | .error _ => []
    let missing := parts.filterMap fun (name, text) => match text with
      | .ok _ => none
      | .error .isFolder => some ("couldn't edit ".toList ++ name ++ ": not a regular file".toList)
      | .error fault => some ("can't read ".toList ++ name ++ ": ".toList ++ fault.message.toList)
    let (status, state) := EditScript.runLines rules script
      (Octets.total (lines.map (·.text.length + 2)) + 1) false (.start lines files)
    let rest := if status.isSome && names.isEmpty then call.restBehindFront 4096 state.consumed
      else call.restBehind names
    ⟨complain missing ++ [(.output, state.writes.reverse.flatten)] ++
        complain state.complaints.reverse,
      rest, status.getD (if missing.isEmpty then 0 else 2), state.files⟩

/-- **Edits lines** by a script. -/
def sed (call : Call) : Effect :=
  match readUsage sedOptions false call.args with
  | .error message =>
    ⟨[(.errors, call.name ++ ": ".toList ++ message ++ '\n' :: sedUsage.toList)], call.input, 1,
      call.files⟩
  | .ok usage =>
    match scriptTexts call usage with
    | .error (name, fault) =>
      call.failing ("couldn't open file ".toList ++ name ++ ": ".toList ++ fault.message.toList) 4
    | .ok ([], _) => ⟨[(.errors, sedUsage.toList)], call.input, 1, call.files⟩
    | .ok (texts, names) =>
      match readEditScript (usage.has 'E' || usage.has 'r') (texts.map Octets.characters) with
      | .error (.noLabel name, _) =>
        call.failing (Octets.ofText (EditFault.noLabel name).message) 4
      | .error (fault, number, position) =>
        call.failing (Octets.ofText ("-e expression #" ++ toString number ++ ", char " ++
          toString position ++ ": " ++ fault.message)) 1
      | .ok script =>
        let quiet := usage.has 'n' || texts.head?.any ("#n".toList.isPrefixOf ·)
        editFiles call usage script quiet names

end ContainerClients.Program
