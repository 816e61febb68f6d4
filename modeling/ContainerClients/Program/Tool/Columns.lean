import ContainerClients.Program.Tool.Usage

/-!
# Columns

* `Selection` — the places that are wanted of each line.
* `cut` — parts of lines.
* `paste` — lines side by side.
-/

namespace ContainerClients.Program

/-! ## Parts of lines -/

/-- **The places that are wanted**: ranges from a place to another one, or to the end. -/
abbrev Selection := List (Nat × Option Nat)

namespace Selection

/-- A place is wanted. -/
def has (selection : Selection) (place : Nat) : Bool :=
  selection.any fun (low, high) => low ≤ place && high.all (place ≤ ·)

/-- A place is the first of a range. -/
def startsAt (selection : Selection) (place : Nat) : Bool :=
  selection.any (·.1 == place) && !selection.any fun (low, high) =>
    low < place && high.all (place ≤ ·)

end Selection

/-- A range of places as it is written, or what is wrong. -/
def readRange (fields : Bool) (s : Octets) : Except Octets (Nat × Option Nat) :=
  let zero : Octets := if fields then "fields are numbered from 1".toList
    else "byte/character positions are numbered from 1".toList
  let wrong : Octets := (if fields then "invalid field value ".toList
    else "invalid byte/character position ".toList) ++ inMarks s
  match Text.cutFirst '-' s with
  | none =>
    match Octets.natural? s with
    | some 0 => .error zero
    | some n => .ok (n, some n)
    | none => .error (if s.isEmpty then zero else wrong)
  | some ([], []) => .error "invalid range with no endpoint: -".toList
  | some (low, high) =>
    match (if low.isEmpty then some 1 else Octets.natural? low),
      (if high.isEmpty then some none else (Octets.natural? high).map some) with
    | some 0, some _ => .error zero
    | some low, some (some high) =>
      if high < low then .error "invalid decreasing range".toList else .ok (low, some high)
    | some low, some none => .ok (low, none)
    | _, _ => .error wrong

/-- The places that are written in a list, or what is wrong. -/
def readSelection? (fields : Bool) (s : Octets) : Except Octets Selection :=
  ((s.splitBy fun c d => (c == ',' || isBlank c) == (d == ',' || isBlank d)).filter fun run =>
    !run.head?.any fun c => c == ',' || isBlank c).mapM (readRange fields) |>.bind fun ranges =>
      if ranges.isEmpty then
        .error (if fields then "fields are numbered from 1".toList
          else "byte/character positions are numbered from 1".toList)
      else .ok ranges
where
  /-- A blank. -/
  isBlank (c : Char) : Bool := c == ' ' || c == '\t'

/-- The bytes of a line that are wanted, with a mark between ranges. -/
def cutBytes (wanted : Nat → Bool) (selection : Selection) (mark : Octets) (line : Octets) :
    Octets :=
  let places := (line.zipIdx 1).filter fun (_, place) => wanted place
  match places with
  | [] => []
  | (c, _) :: rest =>
    c :: rest.flatMap fun (c, place) =>
      (if !mark.isEmpty && selection.startsAt place then mark else []) ++ [c]

/-- The fields of a line that are wanted. -/
def cutFields (wanted : Nat → Bool) (delimiter : Char) (mark : Octets) (line : Octets) : Octets :=
  mark.intercalate ((((Text.pieces delimiter line).zipIdx 1).filter fun (_, place) =>
    wanted place).map (·.1))

/-- The options of `cut`. -/
def cutOptions : List OptionRule :=
  [.valued 'b' "bytes", .valued 'c' "characters", .valued 'd' "delimiter", .valued 'f' "fields",
   .flag 'n' "", .flag 's' "only-delimited", .flag '\x02' "complement",
   .valued '\x03' "output-delimiter", .flag 'z' "zero-terminated"]

/-- **Parts of lines.** -/
def cut (call : Call) : Effect :=
  call.byUsage cutOptions false 1 fun usage =>
    let lists := usage.options.filter fun option => "bcf".toList.contains option.1
    match lists with
    | [] => call.misused "you must specify a list of bytes, characters, or fields".toList 1
    | _ :: _ :: _ => call.misused "only one list may be specified".toList 1
    | [(kind, list)] =>
      let fields := kind == 'f'
      let delimiter := (usage.value? 'd').getD ['\t']
      if 1 < delimiter.length then
        call.misused "the delimiter must be a single character".toList 1
      else if !fields && usage.has 'd' then
        call.misused
          "an input delimiter may be specified only when operating on fields".toList 1
      else if !fields && usage.has 's' then
        call.misused ("suppressing non-delimited lines makes sense\n" ++
          "\tonly when operating on fields").toList 1
      else match readSelection? fields list with
        | .error message => call.misused message 1
        | .ok selection =>
          let lineEnd := if usage.has 'z' then '\x00' else '\n'
          let wanted (place : Nat) : Bool := selection.has place != usage.has '\x02'
          let delimiter := delimiter.headD '\x00'
          let line (s : Octets) : Octets :=
            if fields then
              if !s.contains delimiter then
                if usage.has 's' then [] else s ++ [lineEnd]
              else cutFields wanted delimiter ((usage.value? '\x03').getD [delimiter]) s ++
                [lineEnd]
            else cutBytes wanted selection ((usage.value? '\x03').getD []) s ++ [lineEnd]
          call.throughFiles usage.operands fun _ text =>
            let lines := Text.pieces lineEnd text
            (if lines.getLast? == some [] then lines.dropLast else lines).flatMap line

/-! ## Lines side by side -/

/-- The marks between columns as they are written; one may be empty. -/
def readMarks : Octets → List Octets
  | '\\' :: c :: rest =>
    let mark : Octets := match c with
      | '0' => []
      | 'n' => ['\n']
      | 't' => ['\t']
      | 'b' => ['\x08']
      | 'f' => ['\x0c']
      | 'r' => ['\r']
      | 'v' => ['\x0b']
      | c => [c]
    mark :: readMarks rest
  | c :: rest => [c] :: readMarks rest
  | [] => []

/-- Texts with marks between them, which are used in turn. -/
def joinByMarks (marks : List Octets) : Nat → List Octets → Octets
  | _, [] => []
  | _, [s] => s
  | k, s :: rest => s ++ (marks[k % marks.length]?).getD [] ++ joinByMarks marks (k + 1) rest

/-- One line of each source; those of the input are taken from it in turn. -/
def takeRow : List (Option (List Octets)) → List Octets →
    List (Option Octets) × List (Option (List Octets)) × List Octets
  | [], input => ([], [], input)
  | none :: rest, input =>
    let (row, sources, left) := takeRow rest input.tail
    (input.head? :: row, none :: sources, left)
  | some lines :: rest, input =>
    let (row, sources, left) := takeRow rest input
    (lines.head? :: row, some lines.tail :: sources, left)

/-- The rows of sources; the number bounds their count. -/
def takeRows : Nat → List (Option (List Octets)) → List Octets → List (List Octets)
  | 0, _, _ => []
  | fuel + 1, sources, input =>
    let (row, sources, input) := takeRow sources input
    if row.all (·.isNone) then [] else row.map (·.getD []) :: takeRows fuel sources input

/-- **Lines side by side.** -/
def paste (call : Call) : Effect :=
  let options : List OptionRule :=
    [.valued 'd' "delimiters", .flag 's' "serial", .flag 'z' "zero-terminated"]
  call.byUsage options false 1 fun usage =>
    let lineEnd := if usage.has 'z' then '\x00' else '\n'
    let marks := match readMarks ((usage.value? 'd').getD ['\t']) with
      | [] => [[]]
      | marks => marks
    let lines (text : Octets) : List Octets :=
      let all := Text.pieces lineEnd text
      if all.getLast? == some [] then all.dropLast else all
    let names := Call.namesOrInput usage.operands
    let missing := names.filterMap fun name => match call.textOf name with
      | .ok _ => none
      | .error fault => some (Channel.errors, call.fileComplaint name fault)
    if usage.has 's' then
      call.throughFiles usage.operands fun _ text =>
        joinByMarks marks 0 (lines text) ++ [lineEnd]
    else if !missing.isEmpty then ⟨missing.take 1, call.input, 1, call.files⟩
    else
      let sources := names.map fun name =>
        if name == ['-'] then none else some (lines ((call.textOf name).toOption.getD []))
      let count := Octets.total (sources.map fun source => (source.getD []).length) +
        call.input.length + 1
      let rows := takeRows count sources (lines call.input)
      ⟨[(.output, rows.flatMap fun row => joinByMarks marks 0 row ++ [lineEnd])],
        call.restBehind usage.operands, 0, call.files⟩

end ContainerClients.Program
