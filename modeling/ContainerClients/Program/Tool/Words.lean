import ContainerClients.Program.Printf
import ContainerClients.Program.Tool.Usage

/-!
# Tools that write words

* `echo`, `printf`, `yes`, `seq` — words, formatted words, a word again and again, and numbers.
* `baseName`, `folderName` — parts of the names of files.
* `printenv` and others — what a tool knows about where it runs.
-/

namespace ContainerClients.Program

/-! ## Words -/

/-- The escapes of `echo`. -/
def wordEscapes : EscapeRules := ⟨true, true, false, true, true, false⟩

/-- The options in front of the words of `echo`: whether a line end follows, and whether escapes
are read. -/
def echoOptions : Bool → Bool → List Octets → Bool × Bool × List Octets
  | ended, escapes, ('-' :: c :: more) :: rest =>
    if (c :: more).all "neE".toList.contains then
      let last := ((c :: more).filter (· != 'n')).getLast?
      echoOptions (ended && !(c :: more).contains 'n') (last.elim escapes (· == 'e')) rest
    else (ended, escapes, ('-' :: c :: more) :: rest)
  | ended, escapes, words => (ended, escapes, words)

/-- **Writes words.** -/
def echo (call : Call) : Effect :=
  let (ended, escapes, words) := echoOptions true false call.args
  let text := [' '].intercalate words
  let (text, stop) := if escapes then unescapeAll wordEscapes text else (text, false)
  call.ignoring (if ended && !stop then text ++ ['\n'] else text) 0

/-- The formats of the tool `printf`. -/
def toolFormat : FormatRules where
  inFormat := ⟨false, true, true, true, true, true⟩
  inArgument := ⟨true, true, true, true, true, true⟩
  bits := 64
  sizes := true
  noNumber s := inMarks s ++ ": expected a numeric value".toList
  partNumber s := inMarks s ++ ": value not completely converted".toList
  tooGreat s := inMarks s ++ ": Numerical result out of range".toList
  noDirective s := s ++ ": invalid conversion specification".toList
  noLetter s := s ++ ": invalid conversion specification".toList

/-- **Writes words by a format.** -/
def printf (call : Call) : Effect :=
  let args := if call.args.head? == some ['-', '-'] then call.args.tail else call.args
  match args with
  | [] => call.misused "missing operand".toList 1
  | format :: args =>
    let formatted := formatAll toolFormat format args
    let complain (message : Octets) : Channel × Octets :=
      (.errors, call.name ++ ": ".toList ++ message ++ ['\n'])
    let left := if formatted.failure.isSome || formatted.stopped then none else formatted.rest.head?
    let excess := left.map fun s =>
      complain ("warning: ignoring excess arguments, starting with ".toList ++ inMarks s)
    ⟨formatted.complaints.map complain ++ [(.output, formatted.output)] ++
        (formatted.failure.map complain).toList ++ excess.toList,
      call.input, if formatted.complaints.isEmpty && formatted.failure.isNone then 0 else 1,
      call.files⟩

/-- How much is written of what has no end. -/
def endlessLength : Nat := 262144

/-- **Writes a line again and again**, more often than anyone wants it. -/
def yes (call : Call) : Effect :=
  let words := if call.args.head? == some ['-', '-'] then call.args.tail else call.args
  let line := (if words.isEmpty then ['y'] else [' '].intercalate words) ++ ['\n']
  call.ignoring (List.replicate (endlessLength / line.length + 1) line).flatten 0

/-! ## Numbers -/

/-- A number as it is written: its value in units of the last place, how many places it has, and
how wide it is. -/
structure WrittenNumber where
  /-- how many units it is -/
  units : Int
  /-- how many places are behind the point -/
  places : Nat
  /-- how many characters it has without its places and their point -/
  width : Nat

/-- A number as it is written. -/
def readNumber? (s : Octets) : Option WrittenNumber :=
  let (front, body) := match s with
    | '-' :: rest => (1, rest)
    | '+' :: rest => (0, rest)
    | rest => (0, rest)
  let whole := body.takeWhile Char.isDigit
  let rest := body.drop whole.length
  let (fraction, rest) := match rest with
    | '.' :: more => (more.takeWhile Char.isDigit, more.dropWhile Char.isDigit)
    | rest => ([], rest)
  let (exponent, rest) := readExponent rest
  if (whole.isEmpty && fraction.isEmpty) || !rest.isEmpty then none
  else
    let n : Int := (Octets.natural? (whole ++ fraction)).getD 0
    let n := if s.head? == some '-' then -n else n
    let places := (fraction.length : Int) - exponent
    let (n, places) : Int × Nat := if places < 0 then (n * Number.tenTo places.natAbs, 0)
      else (n, places.toNat)
    some ⟨n, places, front + max whole.length 1⟩

/-- A number of units with places behind the point, padded by zeros to a width. -/
def unitsText (places width : Nat) (units : Int) : Octets :=
  let digits := Octets.padStart (places + 1) '0' (Octets.ofNat units.natAbs)
  let whole := digits.take (digits.length - places)
  let body := if places = 0 then whole else whole ++ '.' :: digits.drop (digits.length - places)
  if units < 0 then '-' :: Octets.padStart (width - 1) '0' body else Octets.padStart width '0' body

/-- How many numbers are written at most. -/
def mostNumbers : Nat := 1000000

/-- **Writes numbers** from one to another. -/
def writeNumbers (call : Call) (usage : Usage) (first step last : WrittenNumber) : Effect :=
  let places := max first.places step.places
  let scale := max places last.places
  let toScale (number : WrittenNumber) : Int :=
    number.units * Number.tenTo (scale - number.places)
  let a := toScale first
  let d := toScale step
  let z := toScale last
  let count : Nat := if d > 0 then (if z < a then 0 else ((z - a) / d).toNat + 1)
    else if a < z then 0 else ((a - z) / (-d)).toNat + 1
  let numbers := (List.range (min count mostNumbers)).map fun (k : Nat) => a + d * Int.ofNat k
  let padding := if places = 0 then 0 else places + 1
  let width := if usage.has 'w' then max first.width last.width + padding else 0
  let cut := Number.tenTo (scale - places)
  let texts := numbers.map fun n => unitsText places width (n.tdiv cut)
  let texts := match usage.value? 'f' with
    | none => texts
    | some format => texts.map fun s => (formatAll toolFormat format [s]).output
  let separator := (usage.value? 's').getD ['\n']
  call.ignoring (if texts.isEmpty then [] else separator.intercalate texts ++ ['\n']) 0

/-- The words of `seq`, with a mark in front of the first number below zero. -/
def beforeNegative : List Octets → List Octets
  | [] => []
  | ('-' :: c :: more) :: rest =>
    if c.isDigit || c == '.' then ['-', '-'] :: ('-' :: c :: more) :: rest
    else if [c] ++ more == ['s'] || [c] ++ more == ['f'] then
      ('-' :: c :: more) :: rest.take 1 ++ beforeNegative (rest.drop 1)
    else ('-' :: c :: more) :: beforeNegative rest
  | word :: rest => word :: rest
termination_by words => words.length
decreasing_by all_goals (simp; try omega)

/-- **Writes numbers in their order.** -/
def seq (call : Call) : Effect :=
  let options : List OptionRule :=
    [.valued 'f' "format", .valued 's' "separator", .flag 'w' "equal-width"]
  { call with args := beforeNegative call.args }.byUsage options true 1 fun usage =>
    let wrong := usage.operands.find? fun s => (readNumber? s).isNone
    match usage.operands, wrong with
    | [], _ => call.misused "missing operand".toList 1
    | _ :: _ :: _ :: extra :: _, _ => call.misused ("extra operand ".toList ++ inMarks extra) 1
    | _, some s => call.misused ("invalid floating point argument: ".toList ++ inMarks s) 1
    | words, none =>
      let one : WrittenNumber := ⟨1, 0, 1⟩
      match words.filterMap readNumber? with
      | [last] => writeNumbers call usage one one last
      | [first, last] => writeNumbers call usage first one last
      | [first, step, last] =>
        if step.units = 0 then
          call.misused ("invalid Zero increment value: ".toList ++ inMarks (words.getD 1 [])) 1
        else writeNumbers call usage first step last
      | _ => call.misused "missing operand".toList 1

/-! ## Names of files -/

/-- A text without the slashes at its end. -/
def withoutSlashes (s : Octets) : Octets := Text.dropEndWhile (· == '/') s

/-- **The last name of a path.** -/
def baseName (s : Octets) : Octets :=
  let s' := withoutSlashes s
  if s'.isEmpty then (if s.isEmpty then [] else ['/'])
  else ((Text.pieces '/' s').getLast?).getD []

/-- A name without a text at its end, unless that is all of it. -/
def withoutSuffix (suffix name : Octets) : Octets :=
  if suffix.length < name.length && suffix.isSuffixOf name then
    name.take (name.length - suffix.length)
  else name

/-- **The path in front of the last name.** -/
def folderName (s : Octets) : Octets :=
  let s' := withoutSlashes s
  if s'.isEmpty then (if s.isEmpty then ['.'] else ['/'])
  else
    match Text.cutLast '/' s' with
    | none => ['.']
    | some (front, _) => if (withoutSlashes front).isEmpty then ['/'] else withoutSlashes front

/-- Writes the last names of paths. -/
def baseNames (call : Call) : Effect :=
  let options : List OptionRule :=
    [.flag 'a' "multiple", .valued 's' "suffix", .flag 'z' "zero"]
  call.byUsage options true 1 fun usage =>
    let ending := if usage.has 'z' then '\x00' else '\n'
    let several := usage.has 'a' || usage.has 's'
    match usage.operands with
    | [] => call.misused "missing operand".toList 1
    | names =>
      if several then
        call.ignoring (names.flatMap fun name =>
          withoutSuffix ((usage.value? 's').getD []) (baseName name) ++ [ending]) 0
      else match names with
        | [name] => call.ignoring (baseName name ++ [ending]) 0
        | [name, suffix] => call.ignoring (withoutSuffix suffix (baseName name) ++ [ending]) 0
        | _ => call.misused ("extra operand ".toList ++ inMarks (names.getD 2 [])) 1

/-- Writes the paths in front of last names. -/
def folderNames (call : Call) : Effect :=
  call.byUsage [.flag 'z' "zero"] true 1 fun usage =>
    let ending := if usage.has 'z' then '\x00' else '\n'
    match usage.operands with
    | [] => call.misused "missing operand".toList 1
    | names => call.ignoring (names.flatMap fun name => folderName name ++ [ending]) 0

/-! ## What is known -/

/-- Writes variables, or all of them. -/
def printenv (call : Call) : Effect :=
  call.byUsage [.flag '0' "null"] true 2 fun usage =>
    let ending := if usage.has '0' then '\x00' else '\n'
    match usage.operands with
    | [] => call.ignoring (call.settings.flatMap fun (name, value) =>
        name ++ ['='] ++ value ++ [ending]) 0
    | names =>
      let found := names.map fun name => call.settings.lookup name
      call.ignoring ((found.filterMap id).flatMap (· ++ [ending]))
        (if found.all (·.isSome) then 0 else 1)

/-- Waits; nobody notices how long. -/
def sleep (call : Call) : Effect :=
  let isTime (s : Octets) : Bool := match readReal s with
    | (_, rest) => rest.length < s.length && s.head? != some '-' &&
      (rest.isEmpty || ["s", "m", "h", "d"].any (·.toList == rest))
  match call.args with
  | [] => call.misused "missing operand".toList 1
  | times =>
    match times.find? fun s => !isTime s with
    | some s => call.misused ("invalid time interval ".toList ++ inMarks s) 1
    | none => call.ignoring [] 0

/-- Writes who runs the tool. -/
def identity (call : Call) : Effect :=
  call.byUsage [.flag 'u' "user", .flag 'g' "group", .flag 'G' "groups", .flag 'n' "name",
    .flag 'r' "real"] false 1 fun usage =>
      let text : String :=
        if usage.options.all fun option => option.1 == 'n' || option.1 == 'r' then
          "uid=0(root) gid=0(root) groups=0(root)\n"
        else if usage.has 'n' then "root\n" else "0\n"
      call.ignoring text.toList 0

/-- Writes a text, whatever the arguments. -/
def saying (text : Call → Octets) (exit : Nat) (call : Call) : Effect :=
  call.ignoring (text call) exit

end ContainerClients.Program
