import ContainerClients.Program.Characters
import ContainerClients.Program.RealText
import ContainerClients.Program.Tool.Usage

/-!
# The order of lines

* `KeyOrder`, `SortKey` — what lines are compared by.
* `Sorting` — how lines are sorted.
* `sort`, `uniq`, `comm` — sorting lines, leaving out repeated ones, and comparing sorted texts.
-/

namespace ContainerClients.Program

/-! ## Comparing -/

/-- How texts are compared. -/
inductive KeyKind where
  /-- by their bytes -/
  | text
  /-- as numbers with digits and a point -/
  | number
  /-- as numbers that may have an exponent -/
  | real
  /-- as numbers with a letter that multiplies them -/
  | size
  /-- as months -/
  | month
  /-- as versions -/
  | version
deriving DecidableEq, Repr

/-- **How keys are compared.** -/
structure KeyOrder where
  /-- the kind of comparison -/
  kind : KeyKind
  /-- the other way round -/
  reversed : Bool
  /-- blanks in front do not count -/
  skipsBlanks : Bool
  /-- only letters, digits and blanks count -/
  dictionary : Bool
  /-- small letters count as capitals -/
  foldsCase : Bool
  /-- what cannot be printed does not count -/
  printing : Bool
deriving DecidableEq, Repr

/-- The order of bytes. -/
def KeyOrder.plain : KeyOrder := ⟨.text, false, false, false, false, false⟩

namespace KeyOrder

/-- A comparison changed by the letter of an option; nothing for another letter. -/
def withLetter? (order : KeyOrder) (letter : Char) : Option KeyOrder :=
  match letter with
  | 'b' => some { order with skipsBlanks := true }
  | 'd' => some { order with dictionary := true }
  | 'f' => some { order with foldsCase := true }
  | 'g' => some { order with kind := .real }
  | 'h' => some { order with kind := .size }
  | 'i' => some { order with printing := true }
  | 'M' => some { order with kind := .month }
  | 'n' => some { order with kind := .number }
  | 'r' => some { order with reversed := true }
  | 'V' => some { order with kind := .version }
  | _ => none

end KeyOrder

/-- The order of numbers. -/
def compareInt (a b : Int) : Ordering := if a < b then .lt else if b < a then .gt else .eq

/-- The order of texts by their bytes. -/
def compareBytes : Octets → Octets → Ordering
  | [], [] => .eq
  | [], _ :: _ => .lt
  | _ :: _, [] => .gt
  | c :: s, d :: t => if c < d then .lt else if d < c then .gt else compareBytes s t

/-- A byte is a blank. -/
def isBlankByte (c : Char) : Bool := c == ' ' || c == '\t' || c == '\n'

/-- The number at the front of a text, as so many units of which so many make one, and what
follows it. -/
def decimalFront (s : Octets) : Int × Nat × Octets :=
  let s := s.dropWhile isBlankByte
  let (negative, s) := match s with
    | '-' :: rest => (true, rest)
    | rest => (false, rest)
  let whole := s.takeWhile Char.isDigit
  let rest := s.drop whole.length
  let (fraction, rest) := match rest with
    | '.' :: more => (more.takeWhile Char.isDigit, more.dropWhile Char.isDigit)
    | rest => ([], rest)
  let n : Int := (Octets.natural? (whole ++ fraction)).getD 0
  (if negative then -n else n, Number.tenTo fraction.length, rest)

/-- The order of the numbers at the fronts of texts. -/
def compareNumbers (a b : Octets) : Ordering :=
  let (m, p, _) := decimalFront a
  let (n, q, _) := decimalFront b
  compareInt (m * q) (n * p)

/-- The order of numbers with letters that multiply them. -/
def compareSizes (a b : Octets) : Ordering :=
  let read (s : Octets) : Int × Nat × Int :=
    let (n, d, rest) := decimalFront s
    let unit : Int := match rest with
      | c :: _ => (("KMGTPEZY".toList.idxOf? (if c == 'k' then 'K' else c)).map
          fun k => (k : Int) + 1).getD 0
      | [] => 0
    (n, d, if n < 0 then -unit else if n = 0 then 0 else unit)
  let (m, p, u) := read a
  let (n, q, v) := read b
  (compareInt (m.sign) (n.sign)).then ((compareInt u v).then (compareInt (m * q) (n * p)))

/-- The number of a month, and 0 for anything else. -/
def monthNumber (s : Octets) : Int :=
  let word := ((s.dropWhile isBlankByte).take 3).map Char.toUpper
  (((["JAN", "FEB", "MAR", "APR", "MAY", "JUN", "JUL", "AUG", "SEP", "OCT", "NOV", "DEC"].map
    String.toList).idxOf? word).map fun k => (k : Int) + 1).getD 0

/-- The order of numbers that may have an exponent: what is no number comes first. -/
def compareReals (a b : Octets) : Ordering :=
  let read (s : Octets) : Int × Int × Nat :=
    match readReal s with
    | (.real real, rest) =>
      if rest.length = s.length then (0, 0, 1)
      else (3, if real.negative then -(real.num : Int) else real.num, real.den)
    | (.word negative ('i' :: _), _) => (if negative then 2 else 4, 0, 1)
    | (.word .., _) => (1, 0, 1)
  let (i, m, p) := read a
  let (j, n, q) := read b
  (compareInt i j).then (compareInt (m * q) (n * p))

/-- The place of a byte in the order of versions: `~` comes before the end, which comes before
letters, which come before all others. -/
def versionRank (c : Char) : Int :=
  if c.isDigit then 0 else if c.isAlpha then c.toNat
  else if c == '~' then -1 else (c.toNat : Int) + 256

/-- The order of the parts of versions in front of digits. -/
def compareVersionWords : Octets → Octets → Ordering
  | [], [] => .eq
  | c :: _, [] => compareInt (versionRank c) 0
  | [], d :: _ => compareInt 0 (versionRank d)
  | c :: s, d :: t => (compareInt (versionRank c) (versionRank d)).then (compareVersionWords s t)

/-- The order of versions; the number bounds how many parts they have. -/
def compareVersionsWith : Nat → Octets → Octets → Ordering
  | 0, _, _ => .eq
  | fuel + 1, s, t =>
    if s.isEmpty && t.isEmpty then .eq
    else
      let isWord (c : Char) : Bool := !c.isDigit
      (compareVersionWords (s.takeWhile isWord) (t.takeWhile isWord)).then <|
        let s := s.dropWhile isWord
        let t := t.dropWhile isWord
        let value (s : Octets) : Int := (Octets.natural? (s.takeWhile Char.isDigit)).getD 0
        (compareInt (value s) (value t)).then
          (compareVersionsWith fuel (s.dropWhile Char.isDigit) (t.dropWhile Char.isDigit))

/-- The order of versions. -/
def compareVersions (s t : Octets) : Ordering :=
  compareVersionsWith (s.length + t.length + 1) s t

namespace KeyOrder

/-- The part of a key that counts. -/
def essence (order : KeyOrder) (s : Octets) : Octets :=
  let s := if order.dictionary then s.filter fun c => c.isAlphanum || isBlankByte c
    else if order.printing then s.filter fun c => 32 ≤ c.toNat && c.toNat < 127
    else s
  if order.foldsCase then s.map Char.toUpper else s

/-- **The order of two keys.** -/
def compare (order : KeyOrder) (a b : Octets) : Ordering :=
  let result := match order.kind with
    | .text => compareBytes (order.essence a) (order.essence b)
    | .number => compareNumbers a b
    | .real => compareReals a b
    | .size => compareSizes a b
    | .month => compareInt (monthNumber a) (monthNumber b)
    | .version => compareVersions (order.essence a) (order.essence b)
  if order.reversed then result.swap else result

end KeyOrder

/-! ## Keys -/

/-- **A key**: a part of a line. -/
structure SortKey where
  /-- the field that it starts in, from 0, and how many bytes of it are left out -/
  first : Nat × Nat
  /-- the field that it ends in, from 0, and how many bytes of it are in the key, if not all; to
  the end of the line where there is none -/
  last : Option (Nat × Nat)
  /-- blanks in front of the last field do not count -/
  skipsLastBlanks : Bool
  /-- how it is compared -/
  order : KeyOrder

namespace SortKey

/-- What is left of a line behind a number of fields. -/
def behindFields (separator : Option Char) : Nat → Octets → Octets
  | 0, s => s
  | n + 1, s =>
    let rest := match separator with
      | some c => (s.dropWhile (· != c)).tail
      | none => (s.dropWhile isBlankByte).dropWhile (!isBlankByte ·)
    behindFields separator n rest

/-- How many bytes are in front of the end of a field. -/
def fieldEnd (separator : Option Char) (field : Nat) (s : Octets) : Nat :=
  let rest := behindFields separator field s
  let inside := match separator with
    | some c => (rest.takeWhile (· != c)).length
    | none =>
      let blanks := (rest.takeWhile isBlankByte).length
      blanks + ((rest.drop blanks).takeWhile (!isBlankByte ·)).length
  s.length - rest.length + inside

/-- **The key of a line.** -/
def text (key : SortKey) (separator : Option Char) (s : Octets) : Octets :=
  let front := behindFields separator key.first.1 s
  let front := if key.order.skipsBlanks then front.dropWhile isBlankByte else front
  let start := min s.length (s.length - front.length + key.first.2)
  let stop := match key.last with
    | none => s.length
    | some (field, 0) => fieldEnd separator field s
    | some (field, count) =>
      let rest := behindFields separator field s
      let rest := if key.skipsLastBlanks then rest.dropWhile isBlankByte else rest
      min s.length (s.length - rest.length + count)
  (s.take stop).drop start

/-- A field and a place in it, and what follows. -/
def readPlace (s : Octets) : Option ((Nat × Nat) × Octets) :=
  let digits := s.takeWhile Char.isDigit
  match Octets.natural? digits, s.drop digits.length with
  | some field, '.' :: rest =>
    let more := rest.takeWhile Char.isDigit
    (Octets.natural? more).map fun place => ((field, place), rest.drop more.length)
  | some field, rest => some ((field, 0), rest)
  | none, _ => none

/-- A comparison with the letters in front of a text, whether there are any blanks to be skipped,
and what follows. -/
def readLetters (order : KeyOrder) : Octets → KeyOrder × Octets
  | [] => (order, [])
  | c :: rest =>
    match order.withLetter? c with
    | some order => readLetters order rest
    | none => (order, c :: rest)

/-- **The key that is written** as `2.3n,4`. -/
def read? (s : Octets) (order : KeyOrder) : Option SortKey := do
  let ((field, place), rest) ← readPlace s
  if field = 0 then none
  else
    let (own, rest) := readLetters .plain rest
    match rest with
    | [] =>
      let order := if own = .plain then order else own
      return ⟨(field - 1, place - 1), none, false, order⟩
    | ',' :: rest =>
      let ((last, count), rest) ← readPlace rest
      let skips := own.skipsBlanks
      let (own, rest) := readLetters { own with skipsBlanks := false } rest
      let skipsLast := own.skipsBlanks
      let own := { own with skipsBlanks := skips }
      let inherits := own = .plain && !skipsLast
      if !rest.isEmpty || last = 0 then none
      else
        let order' := if inherits then order else own
        return ⟨(field - 1, place - 1), some (last - 1, count),
          if inherits then order.skipsBlanks else skipsLast, order'⟩
    | _ => none

end SortKey

/-- **How lines are sorted.** -/
structure Sorting where
  /-- the keys -/
  keys : List SortKey
  /-- what separates fields; blanks where there is none -/
  separator : Option Char
  /-- the order of whole lines -/
  order : KeyOrder
  /-- lines that are equal by their keys stay as they are -/
  stable : Bool
  /-- of lines that are equal by their keys one is left -/
  unique : Bool

namespace Sorting

/-- The order of lines by their keys. -/
def compareKeys (sorting : Sorting) (a b : Octets) : Ordering :=
  if sorting.keys.isEmpty then
    if sorting.order.skipsBlanks then
      sorting.order.compare (a.dropWhile isBlankByte) (b.dropWhile isBlankByte)
    else sorting.order.compare a b
  else sorting.keys.foldl (fun result key => result.then (key.order.compare
    (key.text sorting.separator a) (key.text sorting.separator b))) .eq

/-- **The order of lines.** -/
def compare (sorting : Sorting) (a b : Octets) : Ordering :=
  (sorting.compareKeys a b).then <|
    if sorting.stable || sorting.unique then .eq
    else if sorting.order.reversed then (compareBytes a b).swap else compareBytes a b

/-- Lines without those that are equal to the one in front. -/
def withoutRepeated (sorting : Sorting) : List Octets → List Octets
  | a :: b :: rest =>
    if sorting.compareKeys a b == .eq then withoutRepeated sorting (a :: rest)
    else a :: withoutRepeated sorting (b :: rest)
  | lines => lines
termination_by lines => lines.length

/-- **Lines in their order.** -/
def sorted (sorting : Sorting) (lines : List Octets) : List Octets :=
  let lines := lines.mergeSort fun a b => sorting.compare a b != .gt
  if sorting.unique then sorting.withoutRepeated lines else lines

/-- The first line that is not in its order, and its number. -/
def disorder? (sorting : Sorting) : Nat → List Octets → Option (Nat × Octets)
  | number, a :: b :: rest =>
    let result := sorting.compare a b
    if result == .gt || (sorting.unique && result == .eq) then some (number + 1, b)
    else disorder? sorting (number + 1) (b :: rest)
  | _, _ => none

end Sorting

/-! ## Sorting -/

/-- The options of `sort`. -/
def sortOptions : List OptionRule :=
  [.flag 'b' "ignore-leading-blanks", .flag 'd' "dictionary-order", .flag 'f' "ignore-case",
   .flag 'g' "general-numeric-sort", .flag 'i' "ignore-nonprinting", .flag 'M' "month-sort",
   .flag 'h' "human-numeric-sort", .flag 'n' "numeric-sort", .flag 'R' "random-sort",
   .flag 'r' "reverse", .flag 'V' "version-sort", ⟨'c', "check", .possible⟩, .flag 'C' "",
   .valued 'k' "key", .flag 'm' "merge", .valued 'o' "output", .flag 's' "stable",
   .valued 'S' "buffer-size", .valued 't' "field-separator", .valued 'T' "temporary-directory",
   .flag 'u' "unique", .flag 'z' "zero-terminated", .valued '\x02' "parallel",
   .valued '\x03' "batch-size"]

/-- The character that separates fields. -/
def readSeparator (s : Octets) : Except Octets Char :=
  match s with
  | [c] => .ok c
  | [] => .error "empty tab".toList
  | ['\\', '0'] => .ok '\x00'
  | s => .error ("multi-character tab ".toList ++ inMarks s)

/-- The lines of a text that are ended by a character. -/
def linesBy (lineEnd : Char) (text : Octets) : List Octets :=
  let all := Text.pieces lineEnd text
  if all.getLast? == some [] then all.dropLast else all

/-- How the lines of a call are sorted, or what is wrong. -/
def readSorting (usage : Usage) : Except Octets Sorting := do
  let order := usage.options.foldl (fun order (option : Char × Octets) =>
    (order.withLetter? option.1).getD order) KeyOrder.plain
  let separator ← match usage.value? 't' with
    | some s => (readSeparator s).map some
    | none => pure none
  let keys ← (usage.options.filter (·.1 == 'k')).mapM fun (_, s) =>
    match SortKey.read? s order with
    | some key => .ok key
    | none =>
      if s.head? == some '0' then
        .error ("field number is zero: invalid field specification ".toList ++ inMarks s)
      else .error ("invalid number at field start: invalid count at start of ".toList ++ inMarks s)
  return ⟨keys, separator, order, usage.has 's', usage.has 'u'⟩

/-- **Sorts lines.** -/
def sort (call : Call) : Effect :=
  call.byUsage sortOptions false 2 fun usage =>
    match readSorting usage with
    | .error message => call.failing message 2
    | .ok sorting =>
      let lineEnd := if usage.has 'z' then '\x00' else '\n'
      let texts := call.texts usage.operands
      let missing := texts.findSome? fun (name, text) => match text with
        | .ok _ => none
        | .error fault => some (
            (if fault == .isFolder then "read failed: ".toList else "cannot read: ".toList) ++
              name ++ ": ".toList ++ fault.message.toList)
      match missing with
      | some message => call.failing message 2
      | none =>
        let lines := texts.flatMap fun (_, text) => linesBy lineEnd (text.toOption.getD [])
        let rest := call.restBehind usage.operands
        if usage.has 'c' || usage.has 'C' then
          match sorting.disorder? 1 lines with
          | none => ⟨[], rest, 0, call.files⟩
          | some (number, line) =>
            let source := (Call.namesOrInput usage.operands).headD []
            let message := call.name ++ ": ".toList ++ source ++ [':'] ++ Octets.ofNat number
              ++ ": disorder: ".toList ++ line ++ ['\n']
            ⟨if usage.has 'C' then [] else [(.errors, message)], rest, 1, call.files⟩
        else
          let text := (sorting.sorted lines).flatMap (· ++ [lineEnd])
          match usage.value? 'o' with
          | none => ⟨[(.output, text)], rest, 0, call.files⟩
          | some name =>
            match call.files.write (Path.resolve call.folder name) text with
            | .ok files => ⟨[], rest, 0, files⟩
            | .error fault => call.failing ("open failed: ".toList ++ name ++ ": ".toList ++
                fault.message.toList) 2

/-! ## Repeated lines -/

/-- Lines in groups of equal ones: each with the part that is compared in front. -/
def groupEqual (key : Octets → Octets) : List Octets → List (List Octets)
  | [] => []
  | line :: rest =>
    match groupEqual key rest with
    | (next :: more) :: groups =>
      if key line == key next then (line :: next :: more) :: groups
      else [line] :: (next :: more) :: groups
    | groups => [line] :: groups

/-- The options of `uniq`. -/
def uniqOptions : List OptionRule :=
  [.flag 'c' "count", .flag 'd' "repeated", .flag 'D' "", ⟨'D', "all-repeated", .possible⟩,
   .valued 'f' "skip-fields", ⟨'\x02', "group", .possible⟩, .flag 'i' "ignore-case",
   .valued 's' "skip-chars", .flag 'u' "unique", .flag 'z' "zero-terminated",
   .valued 'w' "check-chars"]

/-- A line behind a number of fields, each with the blanks in front of it. -/
def behindBlankFields : Nat → Octets → Octets
  | 0, s => s
  | n + 1, s => behindBlankFields n ((s.dropWhile isBlankByte).dropWhile (!isBlankByte ·))

/-- **Leaves out repeated lines.** -/
def uniq (call : Call) : Effect :=
  call.byUsage uniqOptions false 1 fun usage =>
    let number (letter : Char) : Option Nat := (usage.value? letter).bind Octets.natural?
    let wrong := ['f', 's', 'w'].find? fun letter =>
      usage.has letter && (number letter).isNone
    match wrong, usage.operands with
    | some letter, _ =>
      let what := match letter with
        | 'f' => "invalid number of fields to skip"
        | 's' => "invalid number of bytes to skip"
        | _ => "invalid number of bytes to compare"
      call.failing ((usage.value? letter).getD [] ++ ": ".toList ++ what.toList) 1
    | none, _ :: _ :: extra :: _ => call.misused ("extra operand ".toList ++ inMarks extra) 1
    | none, names =>
      let lineEnd := if usage.has 'z' then '\x00' else '\n'
      let key (line : Octets) : Octets :=
        let s := (behindBlankFields ((number 'f').getD 0) line).drop ((number 's').getD 0)
        let s := s.take ((number 'w').getD s.length)
        if usage.has 'i' then s.map Char.toLower else s
      match call.textOf (names.headD ['-']) with
      | .error fault => call.failing (names.headD [] ++ ": ".toList ++ fault.message.toList) 1
      | .ok text =>
        let groups := groupEqual key (linesBy lineEnd text)
        let groups := groups.filter fun group =>
          if group.length = 1 then !(usage.has 'd' || usage.has 'D') else !usage.has 'u'
        let method := String.ofList ((usage.value? 'D').getD [])
        let shown (group : List Octets) : Octets :=
          if usage.has 'D' then group.flatMap (· ++ [lineEnd])
          else
            let count := if usage.has 'c' then
              Octets.padStart 7 ' ' (Octets.ofNat group.length) ++ [' '] else []
            count ++ group.headD [] ++ [lineEnd]
        let parts := groups.map shown
        let text := if usage.has 'D' && method == "prepend" then parts.flatMap (lineEnd :: ·)
          else if usage.has 'D' && method == "separate" then [lineEnd].intercalate parts
          else if usage.has '\x02' then
            [lineEnd].intercalate (groups.map fun group => group.flatMap (· ++ [lineEnd]))
          else parts.flatten
        let rest := call.restBehind (names.take 1)
        match names with
        | [_, target] =>
          match call.files.write (Path.resolve call.folder target) text with
          | .ok files => ⟨[], rest, 0, files⟩
          | .error fault => call.failing (target ++ ": ".toList ++ fault.message.toList) 1
        | _ => ⟨[(.output, text)], rest, 0, call.files⟩

/-! ## Two sorted texts -/

/-- The lines of two sorted texts in their order: those of the first only, of the second only, and
of both.  The number bounds their count. -/
def mergeLines : Nat → List Octets → List Octets → List (Nat × Octets)
  | 0, _, _ => []
  | _, [], others => others.map (1, ·)
  | _, lines, [] => lines.map (0, ·)
  | fuel + 1, a :: rest, b :: others =>
    match compareBytes a b with
    | .lt => (0, a) :: mergeLines fuel rest (b :: others)
    | .gt => (1, b) :: mergeLines fuel (a :: rest) others
    | .eq => (2, a) :: mergeLines fuel rest others

/-- **Compares sorted texts.** -/
def comm (call : Call) : Effect :=
  let options : List OptionRule :=
    [.flag '1' "", .flag '2' "", .flag '3' "", .flag '\x02' "check-order",
     .flag '\x03' "nocheck-order", .valued '\x04' "output-delimiter", .flag '\x05' "total",
     .flag 'z' "zero-terminated"]
  call.byUsage options false 1 fun usage =>
    match usage.operands with
    | [] => call.misused "missing operand".toList 1
    | [name] => call.misused ("missing operand after ".toList ++ inMarks name) 1
    | _ :: _ :: extra :: _ => call.misused ("extra operand ".toList ++ inMarks extra) 1
    | [first, second] =>
      match call.textOf first, call.textOf second with
      | .error fault, _ => call.failing (first ++ ": ".toList ++ fault.message.toList) 1
      | _, .error fault => call.failing (second ++ ": ".toList ++ fault.message.toList) 1
      | .ok a, .ok b =>
        let lineEnd := if usage.has 'z' then '\x00' else '\n'
        let mark := (usage.value? '\x04').getD ['\t']
        let a := linesBy lineEnd a
        let b := linesBy lineEnd b
        let hidden (k : Nat) : Bool := usage.has (Char.ofNat (49 + k))
        let shown := (mergeLines (a.length + b.length + 1) a b).filter (!hidden ·.1)
        let marks (k : Nat) : Octets :=
          (if 0 < k && !hidden 0 then mark else []) ++ (if 1 < k && !hidden 1 then mark else [])
        let text := shown.flatMap fun (k, line) => marks k ++ line ++ [lineEnd]
        let sorting : Sorting := ⟨[], none, .plain, false, false⟩
        let complaints := [(a, "1"), (b, "2")].filterMap fun (lines, file) =>
          if (sorting.disorder? 1 lines).isSome && !usage.has '\x03' then
            some (Channel.errors, call.name ++ ": file ".toList ++ file.toList ++
              " is not in sorted order\n".toList)
          else none
        let closing := if complaints.isEmpty then [] else
          [(Channel.errors, call.name ++ ": input is not in sorted order\n".toList)]
        ⟨(.output, text) :: complaints ++ closing, call.restBehind usage.operands,
          if complaints.isEmpty then 0 else 1, call.files⟩

end ContainerClients.Program
