import ContainerClients.Program.Printf
import ContainerClients.Program.Tool.Usage

/-!
# Bytes in other forms

* `od` — bytes as numbers or named characters, line by line.
* `base64` — bytes as letters, and back.
-/

namespace ContainerClients.Program

/-! ## Numbers and names -/

/-- The form of bytes in a dump. -/
inductive DumpForm where
  /-- named characters -/
  | names
  /-- characters and escapes -/
  | escapes
  /-- numbers of so many bytes in a base, with a sign or not -/
  | numbers (bytes base : Nat) (signed : Bool)

namespace DumpForm

/-- How many bytes are taken together. -/
def size : DumpForm → Nat
  | .numbers bytes _ _ => max bytes 1
  | _ => 1

/-- How wide a field is. -/
def width : DumpForm → Nat
  | .names | .escapes => 3
  | .numbers bytes base signed =>
    let most := Nat.pow 256 bytes
    if signed then (Octets.ofNat (most / 2)).length + 1
    else (Directive.baseDigits base false 64 (most - 1)).length

/-- The names of the characters that cannot be seen. -/
def characterNames : List String :=
  ["nul", "soh", "stx", "etx", "eot", "enq", "ack", "bel", "bs", "ht", "nl", "vt", "ff", "cr",
   "so", "si", "dle", "dc1", "dc2", "dc3", "dc4", "nak", "syn", "etb", "can", "em", "sub", "esc",
   "fs", "gs", "rs", "us", "sp"]

/-- One field, from the bytes that are taken together. -/
def field (form : DumpForm) (bytes : Octets) : Octets :=
  let n := (bytes.headD '\x00').toNat
  match form with
  | .names =>
    let n := n % 128
    match characterNames[n]? with
    | some name => name.toList
    | none => if n = 127 then "del".toList else [Char.ofNat n]
  | .escapes =>
    let octal := Octets.padStart 3 '0' (Directive.baseDigits 8 false 64 n)
    match [(0, "\\0"), (7, "\\a"), (8, "\\b"), (9, "\\t"), (10, "\\n"), (11, "\\v"), (12, "\\f"),
      (13, "\\r")].lookup n with
    | some s => s.toList
    | none => if 32 ≤ n && n < 127 then [Char.ofNat n] else octal
  | .numbers size base signed =>
    let value := bytes.reverse.foldl (fun n c => 256 * n + c.toNat) 0
    let most := Nat.pow 256 size
    if signed then
      if most ≤ 2 * value then '-' :: Octets.ofNat (most - value) else Octets.ofNat value
    else
      let digits := Directive.baseDigits base false 64 value
      if base = 10 then digits else Octets.padStart form.width '0' digits

end DumpForm

/-- How a dump is laid out. -/
structure Dumping where
  /-- the forms, one line for each -/
  forms : List (DumpForm × Bool)
  /-- the base of the places, if they are shown -/
  placeBase : Option Nat
  /-- how many bytes there are on a line -/
  width : Nat
  /-- repeated lines are shown -/
  showsAll : Bool

namespace Dumping

/-- How wide the fields of a line are together. -/
def blockWidth (dumping : Dumping) : Nat :=
  (dumping.forms.map fun (form, _) => dumping.width / form.size * (form.width + 1)).foldl max 0

/-- A place as it is shown. -/
def place (dumping : Dumping) (n : Nat) : Octets :=
  match dumping.placeBase with
  | none => []
  | some base =>
    Octets.padStart (if base = 16 then 6 else 7) '0' (Directive.baseDigits base false 64 n)

/-- The lines of a block of bytes. -/
def block (dumping : Dumping) (n : Nat) (bytes : Octets) : Octets :=
  let rows := dumping.forms.zipIdx.map fun ((form, shown), k) =>
    let count := dumping.width / form.size
    let wide := dumping.blockWidth / max count 1
    let fields := (Octets.groups form.size (bytes.length + 1) bytes).map fun bytes =>
      Octets.padStart wide ' ' (form.field bytes)
    let front := if k = 0 then dumping.place n
      else List.replicate (dumping.place n).length ' '
    let text := if shown then
        List.replicate ((count - fields.length) * wide) ' ' ++ "  >".toList ++
          (bytes.map fun c => if 32 ≤ c.toNat && c.toNat < 127 then c else '.') ++ ['<']
      else []
    front ++ fields.flatten ++ text ++ ['\n']
  rows.flatten

/-- The lines of blocks: the block in front, and whether it was left out. -/
def blocks (dumping : Dumping) : Nat → Option Octets → Bool → List Octets → Octets
  | _, _, _, [] => []
  | n, before, skipped, bytes :: rest =>
    if before == some bytes && !dumping.showsAll && bytes.length = dumping.width &&
      !rest.isEmpty then
      (if skipped then [] else ['*', '\n']) ++ blocks dumping (n + bytes.length) before true rest
    else if before == some bytes && !dumping.showsAll && bytes.length = dumping.width then
      if skipped then [] else ['*', '\n']
    else dumping.block n bytes ++ blocks dumping (n + bytes.length) (some bytes) false rest

/-- **A dump** of bytes that start at a place. -/
def text (dumping : Dumping) (start : Nat) (bytes : Octets) : Octets :=
  let ending := match dumping.placeBase with
    | none => []
    | some _ => dumping.place (start + bytes.length) ++ ['\n']
  dumping.blocks start none false (Octets.groups dumping.width (bytes.length + 1) bytes) ++ ending

end Dumping

/-- The forms that are written behind `-t`; the number bounds their count. -/
def readForms : Nat → Octets → Option (List (DumpForm × Bool))
  | 0, _ => none
  | _, [] => some []
  | fuel + 1, c :: rest =>
    let (size, rest) : Option Nat × Octets :=
      match rest with
      | 'C' :: rest => (some 1, rest)
      | 'S' :: rest => (some 2, rest)
      | 'I' :: rest => (some 4, rest)
      | 'L' :: rest => (some 8, rest)
      | rest =>
        let digits := rest.takeWhile Char.isDigit
        (Octets.natural? digits, rest.drop digits.length)
    let size := size.getD 4
    let form : Option DumpForm := match c with
      | 'a' => some .names
      | 'c' => some .escapes
      | 'd' => some (.numbers size 10 true)
      | 'u' => some (.numbers size 10 false)
      | 'o' => some (.numbers size 8 false)
      | 'x' => some (.numbers size 16 false)
      | _ => none
    let (shown, rest) := match rest with
      | 'z' :: rest => (true, rest)
      | rest => (false, rest)
    if size != 1 && size != 2 && size != 4 && size != 8 then none
    else form.bind fun form => (readForms fuel rest).map ((form, shown) :: ·)

/-- The options of `od`. -/
def odOptions : List OptionRule :=
  [.valued 'A' "address-radix", .valued 'j' "skip-bytes", .valued 'N' "read-bytes",
   .valued 't' "format", .flag 'v' "output-duplicates", ⟨'w', "width", .possible⟩, .flag 'a' "",
   .flag 'b' "", .flag 'c' "", .flag 'd' "", .flag 'i' "", .flag 'l' "", .flag 'o' "",
   .flag 's' "", .flag 'x' ""]

/-- The form that an option asks for by itself. -/
def plainForm? (letter : Char) : Option String :=
  [('a', "a"), ('b', "o1"), ('c', "c"), ('d', "u2"), ('i', "d4"), ('l', "d8"), ('o', "o2"),
   ('s', "d2"), ('x', "x2")].lookup letter

/-- **Bytes as numbers or characters.** -/
def od (call : Call) : Effect :=
  call.byUsage odOptions false 1 fun usage =>
    let words := usage.options.filterMap fun (letter, value) =>
      if letter == 't' then some value else (plainForm? letter).map String.toList
    let forms := words.mapM fun s => readForms (s.length + 1) s
    match forms with
    | none => call.failing "invalid type string".toList 1
    | some forms =>
      let forms := if forms.isEmpty then [(DumpForm.numbers 2 8 false, false)] else forms.flatten
      let placeBase := match usage.value? 'A' with
        | some ('d' :: _) => some 10
        | some ('x' :: _) => some 16
        | some ('n' :: _) => none
        | _ => some 8
      let number (letter : Char) : Option Nat := (usage.value? letter).bind readSize
      let width := if usage.has 'w' then (number 'w').getD 32 else 16
      let dumping : Dumping := ⟨forms, placeBase, max width 1, usage.has 'v'⟩
      let skip := (number 'j').getD 0
      call.acrossFiles usage.operands fun text =>
        let bytes := text.drop skip
        dumping.text skip (bytes.take ((number 'N').getD bytes.length))

/-! ## Letters -/

/-- The letters, by their numbers. -/
def base64Letters : List Char :=
  "ABCDEFGHIJKLMNOPQRSTUVWXYZabcdefghijklmnopqrstuvwxyz0123456789+/".toList

/-- The letter of a number. -/
def base64Letter (n : Nat) : Char := (base64Letters[n % 64]?).getD '='

/-- **Bytes as letters**, three of them as four. -/
def encodeBase64 : Octets → Octets
  | a :: b :: c :: rest =>
    let n := (a.toNat * 256 + b.toNat) * 256 + c.toNat
    base64Letter (n / 262144) :: base64Letter (n / 4096) :: base64Letter (n / 64) ::
      base64Letter n :: encodeBase64 rest
  | [a, b] =>
    let n := (a.toNat * 256 + b.toNat) * 256
    [base64Letter (n / 262144), base64Letter (n / 4096), base64Letter (n / 64), '=']
  | [a] =>
    let n := a.toNat * 65536
    [base64Letter (n / 262144), base64Letter (n / 4096), '=', '=']
  | [] => []

/-- The bytes of up to four letters, and whether they are four that belong together. -/
def decodeLetters (letters : Octets) : Octets × Bool :=
  let number (k : Nat) : Option Nat := (letters[k]?).bind base64Letters.idxOf?
  let isPad (k : Nat) : Bool := letters[k]? == some '='
  match number 0, number 1 with
  | some a, some b =>
    let first := Char.ofNat (4 * a + b / 16)
    match number 2 with
    | none => ([first], isPad 2 && isPad 3)
    | some c =>
      let second := Char.ofNat (b % 16 * 16 + c / 4)
      match number 3 with
      | none => ([first, second], isPad 3)
      | some d => ([first, second, Char.ofNat (c % 4 * 64 + d)], true)
  | _, _ => ([], letters.isEmpty)

/-- **The bytes of letters**, and whether all of them could be read. -/
def decodeBase64 : Octets → Octets × Bool
  | a :: b :: c :: d :: rest =>
    let (bytes, whole) := decodeLetters [a, b, c, d]
    if whole then
      let (others, whole) := decodeBase64 rest
      (bytes ++ others, whole)
    else (bytes, false)
  | rest => decodeLetters rest

/-- Lines of so many characters. -/
def wrapLetters (width : Nat) (s : Octets) : Octets :=
  if width = 0 then s
  else (Octets.groups width (s.length + 1) s).flatMap (· ++ ['\n'])

/-- **Bytes as letters, or back.** -/
def base64 (call : Call) : Effect :=
  call.byUsage [.flag 'd' "decode", .flag 'i' "ignore-garbage", .valued 'w' "wrap"] false 1
    fun usage =>
      match call.textOf (usage.operands.headD ['-']) with
      | .error fault =>
        call.failing (usage.operands.headD [] ++ ": ".toList ++ fault.message.toList) 1
      | .ok text =>
        let rest := call.restBehind usage.operands
        if usage.has 'd' then
          let letters := text.filter (· != '\n')
          let letters := if usage.has 'i' then
              letters.filter fun c => c == '=' || base64Letters.contains c
            else letters
          let (bytes, whole) := decodeBase64 letters
          let complaint := if whole then [] else
            [(Channel.errors, call.name ++ ": invalid input\n".toList)]
          ⟨(.output, bytes) :: complaint, rest, if whole then 0 else 1, call.files⟩
        else
          let width := ((usage.value? 'w').bind Octets.natural?).getD 76
          ⟨[(.output, wrapLetters width (encodeBase64 text))], rest, 0, call.files⟩

end ContainerClients.Program
