import ContainerClients.Program.Characters
import ContainerClients.Program.Tool.Usage

/-!
# Counting

* `Counts` — the numbers of lines, words, characters and bytes of a text.
* `wc` — the tool that shows them.
-/

namespace ContainerClients.Program

/-- **The numbers that a text has.** -/
structure Counts where
  /-- the number of line ends -/
  lines : Nat
  /-- the number of words -/
  words : Nat
  /-- the number of characters -/
  characters : Nat
  /-- the number of bytes -/
  bytes : Nat
  /-- the width of the widest line -/
  width : Nat

namespace Counts

/-- No text. -/
def zero : Counts := ⟨0, 0, 0, 0, 0⟩

/-- The numbers of two texts together. -/
def add (a b : Counts) : Counts :=
  ⟨a.lines + b.lines, a.words + b.words, a.characters + b.characters, a.bytes + b.bytes,
    max a.width b.width⟩

/-- A character separates words. -/
def separates (c : Char) : Bool :=
  c == ' ' || ('\t' ≤ c && c ≤ '\r') || [0x1680, 0x2028, 0x2029, 0x205F, 0x3000].contains c.toNat ||
    (0x2000 ≤ c.toNat && c.toNat ≤ 0x200A && c.toNat ≠ 0x2007)

/-- A character cannot be seen, so that it makes no word. -/
def isHidden (c : Char) : Bool :=
  c.toNat < 32 || (127 ≤ c.toNat && c.toNat < 160) || isStray c

/-- The number of words, and whether the last character is in one. -/
def countWords (s : List Char) : Nat :=
  (s.foldl (fun (count, inWord) c =>
    if separates c then (count, false)
    else if isHidden c then (count, inWord)
    else (if inWord then count else count + 1, true)) ((0 : Nat), false)).1

/-- How wide a line is. -/
def lineWidth (line : List Char) : Nat :=
  let (most, last) := line.foldl (fun (most, width) c =>
    if c == '\t' then (most, width + 8 - width % 8)
    else if c == '\r' || c == '\x0c' then (max most width, 0)
    else if isHidden c then (most, width)
    else (most, width + 1)) ((0 : Nat), (0 : Nat))
  max most last

/-- **The numbers of a text.** -/
def ofText (text : Octets) : Counts :=
  let s := Octets.characters text
  { lines := text.count '\n'
    words := countWords s
    characters := s.countP (!isStray ·)
    bytes := text.length
    width := ((Text.pieces '\n' s).map lineWidth).foldl max 0 }

/-- The numbers that are wanted, in their order. -/
def wanted (counts : Counts) (letters : Char → Bool) : List Nat :=
  (if letters 'l' then [counts.lines] else []) ++ (if letters 'w' then [counts.words] else []) ++
    (if letters 'm' then [counts.characters] else []) ++
    (if letters 'c' then [counts.bytes] else []) ++ (if letters 'L' then [counts.width] else [])

end Counts

/-- The options of `wc`. -/
def wcOptions : List OptionRule :=
  [.flag 'c' "bytes", .flag 'm' "chars", .flag 'l' "lines", .flag 'w' "words",
   .flag 'L' "max-line-length", .valued '\x02' "files0-from", .valued '\x03' "total"]

/-- **Counts** lines, words and bytes. -/
def wc (call : Call) : Effect :=
  call.byUsage wcOptions false 1 fun usage =>
    let plain := !usage.options.any fun option => "cmlwL".toList.contains option.1
    let letters (c : Char) : Bool := if plain then "lwc".toList.contains c else usage.has c
    let columns := ("lwmcL".toList.filter letters).length
    let names := Call.namesOrInput usage.operands
    let texts := call.texts usage.operands
    let isStream (name : Octets) : Bool := name == ['-'] && !call.seekable
    let sizes := Octets.total (texts.map fun (name, text) => match text with
      | .ok text => if isStream name then 0 else text.length
      | .error _ => 0)
    let width :=
      if names.length = 1 && columns = 1 then 1
      else max (Octets.ofNat sizes).length (if names.any isStream then 7 else 1)
    let row (counts : Counts) (name : Octets) : Octets :=
      [' '].intercalate ((counts.wanted letters).map fun n =>
        Octets.padStart width ' ' (Octets.ofNat n)) ++
        (if name.isEmpty then [] else ' ' :: name) ++ ['\n']
    let shown := texts.map fun (name, text) => match text with
      | .ok text => ((Channel.output,
          row (.ofText text) (if usage.operands.isEmpty then [] else name)), true)
      | .error fault => ((Channel.errors, call.fileComplaint name fault), false)
    let total := (texts.map fun (_, text) => Counts.ofText (text.toOption.getD [])).foldl
      Counts.add .zero
    let last := if 1 < names.length then [(Channel.output, row total "total".toList)] else []
    ⟨shown.map (·.1) ++ last, call.restBehind usage.operands,
      if shown.all (·.2) then 0 else 1, call.files⟩

end ContainerClients.Program
