import ContainerClients.Program.Characters
import ContainerClients.Program.Tool.Usage

/-!
# Copying

* `cat` — texts, one behind the other.
* `tee` — the input, to the output and to files.
* `tac` — lines from the last to the first.
* `rev` — lines from their ends to their fronts.
-/

namespace ContainerClients.Program

/-! ## Texts one behind the other -/

/-- How `cat` shows texts. -/
structure Showing where
  /-- lines are numbered -/
  numbers : Bool
  /-- only lines that hold anything are numbered -/
  skipsEmpty : Bool
  /-- of empty lines in a row one is left -/
  squeezes : Bool
  /-- the ends of lines are marked -/
  ends : Bool
  /-- tabs are marked -/
  tabs : Bool
  /-- bytes that cannot be seen are marked -/
  marks : Bool

namespace Showing

/-- A byte below 128 that cannot be seen, as it is marked. -/
def marked (c : Char) : Octets :=
  if c.toNat < 32 then ['^', Char.ofNat (c.toNat + 64)]
  else if c.toNat = 127 then ['^', '?']
  else [c]

/-- A byte as it is shown. -/
def byte (showing : Showing) (c : Char) : Octets :=
  if c == '\t' then (if showing.tabs then ['^', 'I'] else [c])
  else if !showing.marks || c == '\n' then [c]
  else if 128 ≤ c.toNat then 'M' :: '-' :: marked (Char.ofNat (c.toNat - 128))
  else marked c

/-- Lines as they are shown: the number of the last one, and whether it was empty. -/
def lines (showing : Showing) : Nat → Bool → List Octets → Octets
  | _, _, [] => []
  | number, wasEmpty, line :: rest =>
    let text := Octets.withoutEnd line
    let isEmpty := line == ['\n']
    if showing.squeezes && isEmpty && wasEmpty then lines showing number true rest
    else
      let counts := showing.numbers && !(showing.skipsEmpty && isEmpty)
      let number := if counts then number + 1 else number
      let front := if counts then Octets.padStart 6 ' ' (Octets.ofNat number) ++ ['\t'] else []
      let ended := line.getLast? == some '\n'
      let bare := showing.ends && !showing.marks && ended && text.getLast? == some '\r'
      let text := if bare then text.dropLast.flatMap showing.byte ++ ['^', 'M']
        else text.flatMap showing.byte
      let ending := if !ended then [] else if showing.ends then ['$', '\n'] else ['\n']
      front ++ text ++ ending ++ lines showing number isEmpty rest

end Showing

/-- The options of `cat`. -/
def catOptions : List OptionRule :=
  [.flag 'A' "show-all", .flag 'b' "number-nonblank", .flag 'e' "", .flag 'E' "show-ends",
   .flag 'n' "number", .flag 's' "squeeze-blank", .flag 't' "", .flag 'T' "show-tabs",
   .flag 'u' "", .flag 'v' "show-nonprinting"]

/-- **Copies files**, or the input where there are none. -/
def cat (call : Call) : Effect :=
  call.byUsage catOptions false 1 fun usage =>
    if usage.options.all (·.1 == 'u') then call.throughFiles usage.operands fun _ text => text
    else
      let has (letters : String) : Bool := letters.toList.any usage.has
      let showing : Showing := ⟨has "bn", has "b", has "s", has "AeE", has "AtT", has "Aetv"⟩
      call.acrossFiles usage.operands fun text => showing.lines 0 false text.endedLines

/-- **Copies the input** to the output and to files. -/
def tee (call : Call) : Effect :=
  call.byUsage [.flag 'a' "append", .flag 'i' "ignore-interrupts", .flag 'p' ""] false 1
    fun usage =>
      let (files, complaints) := usage.operands.foldl (fun (files, complaints) name =>
        let path := Path.resolve call.folder name
        let before := if usage.has 'a' then (files.read path).toOption.getD [] else []
        match files.write path (before ++ call.input) with
        | .ok files => (files, complaints)
        | .error fault => (files, complaints ++ call.fileComplaint name fault))
        (call.files, ([] : Octets))
      ⟨[(.errors, complaints), (.output, call.input)], [], if complaints.isEmpty then 0 else 1,
        files⟩

/-! ## Turning round -/

/-- The parts of a text that a word ends, or starts. -/
def partsBy (word : Octets) (inFront : Bool) : Nat → Octets → Octets → List Octets
  | 0, _, s => [s]
  | _, current, [] => if current.isEmpty then [] else [current.reverse]
  | fuel + 1, current, c :: rest =>
    if !word.isEmpty && word.isPrefixOf (c :: rest) then
      let behind := (c :: rest).drop word.length
      if inFront then
        current.reverse :: partsBy word inFront fuel word.reverse behind
      else (current.reverse ++ word) :: partsBy word inFront fuel [] behind
    else partsBy word inFront fuel (c :: current) rest

/-- **Lines from the last to the first.** -/
def tac (call : Call) : Effect :=
  call.byUsage [.flag 'b' "before", .flag 'r' "regex", .valued 's' "separator"] false 1
    fun usage =>
      let word := (usage.value? 's').getD ['\n']
      call.throughFiles usage.operands fun _ text =>
        (partsBy word (usage.has 'b') (text.length + 1) [] text).reverse.flatten

/-- A line from its end to its front. -/
def turnedLine (line : Octets) : Octets :=
  Octets.ofCharacters (Octets.characters line).reverse

/-- **Lines from their ends to their fronts.** -/
def rev (call : Call) : Effect :=
  call.byUsage [.flag '0' "zero"] false 1 fun usage =>
    let ending := if usage.has '0' then '\x00' else '\n'
    call.throughFiles usage.operands fun _ text =>
      [ending].intercalate ((Text.pieces ending text).map turnedLine)

end ContainerClients.Program
