import ContainerClients.Program.Escapes
import ContainerClients.Program.Pattern
import ContainerClients.Program.Tool.Usage

/-!
# Replacing characters

`tr` replaces, deletes or squeezes the bytes of sets.

* `SetPart` — a part of a set as it is written.
* `readSetParts` — the parts of a set.
* `Replacing` — what becomes of each byte.
* `tr` — the tool.
-/

namespace ContainerClients.Program

/-- **A part of a set.** -/
inductive SetPart where
  /-- one byte -/
  | one (c : Char)
  /-- the bytes between two -/
  | range (low high : Char)
  /-- a class with a name -/
  | named (name : String) (bytes : Octets)
  /-- one byte a number of times, or as often as is needed -/
  | repeated (c : Char) (count : Option Nat)
deriving DecidableEq, Repr

/-- The bytes of ranges. -/
def rangeBytes (ranges : List (Char × Char)) : Octets :=
  ranges.flatMap fun (low, high) => charRange low.toNat high.toNat

/-- One byte of a set, by an escape or as itself. -/
def readSetByte : Octets → Option (Char × Octets)
  | [] => none
  | '\\' :: rest =>
    match readEscape ⟨false, false, false, false, false, false⟩ rest with
    | (.char c, rest) => some (c, rest)
    | _ =>
      match rest with
      | c :: rest => some (c, rest)
      | [] => some ('\\', [])
  | c :: rest => some (c, rest)

/-- A part of a set that is written in brackets, behind the first one. -/
def readBracketed (s : Octets) : Option (Except Octets (SetPart × Octets)) :=
  match s with
  | ':' :: rest =>
    let name := rest.takeWhile Char.isAlpha
    match rest.drop name.length with
    | ':' :: ']' :: behind =>
      match classRanges.find? (·.1.toList == name) with
      | some (word, ranges) => some (.ok (.named word (rangeBytes ranges), behind))
      | none => some (.error ("invalid character class ".toList ++ inMarks name))
    | _ => none
  | '=' :: c :: '=' :: ']' :: behind => some (.ok (.one c, behind))
  | _ =>
    match readSetByte s with
    | some (c, '*' :: rest) =>
      let digits := rest.takeWhile Char.isDigit
      match rest.drop digits.length with
      | ']' :: behind =>
        let base := if digits.head? == some '0' then 8 else 10
        let (count, _) := takeDigits base digits.length 0 digits
        some (.ok (.repeated c (if count = 0 then none else some count), behind))
      | _ => none
    | _ => none

/-- **The parts of a set**, or what is wrong; the number bounds their count. -/
def readSetParts : Nat → Octets → Except Octets (List SetPart)
  | 0, _ => .ok []
  | _, [] => .ok []
  | fuel + 1, c :: rest =>
    let bracketed := if c == '[' then readBracketed rest else none
    match bracketed with
    | some (.error message) => .error message
    | some (.ok (part, rest)) => (readSetParts fuel rest).map (part :: ·)
    | none =>
      match readSetByte (c :: rest) with
      | none => .ok []
      | some (low, '-' :: d :: more) =>
        match readSetByte (d :: more) with
        | none => .ok [.one low, .one '-']
        | some (high, rest) =>
          if high < low then
            .error ("range-endpoints of '".toList ++ [low, '-', high] ++
              "' are in reverse collating sequence order".toList)
          else (readSetParts fuel rest).map (.range low high :: ·)
      | some (c, rest) => (readSetParts fuel rest).map (.one c :: ·)

/-- A set as a list of parts. -/
def readSetText (s : Octets) : Except Octets (List SetPart) := readSetParts (s.length + 1) s

namespace SetPart

/-- The bytes of a part; one that is repeated as often as is needed has none. -/
def bytes : SetPart → Octets
  | .one c => [c]
  | .range low high => charRange low.toNat high.toNat
  | .named _ bytes => bytes
  | .repeated c count => List.replicate (count.getD 0) c

/-- Whether a part is the class of capital letters or that of small ones. -/
def isCase : SetPart → Bool
  | .named name _ => name == "upper" || name == "lower"
  | _ => false

/-- Whether a part is a class. -/
def isNamed : SetPart → Bool
  | .named .. => true
  | _ => false

/-- The bytes of parts, those that are repeated as often as is needed filling up to a length. -/
def allBytes (length : Nat) (parts : List SetPart) : Octets :=
  let known := Octets.total (parts.map (·.bytes.length))
  parts.flatMap fun part => match part with
    | .repeated c none => List.replicate (length - known) c
    | part => part.bytes

/-- Where the classes of letters start among the bytes of parts. -/
def casePlaces : Nat → List SetPart → List Nat
  | _, [] => []
  | place, part :: rest =>
    (if part.isCase then [place] else []) ++ casePlaces (place + part.bytes.length) rest

end SetPart

/-- **What becomes of each byte.** -/
structure Replacing where
  /-- the bytes that are deleted -/
  deleted : Octets
  /-- the bytes that are replaced, with what takes their places -/
  pairs : List (Char × Char)
  /-- the bytes that are squeezed -/
  squeezed : Octets

/-- A list of bytes as a table of all bytes. -/
def byteTable (bytes : Octets) : Array Bool :=
  bytes.foldl (fun table c => table.setIfInBounds c.toNat true) (Array.replicate 256 false)

namespace Replacing

/-- A text with one of equal neighbours left of those that are in a table; the first is the byte in
front. -/
def squeeze (table : Array Bool) : Option Char → Octets → Octets
  | _, [] => []
  | before, c :: rest =>
    if before == some c && table.getD c.toNat false then squeeze table before rest
    else c :: squeeze table (some c) rest

/-- **What becomes of a text.** -/
def apply (replacing : Replacing) (text : Octets) : Octets :=
  let deleted := byteTable replacing.deleted
  let table := replacing.pairs.foldl (fun (table : Array Char) (c, d) =>
    table.setIfInBounds c.toNat d) ((charRange 0 255).toArray)
  let kept := if replacing.deleted.isEmpty then text
    else text.filter fun c => !deleted.getD c.toNat false
  let changed := if replacing.pairs.isEmpty then kept else kept.map fun c => table.getD c.toNat c
  if replacing.squeezed.isEmpty then changed
  else squeeze (byteTable replacing.squeezed) none changed

end Replacing

/-- The pairs of bytes that two sets make, or what is wrong. -/
def replacingPairs (complement truncate : Bool) (first second : List SetPart) :
    Except Octets (List (Char × Char)) :=
  let bytes := SetPart.allBytes 0 first
  let bytes := if complement then (charRange 0 255).filter (!bytes.contains ·) else bytes
  let others := SetPart.allBytes bytes.length second
  let strange := second.any fun part => part.isNamed && !part.isCase
  let misplaced := second.any (·.isCase) &&
    (complement || !(SetPart.casePlaces 0 second).all (SetPart.casePlaces 0 first).contains)
  if strange then
    .error ("when translating, the only character classes that may appear in\n" ++
      "string2 are 'upper' and 'lower'").toList
  else if misplaced then .error "misaligned [:upper:] and/or [:lower:] construct".toList
  else if truncate then .ok (bytes.zip others)
  else match others.getLast? with
    | none =>
      if bytes.isEmpty then .ok []
      else .error "when not truncating set1, string2 must be non-empty".toList
    | some last =>
      .ok (bytes.zip (others ++ List.replicate (bytes.length - others.length) last))

/-- What a call of `tr` does, or what is wrong. -/
def readReplacing (usage : Usage) : Except Octets Replacing := do
  let complement := usage.has 'c' || usage.has 'C'
  let sets ← usage.operands.mapM readSetText
  let own (parts : List SetPart) : Octets :=
    let bytes := SetPart.allBytes 0 parts
    if complement then (charRange 0 255).filter (!bytes.contains ·) else bytes
  match usage.has 'd', usage.has 's', sets with
  | true, false, first :: _ => return ⟨own first, [], []⟩
  | true, true, first :: second :: _ => return ⟨own first, [], SetPart.allBytes 0 second⟩
  | false, true, [first] => return ⟨[], [], own first⟩
  | false, squeezes, first :: second :: _ =>
    let pairs ← replacingPairs complement (usage.has 't') first second
    let length := (own first).length
    return ⟨[], pairs, if squeezes then SetPart.allBytes length second else []⟩
  | _, _, _ => return ⟨[], [], []⟩

/-- The options of `tr`. -/
def trOptions : List OptionRule :=
  [.flag 'c' "complement", .flag 'C' "", .flag 'd' "delete", .flag 's' "squeeze-repeats",
   .flag 't' "truncate-set1"]

/-- A call of `tr` with a number of operands that is wrong, if it is. -/
def wrongOperands (usage : Usage) : Option Octets :=
  let deletes := usage.has 'd'
  let squeezes := usage.has 's'
  let least := if deletes = squeezes then 2 else 1
  let most := if deletes && !squeezes then 1 else 2
  match usage.operands with
  | [] => some "missing operand".toList
  | operands =>
    if operands.length < least then
      some ("missing operand after ".toList ++ inMarks (operands.getLastD []) ++
        (if squeezes then "\nTwo strings must be given when both deleting and squeezing repeats."
          else "\nTwo strings must be given when translating.").toList)
    else if most < operands.length then
      some ("extra operand ".toList ++ inMarks (operands.getD most []) ++
        (if operands.length = 2 then
          "\nOnly one string may be given when deleting without squeezing repeats.".toList else []))
    else none

/-- **Replaces, deletes or squeezes** bytes. -/
def tr (call : Call) : Effect :=
  call.byUsage trOptions true 1 fun usage =>
    match wrongOperands usage with
    | some message => call.misused message 1
    | none =>
      match readReplacing usage with
      | .error message => call.failing message 1
      | .ok replacing => call.consuming (replacing.apply call.input) 0

end ContainerClients.Program
