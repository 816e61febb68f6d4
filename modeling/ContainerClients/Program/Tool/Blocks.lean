import ContainerClients.Program.Tool.Usage

/-!
# Blocks of bytes

`dd` copies its input, block by block, from a place on and up to a number of blocks.

* `BlockCopy` — what is to be copied, and how it is changed.
* `readBlockCopy` — reading it from operands of the form `name=value`.
* `dd` — the tool.
-/

namespace ContainerClients.Program

/-- **What is to be copied.** -/
structure BlockCopy where
  /-- the file that is read, if it is not the input -/
  source : Option Octets
  /-- the file that is written, if it is not the output -/
  target : Option Octets
  /-- how long a block is that is read -/
  inSize : Nat
  /-- how long a block is that is written -/
  outSize : Nat
  /-- how many blocks are read, if not all -/
  count : Option Nat
  /-- how many blocks are passed over in front -/
  skip : Nat
  /-- how many blocks of the target are passed over -/
  seek : Nat
  /-- how the bytes are changed -/
  changes : List Octets
  /-- nothing is said of what was done -/
  silent : Bool
deriving Repr

/-- The copy of the whole input. -/
def BlockCopy.whole : BlockCopy := ⟨none, none, 512, 512, none, 0, 0, [], false⟩

/-- What is wrong with an operand. -/
inductive OperandFault where
  /-- it is none that there is -/
  | unknown (word : Octets)
  /-- its value is no number -/
  | notANumber (value : Octets)
deriving Repr

/-- **The copy that operands ask for**, or what is wrong with one of them. -/
def readBlockCopy : BlockCopy → List Octets → Except OperandFault BlockCopy
  | copy, [] => .ok copy
  | copy, word :: rest =>
    match Text.cutFirst '=' word with
    | none => .error (.unknown word)
    | some (name, value) =>
      let number (use : Nat → BlockCopy) : Except OperandFault BlockCopy :=
        match readSize value with
        | some n => readBlockCopy (use n) rest
        | none => .error (.notANumber value)
      match String.ofList name with
      | "if" => readBlockCopy { copy with source := some value } rest
      | "of" => readBlockCopy { copy with target := some value } rest
      | "bs" =>
        if readSize value == some 0 then .error (.notANumber value)
        else number fun n => { copy with inSize := n, outSize := n }
      | "ibs" => number fun n => { copy with inSize := max n 1 }
      | "obs" => number fun n => { copy with outSize := max n 1 }
      | "count" => number fun n => { copy with count := some n }
      | "skip" | "iseek" => number fun n => { copy with skip := n }
      | "seek" | "oseek" => number fun n => { copy with seek := n }
      | "conv" => readBlockCopy { copy with changes := Text.pieces ',' value } rest
      | "status" => readBlockCopy { copy with silent := value == "none".toList } rest
      | "iflag" | "oflag" | "cbs" => readBlockCopy copy rest
      | _ => .error (.unknown word)

namespace BlockCopy

/-- There is a change of a name. -/
def hasChange (copy : BlockCopy) (name : String) : Bool := copy.changes.contains name.toList

/-- The bytes of two neighbours in the other order. -/
def swapped : Octets → Octets
  | a :: b :: rest => b :: a :: swapped rest
  | rest => rest

/-- Bytes as they are written. -/
def changed (copy : BlockCopy) (bytes : Octets) : Octets :=
  let bytes := if copy.hasChange "swab" then swapped bytes else bytes
  if copy.hasChange "ucase" then bytes.map Char.toUpper
  else if copy.hasChange "lcase" then bytes.map Char.toLower
  else bytes

/-- The bytes that are copied of a text. -/
def part (copy : BlockCopy) (text : Octets) : Octets :=
  let rest := text.drop (copy.skip * copy.inSize)
  match copy.count with
  | some count => rest.take (count * copy.inSize)
  | none => rest

/-- Whole blocks and those that are cut short. -/
def records (size length : Nat) : Octets :=
  Octets.ofNat (length / size) ++ '+' :: (if length % size = 0 then ['0'] else ['1'])

/-- What is said of a copy of so many bytes. -/
def report (copy : BlockCopy) (length : Nat) : Octets :=
  if copy.silent then []
  else
    records copy.inSize length ++ " records in\n".toList ++
      records copy.outSize length ++ " records out\n".toList ++
      Octets.ofNat length ++ (if length = 1 then " byte".toList else " bytes".toList) ++
      " copied, 0 s, Infinity B/s\n".toList

/-- A file with bytes written over it. -/
def written (copy : BlockCopy) (before bytes : Octets) : Octets :=
  let place := copy.seek * copy.outSize
  let front := before.take place ++ List.replicate (place - before.length) '\x00'
  front ++ bytes ++ (if copy.hasChange "notrunc" then before.drop (place + bytes.length) else [])

end BlockCopy

/-- **Copies bytes.** -/
def dd (call : Call) : Effect :=
  match readBlockCopy .whole call.args with
  | .error (.unknown word) =>
    call.misused ("unrecognized operand '".toList ++ word ++ ['\'']) 1
  | .error (.notANumber value) =>
    call.failing ("invalid number: '".toList ++ value ++ ['\'']) 1
  | .ok copy =>
    let text := match copy.source with
      | some name => call.textOf name
      | none => .ok call.input
    let opening (name : Octets) (fault : FileFault) : Effect :=
      call.failing ("failed to open ".toList ++ '\'' :: name ++ "': ".toList ++
        fault.message.toList) 1
    match text with
    | .error fault => opening (copy.source.getD []) fault
    | .ok text =>
      let bytes := copy.part text
      let taken := min text.length (copy.skip * copy.inSize) + bytes.length
      let rest := if copy.source.isNone then call.input.drop taken else call.input
      let report := (Channel.errors, copy.report bytes.length)
      match copy.target with
      | none => ⟨[(.output, copy.changed bytes), report], rest, 0, call.files⟩
      | some name =>
        let path := Path.resolve call.folder name
        let before := (call.files.read path).toOption.getD []
        match call.files.write path (copy.written before (copy.changed bytes)) with
        | .error fault => opening name fault
        | .ok files => ⟨[report], rest, 0, files⟩

end ContainerClients.Program
