import ContainerClients.Program.Shell.Arithmetic

/-!
# Conditions

The command `test`, which is written `[ … ]` too, decides a condition on texts, numbers and files.

* `ConditionSign` — the signs of conditions.
* `Act.anyOf`, `Act.allOf`, `Act.denied`, `Act.single` — the grammar: `-o` binds weakest, then
  `-a`, then `!`.
* `Act.condition` — the condition that the arguments of the command are.

Each function of the grammar is given the arguments from where it starts, and gives back those
from the last one that it used.
-/

namespace ContainerClients.Program

/-- How a sign of a condition is used. -/
inductive ConditionSign where
  /-- in front of a text -/
  | unary
  /-- between two texts -/
  | binary
  /-- `!` -/
  | denial
  /-- `-a` -/
  | allOf
  /-- `-o` -/
  | anyOf
  /-- `(` -/
  | opening
  /-- `)` -/
  | closing
deriving DecidableEq, Repr

/-- The use of a sign. -/
def conditionSign? (s : Octets) : Option ConditionSign :=
  let s := String.ofList s
  if ["-r", "-w", "-x", "-e", "-f", "-d", "-c", "-b", "-p", "-u", "-g", "-k", "-s", "-t", "-z",
      "-n", "-h", "-L", "-O", "-G", "-S"].contains s then some .unary
  else if ["=", "!=", "<", ">", "-eq", "-ne", "-ge", "-gt", "-le", "-lt", "-nt", "-ot",
      "-ef"].contains s then some .binary
  else match s with
    | "!" => some .denial
    | "-a" => some .allOf
    | "-o" => some .anyOf
    | "(" => some .opening
    | ")" => some .closing
    | _ => none

/-- What the first of some arguments is: a sign, a text, or nothing. -/
inductive ConditionToken where
  /-- a sign -/
  | sign (sign : ConditionSign)
  /-- a text -/
  | text
  /-- nothing -/
  | finish
deriving DecidableEq, Repr

/-- What the first of some arguments is.  A sign that has nothing to act on is a text. -/
def conditionToken : List Octets → ConditionToken
  | [] => .finish
  | s :: rest =>
    match conditionSign? s with
    | none => .text
    | some .opening => if rest.isEmpty then .text else .sign .opening
    | some .unary =>
      match rest with
      | [] => .text
      | [_] => .sign .unary
      | next :: _ => if conditionSign? next == some .binary then .text else .sign .unary
    | some sign => .sign sign

namespace Act

/-- A mistake in a condition. -/
def failCondition {α : Type} (about : Option Octets) (message : String) : Act α :=
  fail ((about.map (· ++ ": ".toList)).getD [] ++ message.toList)

/-- The number that a text denotes. -/
def wholeNumber (s : Octets) : Act Int :=
  match wholeNumber? false s with
  | some n => return n
  | none => failNumber s

/-- A condition on a file or a text. -/
def unaryCondition (sign s : Octets) : Act Bool := do
  let shell ← get
  let path := Path.resolve shell.folder s
  let node := if s.isEmpty then none else shell.machine.files.node? path
  match String.ofList sign with
  | "-z" => return s.isEmpty
  | "-n" => return !s.isEmpty
  | "-t" =>
    discard (wholeNumber s)
    return false
  | "-e" | "-r" | "-w" | "-O" | "-G" => return node.isSome
  | "-d" => return node == some .folder
  | "-c" => return node == some .null
  | "-f" => return match node with
    | some (.file ..) | some .program => true
    | _ => false
  | "-x" => return node == some .folder || shell.machine.files.isRunnable path
  | "-s" => return match node with
    | some (.file content _) => !content.isEmpty
    | some .null | none => false
    | some _ => true
  | _ => return false

/-- A condition on two texts. -/
def binaryCondition (a sign b : Octets) : Act Bool := do
  let numbers (holds : Int → Int → Bool) : Act Bool := do
    let m ← wholeNumber a
    return holds m (← wholeNumber b)
  match String.ofList sign with
  | "=" => return a == b
  | "!=" => return a != b
  | "<" => return a != b && Octets.le a b
  | ">" => return a != b && Octets.le b a
  | "-eq" => numbers (· == ·)
  | "-ne" => numbers (· != ·)
  | "-lt" => numbers (· < ·)
  | "-le" => numbers (· ≤ ·)
  | "-gt" => numbers (· > ·)
  | "-ge" => numbers (· ≥ ·)
  | "-ef" =>
    let shell ← get
    let path := Path.resolve shell.folder a
    return path == Path.resolve shell.folder b && (shell.machine.files.node? path).isSome
  | _ => return false

mutual

/-- Conditions joined by `-o`; the number bounds how deep they go. -/
def anyOf : Nat → ConditionToken → List Octets → Act (Bool × List Octets)
  | 0, _, args => return (false, args)
  | fuel + 1, token, args => do
    let (holds, args) ← allOf fuel token args
    if conditionToken args.tail = .sign .anyOf then
      let args := args.drop 2
      let (other, args) ← anyOf fuel (conditionToken args) args
      return (holds || other, args)
    else return (holds, args)

/-- Conditions joined by `-a`. -/
def allOf : Nat → ConditionToken → List Octets → Act (Bool × List Octets)
  | 0, _, args => return (false, args)
  | fuel + 1, token, args => do
    let (holds, args) ← denied fuel token args
    if conditionToken args.tail = .sign .allOf then
      let args := args.drop 2
      let (other, args) ← allOf fuel (conditionToken args) args
      return (holds && other, args)
    else return (holds, args)

/-- A condition with any number of `!` in front. -/
def denied : Nat → ConditionToken → List Octets → Act (Bool × List Octets)
  | 0, _, args => return (false, args)
  | fuel + 1, token, args => do
    if token = .sign .denial then
      let token := conditionToken args.tail
      let (holds, args) ← denied fuel token (if token = .finish then args else args.tail)
      return (!holds, args)
    else single fuel token args

/-- A single condition, or one in parentheses. -/
def single : Nat → ConditionToken → List Octets → Act (Bool × List Octets)
  | 0, _, args => return (false, args)
  | fuel + 1, token, args => do
    match token, args with
    | .finish, _ => return (false, args)
    | .sign .opening, _ =>
      let inside := args.tail
      if conditionToken inside = .sign .closing then return (false, inside)
      let (holds, args) ← anyOf fuel (conditionToken inside) inside
      if conditionToken args.tail = .sign .closing then return (holds, args.tail)
      else failCondition none "closing paren expected"
    | .sign .unary, sign :: rest =>
      match rest with
      | [] => failCondition (some sign) "argument expected"
      | s :: _ => return (← unaryCondition sign s, rest)
    | _, a :: rest =>
      if conditionToken rest = .sign .binary then
        match rest with
        | sign :: b :: others => return (← binaryCondition a sign b, b :: others)
        | sign :: _ => failCondition (some sign) "argument expected"
        | [] => return (!a.isEmpty, args)
      else return (!a.isEmpty, args)
    | _, [] => return (false, args)

end

/-- **The condition that arguments are.**  Three of them with a sign in the middle are taken as
they stand, and parentheses around three or four are left out first. -/
def condition (args : List Octets) : Act Bool := do
  let unwrapped :=
    if (args.length = 3 || args.length = 4) && args.head? == some ['('] &&
      args.getLast? == some [')'] then args.tail.dropLast else args
  let (holds, used) ←
    match args with
    | [] => pure (false, [])
    | [_, sign, _] =>
      if conditionSign? sign == some .binary then anyOf (8 * args.length + 8) .text args
      else run unwrapped
    | _ => run unwrapped
  match used with
  | s :: _ :: _ => failCondition (some s) "unexpected operator"
  | _ => return holds
where
  /-- The condition from its first argument. -/
  run (args : List Octets) : Act (Bool × List Octets) :=
    anyOf (8 * args.length + 8) (conditionToken args) args

end Act

end ContainerClients.Program
