import ContainerClients.Program.Regex.Reader
import ContainerClients.Program.Tool.Usage

/-!
# Expressions of words

`expr` works out an expression that is given word by word.

* `ExprFault` — what is wrong with an expression.
* `readExpression` — the value of an expression, by the ranks of its operators.
* `expr` — the tool.
-/

namespace ContainerClients.Program

/-- **What is wrong with an expression.** -/
inductive ExprFault where
  /-- an operator without what follows it -/
  | missing (word : Octets)
  /-- a word that does not belong there -/
  | unexpected (word : Octets)
  /-- a bracket that is not closed behind a word -/
  | openBracket (word : Octets)
  /-- a text where a number is needed -/
  | noInteger
  /-- a division by zero -/
  | divisionByZero
  /-- a regular expression that is wrong -/
  | regex (fault : RegexFault)

/-- How `expr` speaks of a fault. -/
def ExprFault.message : ExprFault → Octets
  | .missing word => "syntax error: missing argument after ".toList ++ inMarks word
  | .unexpected word =>
    if word == [')'] then "syntax error: unexpected ')'".toList
    else "syntax error: unexpected argument ".toList ++ inMarks word
  | .openBracket word => "syntax error: expecting ')' after ".toList ++ inMarks word
  | .noInteger => "non-integer argument".toList
  | .divisionByZero => "division by zero".toList
  | .regex fault => fault.message.toList

/-- A text counts as nothing: it is empty or zero. -/
def isNothing (s : Octets) : Bool :=
  match s with
  | [] => true
  | '-' :: rest => !rest.isEmpty && rest.all (· == '0')
  | rest => rest.all (· == '0')

/-- The whole number that a word denotes. -/
def wordInt? (s : Octets) : Option Int :=
  match s with
  | '-' :: rest => (Octets.natural? rest).map fun n => -(n : Int)
  | rest => (Octets.natural? rest).map Int.ofNat

/-- What a regular expression finds at the front of a text: its first group, or how long it is. -/
def matchFront (text pattern : Octets) : Except ExprFault Octets :=
  match readRegex ⟨false, true, false⟩ (Octets.characters pattern) with
  | .error fault => .error (.regex fault)
  | .ok regex =>
    let start := Place.start (Octets.characters text)
    match (regex.places ⟨false, false⟩ regex.refersBack start).head? with
    | none => .ok (if regex.groupCount = 0 then ['0'] else [])
    | some last =>
      .ok (if regex.groupCount = 0 then Octets.ofNat last.position
        else Octets.ofCharacters ((last.groups.lookup 1).map (·.2) |>.getD []))

/-- A part of a text, from a place on, with so many characters. -/
def partOfText (text place length : Octets) : Octets :=
  match wordInt? place, wordInt? length with
  | some place, some length =>
    if place ≤ 0 || length ≤ 0 then []
    else Octets.ofCharacters (((Octets.characters text).drop (place.toNat - 1)).take length.toNat)
  | _, _ => []

/-- The place of the first character of a text that is one of others, from 1; else 0. -/
def placeOfAny (text others : Octets) : Octets :=
  let others := Octets.characters others
  match (Octets.characters text).findIdx? others.contains with
  | some k => Octets.ofNat (k + 1)
  | none => ['0']

/-- The ranks of operators that are worked out from the left, the weakest first. -/
def operatorRanks : List (List String) :=
  [["|"], ["&"], ["<", "<=", "=", "==", "!=", ">=", ">"], ["+", "-"], ["*", "/", "%"], [":"]]

/-- The value of an operator between two others. -/
def applyOperator (operator : String) (a b : Octets) : Except ExprFault Octets :=
  let truth (holds : Bool) : Except ExprFault Octets := .ok (if holds then ['1'] else ['0'])
  let compare : Ordering := match wordInt? a, wordInt? b with
    | some m, some n => if m < n then .lt else if n < m then .gt else .eq
    | _, _ => if a == b then .eq else if Octets.le a b then .lt else .gt
  let arithmetic (work : Int → Int → Except ExprFault Int) : Except ExprFault Octets :=
    match wordInt? a, wordInt? b with
    | some m, some n => (work m n).map Number.ofInt
    | _, _ => .error .noInteger
  match operator with
  | "|" => .ok (if !isNothing a then a else if isNothing b then ['0'] else b)
  | "&" => .ok (if isNothing a || isNothing b then ['0'] else a)
  | "<" => truth (compare == .lt)
  | "<=" => truth (compare != .gt)
  | "=" | "==" => truth (compare == .eq)
  | "!=" => truth (compare != .eq)
  | ">=" => truth (compare != .lt)
  | ">" => truth (compare == .gt)
  | "+" => arithmetic fun m n => .ok (m + n)
  | "-" => arithmetic fun m n => .ok (m - n)
  | "*" => arithmetic fun m n => .ok (m * n)
  | "/" => arithmetic fun m n => if n = 0 then .error .divisionByZero else .ok (m.tdiv n)
  | "%" => arithmetic fun m n => if n = 0 then .error .divisionByZero else .ok (m.tmod n)
  | _ => matchFront a b

/-- A value, with the last word that was read and the words that are left. -/
abbrev ExprState := Octets × Octets × List Octets

mutual

/-- The value of operands with operators of the given ranks between them.  What is not needed is
read without being worked out. -/
def readRanks : Nat → Bool → List (List String) → Octets → List Octets →
    Except ExprFault ExprState
  | 0, _, _, last, _ => .error (.missing last)
  | fuel + 1, needed, ranks, last, words => do
    match ranks with
    | [] => readOperand fuel needed last words
    | rank :: higher =>
      let (value, last, words) ← readRanks fuel needed higher last words
      readMore fuel needed rank higher value last words

/-- The operators of one rank behind a value. -/
def readMore : Nat → Bool → List String → List (List String) → Octets → Octets → List Octets →
    Except ExprFault ExprState
  | 0, _, _, _, value, last, words => .ok (value, last, words)
  | fuel + 1, needed, rank, higher, value, last, words => do
    match words with
    | word :: rest =>
      let operator := String.ofList word
      if rank.contains operator then
        let isSettled :=
          (operator == "|" && !isNothing value) || (operator == "&" && isNothing value)
        let (other, last, rest) ← readRanks fuel (needed && !isSettled) higher word rest
        let value ← if needed then
            if isSettled && operator == "|" then pure value
            else if isSettled then pure ['0']
            else applyOperator operator value other
          else pure value
        readMore fuel needed rank higher value last rest
      else return (value, last, words)
    | [] => return (value, last, [])

/-- An operand: a word, an expression in brackets, or a function with its arguments. -/
def readOperand : Nat → Bool → Octets → List Octets → Except ExprFault ExprState
  | 0, _, last, _ => .error (.missing last)
  | fuel + 1, needed, last, words => do
    match words with
    | [] => throw (.missing last)
    | word :: rest =>
      match String.ofList word with
      | "+" =>
        match rest with
        | next :: rest => return (next, next, rest)
        | [] => throw (.missing word)
      | "length" =>
        let (value, last, rest) ← readOperand fuel needed word rest
        return (Octets.ofNat (Octets.characters value).length, last, rest)
      | "match" =>
        let (text, last, rest) ← readOperand fuel needed word rest
        let (pattern, last, rest) ← readOperand fuel needed last rest
        return (← if needed then matchFront text pattern else pure [], last, rest)
      | "index" =>
        let (text, last, rest) ← readOperand fuel needed word rest
        let (others, last, rest) ← readOperand fuel needed last rest
        return (placeOfAny text others, last, rest)
      | "substr" =>
        let (text, last, rest) ← readOperand fuel needed word rest
        let (place, last, rest) ← readOperand fuel needed last rest
        let (length, last, rest) ← readOperand fuel needed last rest
        return (partOfText text place length, last, rest)
      | "(" =>
        let (value, last, rest) ← readRanks fuel needed operatorRanks word rest
        match rest with
        | [')'] :: rest => return (value, [')'], rest)
        | [] => throw (.openBracket last)
        | other :: _ => throw (.unexpected other)
      | ")" => throw (.unexpected word)
      | _ => return (word, word, rest)

end

/-- **The value of an expression**, or what is wrong with it. -/
def readExpression (words : List Octets) : Except ExprFault Octets := do
  let (value, _, rest) ← readRanks (20 * words.length + 20) true operatorRanks [] words
  match rest with
  | [] => return value
  | word :: _ => throw (.unexpected word)

/-- **Works out an expression.** -/
def expr (call : Call) : Effect :=
  let words := if call.args.head? == some ['-', '-'] then call.args.tail else call.args
  if words.isEmpty then call.misused "missing operand".toList 2
  else match readExpression words with
    | .error fault => call.failing fault.message 2
    | .ok value => call.ignoring (value ++ ['\n']) (if isNothing value then 1 else 0)

end ContainerClients.Program
