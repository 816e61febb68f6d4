import ContainerClients.Number.Binary64
import ContainerClients.Program.Shell.State

/-!
# Arithmetic of the shell

Expressions on whole numbers of 64 bits, with variables.

* `Expression` — the expressions.
* `Expression.read` — reading one: operators bind as in the usual order, an assignment weakest.
* `wholeNumber?` — the number that a text denotes, in base 8, 10 or 16.
* `Expression.value` — the value; what exceeds 64 bits is cut off, quotients go towards zero.
-/

namespace ContainerClients.Program

/-- An operation on two numbers. -/
inductive Operation where
  /-- `*` -/
  | times
  /-- `/` -/
  | over
  /-- `%` -/
  | modulo
  /-- `+` -/
  | plus
  /-- `-` -/
  | minus
  /-- `<<` -/
  | shiftLeft
  /-- `>>` -/
  | shiftRight
  /-- `<` -/
  | less
  /-- `<=` -/
  | atMost
  /-- `>` -/
  | more
  /-- `>=` -/
  | atLeast
  /-- `==` -/
  | equal
  /-- `!=` -/
  | unequal
  /-- `&` -/
  | bitAnd
  /-- `^` -/
  | bitXor
  /-- `|` -/
  | bitOr
deriving DecidableEq, Repr

/-- An operation on one number. -/
inductive Sign where
  /-- `-` -/
  | negated
  /-- `~` -/
  | flipped
  /-- `!` -/
  | denied
deriving DecidableEq, Repr

/-- **An expression.** -/
inductive Expression where
  /-- a number -/
  | number (n : Int)
  /-- the value of a variable -/
  | setting (name : Octets)
  /-- an operation on one value -/
  | signed (sign : Sign) (a : Expression)
  /-- an operation on two values -/
  | combined (operation : Operation) (a b : Expression)
  /-- whether both are other than zero -/
  | both (a b : Expression)
  /-- whether one is other than zero -/
  | either (a b : Expression)
  /-- one of two by a condition -/
  | choice (condition a b : Expression)
  /-- sets a variable, combined with its old value where there is an operation -/
  | assign (name : Octets) (operation : Option Operation) (a : Expression)
deriving Repr

/-- The operators of two values, and how strongly they bind. -/
def binaryOperators : List (String × Operation × Nat) :=
  [("*", .times, 10), ("/", .over, 10), ("%", .modulo, 10), ("+", .plus, 9), ("-", .minus, 9),
   ("<<", .shiftLeft, 8), (">>", .shiftRight, 8), ("<", .less, 7), ("<=", .atMost, 7),
   (">", .more, 7), (">=", .atLeast, 7), ("==", .equal, 6), ("!=", .unequal, 6),
   ("&", .bitAnd, 5), ("^", .bitXor, 4), ("|", .bitOr, 3)]

/-- The operators that set a variable. -/
def assigningOperators : List (String × Option Operation) :=
  ("=", none) :: (binaryOperators.filter fun (_, operation, strength) =>
    strength ≠ 7 && strength ≠ 6 && operation ≠ .equal).map fun (s, operation, _) =>
      (s ++ "=", some operation)

/-! ## Tokens -/

/-- A token of an expression. -/
inductive ArithmeticToken where
  /-- a number -/
  | number (n : Int)
  /-- a name -/
  | name (s : Octets)
  /-- an operator or a parenthesis -/
  | sign (s : String)
  /-- a character that there is no use for -/
  | unknown

/-- The signs of expressions, those that start others behind them. -/
def arithmeticSigns : List String :=
  ["<<=", ">>=", "<<", ">>", "<=", ">=", "==", "!=", "&&", "||", "*=", "/=", "%=", "+=", "-=",
   "&=", "^=", "|=", "=", "<", ">", "!", "&", "|", "^", "*", "/", "%", "+", "-", "~", "?", ":",
   "(", ")"]

/-- The value of a digit in any base up to 36. -/
def digitValue (c : Char) : Nat :=
  if c.isDigit then c.toNat - 48
  else if 'a' ≤ c && c ≤ 'z' then c.toNat - 87
  else if 'A' ≤ c && c ≤ 'Z' then c.toNat - 55
  else 36

/-- The number that digits denote in a base. -/
def numberInBase (base : Nat) (digits : Octets) : Nat :=
  digits.foldl (fun n c => base * n + digitValue c) 0

/-- The greatest number of 64 bits. -/
def greatest : Int := 9223372036854775807

/-- The number at the front of a text, without a sign and not bounded, and what follows it. -/
def readMagnitude (s : Octets) : Nat × Octets :=
  let take (base : Nat) (s : Octets) : Nat × Octets :=
    let digits := s.takeWhile fun c => digitValue c < base
    (numberInBase base digits, s.drop digits.length)
  match s with
  | '0' :: x :: c :: rest =>
    if (x == 'x' || x == 'X') && digitValue c < 16 then take 16 (c :: rest) else take 8 s
  | '0' :: _ => take 8 s
  | _ => take 10 s

/-- The tokens of an expression; the number bounds its length. -/
def arithmeticTokens : Nat → Octets → List ArithmeticToken
  | 0, _ => []
  | _, [] => []
  | fuel + 1, c :: rest =>
    if c == ' ' || c == '\t' || c == '\n' then arithmeticTokens fuel rest
    else if c.isDigit then
      let (n, rest) := readMagnitude (c :: rest)
      .number (min (n : Int) greatest) :: arithmeticTokens fuel rest
    else if startsName c then
      let name := (c :: rest).takeWhile continuesName
      .name name :: arithmeticTokens fuel ((c :: rest).drop name.length)
    else
      match arithmeticSigns.find? fun s => s.toList.isPrefixOf (c :: rest) with
      | some s => .sign s :: arithmeticTokens fuel ((c :: rest).drop s.length)
      | none => [.unknown]

/-! ## The grammar -/

namespace Expression

/-- An expression and the tokens behind it. -/
abbrev ReadResult := Except String (Expression × List ArithmeticToken)

mutual

/-- An expression of any kind; the number bounds how deep it goes. -/
def readWeakest : Nat → List ArithmeticToken → ReadResult
  | 0, _ => .error "expecting primary"
  | fuel + 1, tokens =>
    match tokens with
    | .name s :: .sign op :: rest =>
      match assigningOperators.lookup op with
      | some operation => do
        let (a, rest) ← readWeakest fuel rest
        return (.assign s operation a, rest)
      | none => readChoice fuel tokens
    | _ => readChoice fuel tokens

/-- A choice, or an expression that binds more strongly. -/
def readChoice : Nat → List ArithmeticToken → ReadResult
  | 0, _ => .error "expecting primary"
  | fuel + 1, tokens => do
    let (condition, rest) ← readEither fuel tokens
    match rest with
    | .sign "?" :: rest =>
      let (a, rest) ← readWeakest fuel rest
      match rest with
      | .sign ":" :: rest =>
        let (b, rest) ← readChoice fuel rest
        return (.choice condition a b, rest)
      | _ => .error "expecting ':'"
    | _ => return (condition, rest)

/-- Expressions joined by `||`. -/
def readEither : Nat → List ArithmeticToken → ReadResult
  | 0, _ => .error "expecting primary"
  | fuel + 1, tokens => do
    let (a, rest) ← readBoth fuel tokens
    match rest with
    | .sign "||" :: rest =>
      let (b, rest) ← readEither fuel rest
      return (.either a b, rest)
    | _ => return (a, rest)

/-- Expressions joined by `&&`. -/
def readBoth : Nat → List ArithmeticToken → ReadResult
  | 0, _ => .error "expecting primary"
  | fuel + 1, tokens => do
    let (a, rest) ← readSigned fuel tokens
    let (a, rest) ← readBinary fuel 0 a rest
    match rest with
    | .sign "&&" :: rest =>
      let (b, rest) ← readBoth fuel rest
      return (.both a b, rest)
    | _ => return (a, rest)

/-- What follows an expression and binds at least so strongly. -/
def readBinary : Nat → Nat → Expression → List ArithmeticToken → ReadResult
  | 0, _, _, _ => .error "expecting primary"
  | fuel + 1, least, a, tokens =>
    match tokens with
    | .sign s :: rest =>
      match binaryOperators.lookup s with
      | some (operation, strength) =>
        if strength < least then return (a, tokens)
        else do
          let (b, rest) ← readSigned fuel rest
          let (b, rest) ← readBinary fuel (strength + 1) b rest
          readBinary fuel least (.combined operation a b) rest
      | none => return (a, tokens)
    | _ => return (a, tokens)

/-- A number, a name or an expression in parentheses, with signs in front. -/
def readSigned : Nat → List ArithmeticToken → ReadResult
  | 0, _ => .error "expecting primary"
  | fuel + 1, tokens =>
    let signed (sign : Sign) (rest : List ArithmeticToken) : ReadResult := do
      let (a, rest) ← readSigned fuel rest
      return (.signed sign a, rest)
    match tokens with
    | .number n :: rest => return (.number n, rest)
    | .name s :: rest => return (.setting s, rest)
    | .sign "(" :: rest => do
      let (a, rest) ← readWeakest fuel rest
      match rest with
      | .sign ")" :: rest => return (a, rest)
      | _ => .error "expecting ')'"
    | .sign "+" :: rest => readSigned fuel rest
    | .sign "-" :: rest => signed .negated rest
    | .sign "~" :: rest => signed .flipped rest
    | .sign "!" :: rest => signed .denied rest
    | _ => .error "expecting primary"

end

/-- **Reading an expression**, or what is wrong with it. -/
def read (s : Octets) : Except String Expression := do
  let tokens := arithmeticTokens s.length s
  let (a, rest) ← readWeakest (8 * tokens.length + 16) tokens
  if rest.isEmpty then return a else .error "expecting EOF"

end Expression

/-! ## Values -/

/-- A number cut to 64 bits. -/
def toWord (n : Int) : Int := Int.bmod n 18446744073709551616

/-- A number of 64 bits as bits. -/
def wordBits (n : Int) : Nat := (n % 18446744073709551616).toNat

/-- One for a condition that holds, and zero otherwise. -/
def ofCondition (b : Bool) : Int := if b then 1 else 0

/-- What an operation makes of two numbers, or what is wrong. -/
def Operation.apply (operation : Operation) (a b : Int) : Except String Int :=
  let bits (f : Nat → Nat → Nat) : Int := toWord (f (wordBits a) (wordBits b))
  let distance := wordBits b % 64
  match operation with
  | .times => .ok (toWord (a * b))
  | .plus => .ok (toWord (a + b))
  | .minus => .ok (toWord (a - b))
  | .over | .modulo =>
    if b = 0 then .error "division by zero"
    else if a = -greatest - 1 ∧ b = -1 then .error "divide error"
    else .ok (if operation = .over then Int.tdiv a b else Int.tmod a b)
  | .shiftLeft => .ok (toWord (a * Number.twoTo distance))
  | .shiftRight => .ok (Int.fdiv a (Number.twoTo distance))
  | .less => .ok (ofCondition (a < b))
  | .atMost => .ok (ofCondition (a ≤ b))
  | .more => .ok (ofCondition (a > b))
  | .atLeast => .ok (ofCondition (a ≥ b))
  | .equal => .ok (ofCondition (a = b))
  | .unequal => .ok (ofCondition (a ≠ b))
  | .bitAnd => .ok (bits Nat.land)
  | .bitXor => .ok (bits Nat.xor)
  | .bitOr => .ok (bits Nat.lor)

/-- What a sign makes of a number. -/
def Sign.apply (sign : Sign) (a : Int) : Int :=
  match sign with
  | .negated => toWord (-a)
  | .flipped => -a - 1
  | .denied => ofCondition (a = 0)

/-- A blank of the basic set. -/
def isPlainBlank (c : Char) : Bool := c == ' ' || ('\t' ≤ c && c ≤ '\r')

/-- **The whole number that a text denotes**, with blanks around it and a sign; `free` when it can
be written in base 8 or 16 too, and be missing. -/
def wholeNumber? (free : Bool) (s : Octets) : Option Int :=
  let body := s.dropWhile isPlainBlank
  let (negative, digits) := match body with
    | '-' :: rest => (true, rest)
    | '+' :: rest => (false, rest)
    | rest => (false, rest)
  let found := digits.head?.any Char.isDigit
  let (n, rest) :=
    if !found then (0, s)
    else if free then readMagnitude digits
    else (numberInBase 10 (digits.takeWhile Char.isDigit), digits.dropWhile Char.isDigit)
  let n : Int := if negative then -(n : Int) else n
  if (found || free) && rest.all isPlainBlank && -greatest - 1 ≤ n && n ≤ greatest then some n
  else none

namespace Act

/-- The number that a variable holds. -/
def numberOf (name : Octets) : Act Int := do
  let s := (← value? name).getD []
  match wholeNumber? true s with
  | some n => return n
  | none => failNumber s

/-- **The value of an expression** that is written as a text. -/
def valueOf (text : Octets) : Expression → Act Int
  | .number n => return n
  | .setting name => numberOf name
  | .signed sign a => return sign.apply (← valueOf text a)
  | .combined operation a b => do
    let m ← valueOf text a
    let n ← valueOf text b
    combine operation m n
  | .both a b => do
    if (← valueOf text a) = 0 then return 0
    return ofCondition ((← valueOf text b) ≠ 0)
  | .either a b => do
    if (← valueOf text a) ≠ 0 then return 1
    return ofCondition ((← valueOf text b) ≠ 0)
  | .choice condition a b => do
    if (← valueOf text condition) ≠ 0 then valueOf text a else valueOf text b
  | .assign name operation a => do
    let n ← valueOf text a
    let n ← match operation with
      | some operation => combine operation (← numberOf name) n
      | none => pure n
    assign name (toString n).toList
    return n
where
  /-- What an operation makes of two numbers. -/
  combine (operation : Operation) (m n : Int) : Act Int :=
    match operation.apply m n with
    | .ok n => return n
    | .error message => failExpression message text
  /-- A mistake in the expression. -/
  failExpression (message : String) (text : Octets) : Act Int :=
    fail ("arithmetic expression: ".toList ++ message.toList ++ ": \"".toList ++ text ++ ['"'])

/-- **Arithmetic**: the value of the expression that a text is. -/
def calculate (text : Octets) : Act Octets := do
  match Expression.read text with
  | .ok expression => return (toString (← valueOf text expression)).toList
  | .error message => return (toString (← valueOf.failExpression message text)).toList

end Act

end ContainerClients.Program
