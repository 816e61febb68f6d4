import ContainerClients.Program.Script

/-!
# Tokens of scripts

The characters of a script make tokens: words, operators, redirections and the ends of lines.  A
backslash in front of the end of a line joins it with the next.

* `Token` — the tokens, and how complaints name them.
* `Source` — the text that is not read yet, and the documents that its redirections announce.
* `Reading` — reading, with a `ReadFault` where the text is no script.
* `takeDocument` — the lines of a document.
* `readEnding`, `readSign`, `readParameterName` — what can be read without the grammar.
-/

namespace ContainerClients.Program


/-- A redirection as it is written. -/
inductive RedirectSign where
  /-- to a file -/
  | file (opening : Opening)
  /-- to where another descriptor leads -/
  | copy
  /-- to a text below, whose lines may be indented by tabs -/
  | document (indented : Bool)

/-- **A token** of a script. -/
inductive Token where
  /-- a word -/
  | word (word : ScriptWord)
  /-- an operator -/
  | operator (s : String)
  /-- a redirection of a descriptor -/
  | redirect (descriptor : Nat) (sign : RedirectSign)
  /-- the end of a line -/
  | newline
  /-- the end of the script -/
  | finish

/-- The words that have a meaning of their own where a command may start. -/
def keywords : List String :=
  ["!", "case", "do", "done", "elif", "else", "esac", "fi", "for", "if", "in", "then", "until",
   "while", "\x7b", "\x7d"]

/-- The keyword that a token is. -/
def Token.keyword? : Token → Option String
  | .word pieces => ScriptWord.plain? pieces |>.bind fun s => keywords.find? (·.toList == s)
  | _ => none

/-- How complaints name a token. -/
def Token.name (token : Token) : String :=
  match token with
  | .word _ =>
    match token.keyword? with
    | some s => "\"" ++ s ++ "\""
    | none => "word"
  | .operator s => "\"" ++ s ++ "\""
  | .redirect .. => "redirection"
  | .newline => "newline"
  | .finish => "end of file"

/-- A token behind which no command of a list can start. -/
def Token.endsList (token : Token) : Bool :=
  match token with
  | .finish => true
  | .operator s => s == ")" || s == ";;"
  | token => token.keyword?.any
      ["do", "done", "elif", "else", "esac", "fi", "then", "\x7d"].contains

/-- A document that a redirection has announced. -/
structure Announced where
  /-- the number of the document -/
  number : Nat
  /-- the line that ends it -/
  ending : Octets
  /-- leading tabs do not belong to its lines -/
  indented : Bool
  /-- it is text only, without anything to expand -/
  literal : Bool

/-- **The text of a script that is not read yet.** -/
structure Source where
  /-- the text -/
  rest : Octets
  /-- the number of its first line -/
  line : Nat
  /-- a token that is read and not used -/
  ahead : Option Token
  /-- the documents that start in the next line -/
  announced : List Announced
  /-- the documents that have been read -/
  documents : List (Nat × ScriptWord)
  /-- the number of the next document -/
  nextDocument : Nat
  /-- the words that stand for other text where a command may start -/
  aliases : List (Octets × Octets)
  /-- the aliases that are being read, each with the length of the text behind it -/
  inUse : List (Octets × Nat)

/-- A mistake in a script. -/
structure ReadFault where
  /-- the line that it is met in -/
  line : Nat
  /-- what is wrong -/
  message : String

/-- **Reading** from a source. -/
abbrev Reading := StateT Source (Except ReadFault)

/-- A mistake is met. -/
def readFault {α : Type} (message : String) : Reading α := do
  throw ⟨(← get).line, message⟩

/-- The text that a word stands for where a command may start, unless it comes from that text
itself. -/
def Source.alias? (source : Source) (name : Octets) : Option Octets :=
  if source.inUse.any fun entry => entry.1 == name && entry.2 < source.rest.length then none
  else List.lookup name source.aliases

/-- Puts the text that a word stands for in its place. -/
def Source.useAlias (source : Source) (name text : Octets) : Source :=
  { source with
    rest := text ++ source.rest, inUse := (name, source.rest.length) :: source.inUse }

/-! ## Characters -/

/-- A text without the backslashes in front of it that continue a line, and the number of its first
line. -/
def joinLines : Octets → Nat → Octets × Nat
  | '\\' :: '\n' :: rest, line => joinLines rest (line + 1)
  | s, line => (s, line)

/-- The next character, where lines can be continued. -/
def look : Reading (Option Char) := do
  let source ← get
  let (rest, line) := joinLines source.rest source.line
  set { source with rest, line }
  return rest.head?

/-- The next character as it is. -/
def lookPlain : Reading (Option Char) := return (← get).rest.head?

/-- Passes over a character. -/
def skip : Reading Unit := modify fun source =>
  match source.rest with
  | '\n' :: rest => { source with rest, line := source.line + 1 }
  | rest => { source with rest := rest.drop 1 }

/-- Passes over a text. -/
def skipText (s : Octets) : Reading Unit := modify fun source =>
  { source with rest := source.rest.drop s.length, line := source.line + s.count '\n' }

/-- The text up to a character, which is passed over too. -/
def readUntil (stop : Char) : Reading Octets := do
  let rest := (← get).rest
  let inside := rest.takeWhile (· != stop)
  if inside.length = rest.length then readFault "Unterminated quoted string"
  skipText (inside ++ [stop])
  return inside

/-- The longest text of characters of a kind; the number bounds their count. -/
def readWhile (kind : Char → Bool) : Nat → Reading Octets
  | 0 => return []
  | fuel + 1 => do
    match ← look with
    | some c =>
      if kind c then
        skip
        return c :: (← readWhile kind fuel)
      else return []
    | none => return []

/-- Puts text in front of a word. -/
def addText (s : Octets) (quoted : Bool) : ScriptWord → ScriptWord
  | .text t q :: rest => if q == quoted then .text (s ++ t) q :: rest
      else .text s quoted :: .text t q :: rest
  | rest => .text s quoted :: rest

/-- Puts the start of a word in front of its end. -/
def addPieces (pieces rest : ScriptWord) : ScriptWord :=
  match pieces with
  | [.text s quoted] => addText s quoted rest
  | pieces => pieces ++ rest

/-- The characters that end a word. -/
def endsWord (c : Char) : Bool := " \t\n;&|()<>".toList.contains c

/-- The grave accent, between two of which a command is substituted. -/
def grave : Char := Char.ofNat 96

/-- What a backslash and a character stand for between double quotes. -/
def quotedEscape (inDocument inBraces : Bool) (c : Char) : Octets :=
  if c == '\\' || c == grave || c == '$' || (c == '"' && !inDocument) || (c == '\x7d' && inBraces)
  then [c] else ['\\', c]

/-- The text between grave accents, without the backslashes that hide their meaning there; the
number bounds its length. -/
def readGraveText (quoted : Bool) : Nat → Reading Octets
  | 0 => return []
  | fuel + 1 => do
    match ← look with
    | none => readFault "EOF in backquote substitution"
    | some '\\' =>
      skip
      match ← lookPlain with
      | none => readFault "EOF in backquote substitution"
      | some c =>
        skip
        let plain := c == '\\' || c == grave || c == '$' || (c == '"' && quoted)
        return (if plain then [c] else ['\\', c]) ++ (← readGraveText quoted fuel)
    | some c =>
      skip
      if c == grave then return [] else return c :: (← readGraveText quoted fuel)

/-! ## Documents -/

/-- The lines of a document and the text behind it.  A backslash at the end of a line continues it,
unless the document is literal. -/
def takeDocument (announced : Announced) : Nat → Octets → Bool → Octets × Octets
  | 0, s, _ => ([], s)
  | fuel + 1, s, continued =>
    if s.isEmpty then ([], [])
    else
      let trimmed := if announced.indented then s.dropWhile (· == '\t') else s
      let line := trimmed.takeWhile (· != '\n')
      let behind := trimmed.drop line.length
      if !continued && line == announced.ending then ([], behind.drop 1)
      else
        let slashes := (line.reverse.takeWhile (· == '\\')).length
        let (body, rest) :=
          takeDocument announced fuel (behind.drop 1) (!announced.literal && slashes % 2 = 1)
        (line ++ behind.take 1 ++ body, rest)

/-- The line that ends a document, as it is written behind the sign: without its quotation marks,
and whether it has any. -/
def readEnding : Nat → Reading (Octets × Bool)
  | 0 => return ([], false)
  | fuel + 1 => do
    match ← look with
    | some '\'' =>
      skip
      let inside ← readUntil '\''
      return (inside ++ (← readEnding fuel).1, true)
    | some '"' =>
      skip
      let inside ← readUntil '"'
      return (inside ++ (← readEnding fuel).1, true)
    | some '\\' =>
      skip
      let c ← lookPlain
      skip
      return (c.toList ++ (← readEnding fuel).1, true)
    | some c =>
      if endsWord c then return ([], false)
      else
        skip
        let (s, quoted) ← readEnding fuel
        return (c :: s, quoted)
    | none => return ([], false)

/-! ## Operators -/

/-- Reads an operator of one or two characters: the second is one of those that are given. -/
def readOperator (c : Char) (seconds : List Char) : Reading Token := do
  skip
  match ← look with
  | some d =>
    if seconds.contains d then
      skip
      return .operator (String.ofList [c, d])
    else return .operator (String.ofList [c])
  | none => return .operator (String.ofList [c])

/-- The sign of a redirection behind its first character. -/
def readSign (first : Char) : Reading RedirectSign := do
  skip
  match first, ← look with
  | '>', some '>' => skip; return .file .appending
  | '>', some '|' => skip; return .file .overwriting
  | '>', some '&' => skip; return .copy
  | '>', _ => return .file .writing
  | _, some '&' => skip; return .copy
  | _, some '>' => skip; return .file .updating
  | _, some '<' =>
    skip
    match ← look with
    | some '-' => skip; return .document true
    | _ => return .document false
  | _, _ => return .file .reading

/-- Reads a redirection of a descriptor, which is 0 or 1 where none is written. -/
def readRedirect (first : Char) (descriptor : Option Nat) : Reading Token := do
  let sign ← readSign first
  return .redirect (descriptor.getD (if first == '>' then 1 else 0)) sign

/-- Another token would have to follow. -/
def unexpected {α : Type} (token : Token) (expected : Option String) : Reading α :=
  readFault (token.name ++ " unexpected" ++
    (match expected with
    | some s => " (expecting " ++ s ++ ")"
    | none => ""))

/-- The commands of the shell that cannot be redefined. -/
def specialCommands : List String :=
  [".", ":", "break", "continue", "eval", "exec", "exit", "export", "local", "readonly", "return",
   "set", "shift", "times", "trap", "unset"]

/-- The operator behind a parameter's name in braces: its use but for the word, or nothing where
there is none. -/
def fallbackOf (c : Char) : Option Fallback :=
  match c with
  | '-' => some .replace
  | '=' => some .assign
  | '?' => some .complain
  | '+' => some .alternative
  | _ => none

/-- The name of a parameter in braces, and whether the length of its value is asked for; nothing
where there is no name. -/
def readParameterName (fuel : Nat) : Reading (Option (Octets × Bool)) := do
  match ← look with
  | none => return none
  | some c =>
    if startsName c then return some (← readWhile continuesName fuel, false)
    else if c.isDigit then return some (← readWhile Char.isDigit fuel, false)
    else if c == '#' then
      skip
      match ← look with
      | none => return some (['#'], false)
      | some d =>
        if startsName d then return some (← readWhile continuesName fuel, true)
        else if d.isDigit then return some (← readWhile Char.isDigit fuel, true)
        else
          let source ← get
          skip
          if d != '\x7d' && isSpecialParameter d && (← look) == some '\x7d' then
            return some ([d], true)
          else
            set source
            return some (['#'], false)
    else if isSpecialParameter c then
      skip
      return some ([c], false)
    else return none

end ContainerClients.Program
