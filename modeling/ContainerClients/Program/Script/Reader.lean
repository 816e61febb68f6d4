import ContainerClients.Program.Script.Token

/-!
# Reading scripts

A script is read command line by command line, so that what stands in front of a mistake has been
carried out when the mistake is met.

* `readBare`, `readDouble`, `readDollar`, `readArithmetic` — the parts of a word.
* `readToken`, `readDocuments` — tokens, with the documents behind the end of a line.
* `readList`, `readChain`, `readPipeline`, `readCommand` and their companions — the commands.
* `Source.readLine?` — the next command line.

The functions of the grammar call one another, so each has a number that bounds how deep they go.
`Source.readingDepth` is enough for a text: between one character and the next there are fewer
calls than its factor.
-/

namespace ContainerClients.Program

/-! ## The grammar -/

mutual

/-- A word without quotation marks around it; in braces, up to the brace that closes. -/
def readBare : Nat → Bool → Reading ScriptWord
  | 0, _ => return []
  | fuel + 1, inBraces => do
    match ← look with
    | none => if inBraces then readFault "Missing '\x7d'" else return []
    | some '\'' =>
      skip
      let inside ← readUntil '\''
      return .quotes :: .text inside true :: (← readBare fuel inBraces)
    | some '"' =>
      skip
      let inside ← readDouble fuel (some '"') inBraces
      let rest ← readBare fuel inBraces
      match inside with
      | [.parameter ['@'] .value true] => return inside ++ rest
      | _ => return .quotes :: (inside ++ rest)
    | some '\\' =>
      skip
      match ← lookPlain with
      | none => return [.text ['\\'] true]
      | some c =>
        skip
        return addText [c] true (← readBare fuel inBraces)
    | some '$' =>
      skip
      let pieces ← readDollar fuel false
      return addPieces pieces (← readBare fuel inBraces)
    | some c =>
      if inBraces && c == '\x7d' then
        skip
        return []
      else if !inBraces && endsWord c then return []
      else if c == grave then
        let piece ← readGrave fuel false
        return piece :: (← readBare fuel inBraces)
      else
        skip
        return addText [c] false (← readBare fuel inBraces)

/-- A word between double quotes, up to the character that ends it, or all of a document. -/
def readDouble : Nat → Option Char → Bool → Reading ScriptWord
  | 0, _, _ => return []
  | fuel + 1, stop, inBraces => do
    match ← look with
    | none => if stop.isNone then return [] else readFault "Unterminated quoted string"
    | some '\\' =>
      skip
      match ← lookPlain with
      | none => return [.text ['\\'] true]
      | some c =>
        skip
        let s := quotedEscape stop.isNone inBraces c
        return addText s true (← readDouble fuel stop inBraces)
    | some '$' =>
      skip
      let pieces ← readDollar fuel true
      return addPieces pieces (← readDouble fuel stop inBraces)
    | some c =>
      if some c == stop then
        skip
        return []
      else if c == grave then
        let piece ← readGrave fuel true
        return piece :: (← readDouble fuel stop inBraces)
      else if c == '"' && stop == some '\x7d' then
        skip
        let inside ← readDouble fuel (some '"') true
        return addPieces inside (← readDouble fuel stop inBraces)
      else
        skip
        return addText [c] true (← readDouble fuel stop inBraces)

/-- What stands behind a dollar sign. -/
def readDollar : Nat → Bool → Reading ScriptWord
  | 0, _ => return []
  | fuel + 1, quoted => do
    match ← look with
    | none => return [.text ['$'] quoted]
    | some '(' =>
      skip
      if (← look) == some '(' then
        skip
        return [.arithmetic (← readArithmetic fuel 0) quoted]
      else
        let announced := (← get).announced
        modify fun source => { source with announced := [] }
        let script ← readList fuel false
        let token ← readToken fuel
        match token with
        | .operator ")" => pure ()
        | _ => unexpected token (some "\")\"")
        modify fun source => { source with announced }
        return [.output script quoted]
    | some c =>
      if c == '\x7b' then
        skip
        return [← readBraces fuel quoted]
      else if startsName c then
        return [.parameter (← readWhile continuesName (fuel + 1)) .value quoted]
      else if isSpecialParameter c then
        skip
        return [.parameter [c] .value quoted]
      else return [.text ['$'] quoted]

/-- A parameter in braces. -/
def readBraces : Nat → Bool → Reading Piece
  | 0, quoted => return .parameter [] .bad quoted
  | fuel + 1, quoted => do
    let word : Reading ScriptWord :=
      if quoted then readDouble fuel (some '\x7d') true else readBare fuel true
    match ← readParameterName (fuel + 1) with
    | none =>
      discard word
      return .parameter [] .bad quoted
    | some (name, true) =>
      if (← look) == some '\x7d' then
        skip
        return .parameter name .length quoted
      else
        discard word
        return .parameter name .bad quoted
    | some (name, false) =>
      match ← look with
      | some '\x7d' =>
        skip
        return .parameter name .value quoted
      | some '%' =>
        skip
        let longest := (← look) == some '%'
        if longest then skip
        return .parameter name (.trim true longest (← readBare fuel true)) quoted
      | some '#' =>
        skip
        let longest := (← look) == some '#'
        if longest then skip
        return .parameter name (.trim false longest (← readBare fuel true)) quoted
      | some c =>
        let orEmpty := c == ':'
        if orEmpty then skip
        match (← look).bind fallbackOf with
        | some kind =>
          skip
          return .parameter name (.fallback kind orEmpty (← word)) quoted
        | none =>
          discard word
          return .parameter name .bad quoted
      | none =>
        discard word
        return .parameter name .bad quoted

/-- An expression, up to the two parentheses that close it. -/
def readArithmetic : Nat → Nat → Reading ScriptWord
  | 0, _ => return []
  | fuel + 1, depth => do
    match ← look with
    | none => readFault "Missing '))'"
    | some '\\' =>
      skip
      match ← lookPlain with
      | none => readFault "Missing '))'"
      | some c =>
        skip
        return addText (quotedEscape false false c) true (← readArithmetic fuel depth)
    | some '$' =>
      skip
      let pieces ← readDollar fuel true
      return addPieces pieces (← readArithmetic fuel depth)
    | some '(' =>
      skip
      return addText ['('] true (← readArithmetic fuel (depth + 1))
    | some ')' =>
      skip
      if depth = 0 then
        if (← look) == some ')' then
          skip
          return []
        else return addText [')'] true (← readArithmetic fuel depth)
      else return addText [')'] true (← readArithmetic fuel (depth - 1))
    | some c =>
      if c == grave then
        let piece ← readGrave fuel true
        return piece :: (← readArithmetic fuel depth)
      else
        skip
        return addText [c] true (← readArithmetic fuel depth)

/-- A script between grave accents. -/
def readGrave : Nat → Bool → Reading Piece
  | 0, quoted => return .output .nothing quoted
  | fuel + 1, quoted => do
    skip
    let text ← readGraveText quoted (fuel + 1)
    let outside ← get
    set { outside with rest := text, announced := [], ahead := none }
    let script ← readList fuel false
    modify fun inside => { inside with
      rest := outside.rest, line := outside.line, announced := outside.announced, ahead := none }
    return .output script quoted

/-- The next token. -/
def readToken : Nat → Reading Token
  | 0 => return .finish
  | fuel + 1 => do
    if let some token := (← get).ahead then
      modify fun source => { source with ahead := none }
      return token
    discard (readWhile (fun c => c == ' ' || c == '\t') (fuel + 1))
    match ← look with
    | none => return .finish
    | some '#' =>
      let comment := (← get).rest.takeWhile (· != '\n')
      skipText comment
      readToken fuel
    | some '\n' =>
      skip
      let announced := (← get).announced
      modify fun source => { source with announced := [] }
      readDocuments fuel announced
      return .newline
    | some '&' => readOperator '&' ['&']
    | some '|' => readOperator '|' ['|']
    | some ';' => readOperator ';' [';']
    | some '(' => readOperator '(' []
    | some ')' => readOperator ')' []
    | some '<' => readRedirect '<' none
    | some '>' => readRedirect '>' none
    | some _ =>
      let word ← readBare fuel false
      match word, ← look with
      | [.text [d] false], some c =>
        if d.isDigit && (c == '<' || c == '>') then readRedirect c (some (d.toNat - 48))
        else return .word word
      | _, _ => return .word word

/-- The documents that start here. -/
def readDocuments : Nat → List Announced → Reading Unit
  | 0, _ => return
  | _ + 1, [] => return
  | fuel + 1, announced :: others => do
    let source ← get
    let (body, rest) := takeDocument announced (source.rest.length + 1) source.rest false
    let line := source.line + (source.rest.count '\n' - rest.count '\n')
    let word ←
      if announced.literal then pure [.text body true]
      else
        set { source with rest := body }
        readDouble fuel none false
    modify fun inside => { inside with
      rest, line, documents := inside.documents ++ [(announced.number, word)] }
    readDocuments fuel others

/-- The next token, which stays to be read. -/
def peekToken : Nat → Reading Token
  | 0 => return .finish
  | fuel + 1 => do
    let token ← readToken fuel
    modify fun source => { source with ahead := some token }
    return token

/-- Passes over the ends of lines. -/
def skipNewlines : Nat → Reading Unit
  | 0 => return
  | fuel + 1 => do
    match ← peekToken fuel with
    | .newline =>
      discard (readToken fuel)
      skipNewlines fuel
    | _ => return

/-- A list of commands, in which lines end like commands.  It may be empty unless it is
required. -/
def readList : Nat → Bool → Reading Script
  | 0, _ => return .nothing
  | fuel + 1, required => do
    skipNewlines fuel
    match ← peekToken fuel with
    | .finish => return .nothing
    | token =>
      if !required && token.endsList then return .nothing
      else readListFrom fuel (← readChain fuel)

/-- The rest of a list behind a command. -/
def readListFrom : Nat → Script → Reading Script
  | 0, script => return script
  | fuel + 1, script => do
    let more (script : Script) : Reading Script := do
      skipNewlines fuel
      if (← peekToken fuel).endsList then return script
      else
        let second ← readChain fuel
        match script with
        | .nothing => readListFrom fuel second
        | first => readListFrom fuel (.sequence first second)
    match ← peekToken fuel with
    | .operator ";" =>
      discard (readToken fuel)
      more script
    | .operator "&" =>
      discard (readToken fuel)
      more (.background script)
    | .newline => more script
    | _ => return script

/-- Commands joined by success and failure. -/
def readChain : Nat → Reading Script
  | 0 => return .nothing
  | fuel + 1 => do
    readChainFrom fuel (← readPipeline fuel)

/-- The rest of a chain. -/
def readChainFrom : Nat → Script → Reading Script
  | 0, script => return script
  | fuel + 1, script => do
    match ← peekToken fuel with
    | .operator "&&" =>
      discard (readToken fuel)
      skipNewlines fuel
      readChainFrom fuel (.both script (← readPipeline fuel))
    | .operator "||" =>
      discard (readToken fuel)
      skipNewlines fuel
      readChainFrom fuel (.either script (← readPipeline fuel))
    | _ => return script

/-- Commands joined by pipes. -/
def readPipeline : Nat → Reading Script
  | 0 => return .nothing
  | fuel + 1 => do
    if (← peekToken fuel).keyword? == some "!" then
      discard (readToken fuel)
      return .negated (← readPipes fuel)
    else readPipes fuel

/-- Commands joined by pipes, not negated. -/
def readPipes : Nat → Reading Script
  | 0 => return .nothing
  | fuel + 1 => do
    let first ← readCommand fuel
    match ← readPipesFrom fuel with
    | [] => return first
    | others => return .pipeline (first :: others)

/-- The commands behind a pipe, as long as there is one. -/
def readPipesFrom : Nat → Reading (List Script)
  | 0 => return []
  | fuel + 1 => do
    match ← peekToken fuel with
    | .operator "|" =>
      discard (readToken fuel)
      skipNewlines fuel
      let script ← readCommand fuel
      return script :: (← readPipesFrom fuel)
    | _ => return []

/-- Passes over a keyword that has to come. -/
def expectKeyword : Nat → String → Reading Unit
  | 0, _ => return
  | fuel + 1, keyword => do
    let token ← readToken fuel
    if token.keyword? == some keyword then return
    else unexpected token (some ("\"" ++ keyword ++ "\""))

/-- One command. -/
def readCommand : Nat → Reading Script
  | 0 => return .nothing
  | fuel + 1 => do
    let token ← peekToken fuel
    match token with
    | .operator "(" =>
      discard (readToken fuel)
      let script ← readList fuel true
      let token ← readToken fuel
      match token with
      | .operator ")" => readRedirectsOf fuel (.apart script)
      | _ => unexpected token (some "\")\"")
    | .operator _ | .newline | .finish => unexpected token none
    | .redirect .. => readSimple fuel [] [] []
    | .word word =>
      match token.keyword? with
      | none =>
        let source ← get
        let name := word.plain?.getD []
        match source.alias? name with
        | some text =>
          discard (readToken fuel)
          modify (·.useAlias name text)
          readCommand fuel
        | none => readSimple fuel [] [] []
      | some "if" =>
        discard (readToken fuel)
        readRedirectsOf fuel (← readBranch fuel)
      | some "while" =>
        discard (readToken fuel)
        readRedirectsOf fuel (← readLoop fuel false)
      | some "until" =>
        discard (readToken fuel)
        readRedirectsOf fuel (← readLoop fuel true)
      | some "for" =>
        discard (readToken fuel)
        readRedirectsOf fuel (← readEach fuel)
      | some "case" =>
        discard (readToken fuel)
        readRedirectsOf fuel (← readChoice fuel)
      | some "\x7b" =>
        discard (readToken fuel)
        let script ← readList fuel true
        expectKeyword fuel "\x7d"
        readRedirectsOf fuel script
      | some _ => unexpected token none

/-- The redirections behind a command that has its own end. -/
def readRedirectsOf : Nat → Script → Reading Script
  | 0, script => return script
  | fuel + 1, script => do
    match ← readRedirects fuel with
    | [] => return script
    | redirects => return .redirected script redirects

/-- Redirections, as long as there are any. -/
def readRedirects : Nat → Reading (List Redirect)
  | 0 => return []
  | fuel + 1 => do
    match ← peekToken fuel with
    | .redirect descriptor sign =>
      discard (readToken fuel)
      let redirect ← readTarget fuel descriptor sign
      return redirect :: (← readRedirects fuel)
    | _ => return []

/-- The word behind a redirection. -/
def readTarget : Nat → Nat → RedirectSign → Reading Redirect
  | 0, descriptor, _ => return .copy descriptor []
  | fuel + 1, descriptor, sign => do
    discard (readWhile (fun c => c == ' ' || c == '\t') (fuel + 1))
    match sign, (← look).all endsWord with
    | .document indented, false =>
      let (ending, literal) ← readEnding (fuel + 1)
      let number := (← get).nextDocument
      modify fun source => { source with
        nextDocument := number + 1
        announced := source.announced ++ [⟨number, ending, indented, literal⟩] }
      return .document descriptor number
    | sign, _ =>
      match ← readToken fuel, sign with
      | .word word, .file opening => return .file descriptor opening word
      | .word word, _ => return .copy descriptor word
      | token, _ => unexpected token none

/-- A command without an end of its own, behind what has been read of it. -/
def readSimple : Nat → List (Octets × ScriptWord) → List ScriptWord → List Redirect →
    Reading Script
  | 0, assignments, words, redirects => return .simple 0 assignments words redirects
  | fuel + 1, assignments, words, redirects => do
    let token ← peekToken fuel
    let line := (← get).line
    match token, words, assignments, redirects with
    | .word word, _, _, _ =>
      discard (readToken fuel)
      let assignment := if words.isEmpty then word.assignment? else none
      let script ← match assignment with
        | some assignment => readSimple fuel (assignments ++ [assignment]) words redirects
        | none => readSimple fuel assignments (words ++ [word]) redirects
      match script with
      | .simple _ assignments words redirects => return .simple line assignments words redirects
      | script => return script
    | .redirect descriptor sign, _, _, _ =>
      discard (readToken fuel)
      let redirect ← readTarget fuel descriptor sign
      readSimple fuel assignments words (redirects ++ [redirect])
    | .operator "(", [name], [], [] =>
      discard (readToken fuel)
      let token ← readToken fuel
      match token with
      | .operator ")" => pure ()
      | _ => unexpected token (some "\")\"")
      let name := name.plain?.getD []
      if !isName name || specialCommands.contains (String.ofList name) then
        readFault "Bad function name"
      skipNewlines fuel
      let line := (← get).line
      return .define name line (← readCommand fuel)
    | _, _, _, _ => return .simple line assignments words redirects

/-- A condition behind `if` or `elif`, with what follows it. -/
def readBranch : Nat → Reading Script
  | 0 => return .nothing
  | fuel + 1 => do
    let condition ← readList fuel true
    expectKeyword fuel "then"
    let whenTrue ← readList fuel true
    match (← peekToken fuel).keyword? with
    | some "elif" =>
      discard (readToken fuel)
      return .branch condition whenTrue (← readBranch fuel)
    | some "else" =>
      discard (readToken fuel)
      let whenFalse ← readList fuel true
      expectKeyword fuel "fi"
      return .branch condition whenTrue whenFalse
    | _ =>
      expectKeyword fuel "fi"
      return .branch condition whenTrue .nothing

/-- A loop behind `while` or `until`. -/
def readLoop : Nat → Bool → Reading Script
  | 0, _ => return .nothing
  | fuel + 1, untilSuccess => do
    let condition ← readList fuel true
    expectKeyword fuel "do"
    let body ← readList fuel true
    expectKeyword fuel "done"
    return .loop untilSuccess condition body

/-- A loop behind `for`. -/
def readEach : Nat → Reading Script
  | 0 => return .nothing
  | fuel + 1 => do
    let name ← match ← readToken fuel with
      | .word word => pure (word.plain?.getD [])
      | _ => pure []
    if !isName name then readFault "Bad for loop variable"
    skipNewlines fuel
    let words ←
      if (← peekToken fuel).keyword? == some "in" then
        discard (readToken fuel)
        let words ← readWords fuel
        let token ← readToken fuel
        match token with
        | .newline | .operator ";" => pure words
        | _ => unexpected token none
      else
        match ← peekToken fuel with
        | .operator ";" => discard (readToken fuel)
        | _ => pure ()
        pure [[.parameter ['@'] .value true]]
    skipNewlines fuel
    expectKeyword fuel "do"
    let body ← readList fuel true
    expectKeyword fuel "done"
    return .each name words body

/-- Words, as long as there are any. -/
def readWords : Nat → Reading (List ScriptWord)
  | 0 => return []
  | fuel + 1 => do
    match ← peekToken fuel with
    | .word word =>
      discard (readToken fuel)
      return word :: (← readWords fuel)
    | _ => return []

/-- A choice behind `case`. -/
def readChoice : Nat → Reading Script
  | 0 => return .nothing
  | fuel + 1 => do
    match ← readToken fuel with
    | .word subject =>
      skipNewlines fuel
      expectKeyword fuel "in"
      return .choice subject (← readCases fuel)
    | token => unexpected token (some "word")

/-- The cases of a choice, up to its end. -/
def readCases : Nat → Reading (List (List ScriptWord × Script))
  | 0 => return []
  | fuel + 1 => do
    skipNewlines fuel
    if (← peekToken fuel).keyword? == some "esac" then
      discard (readToken fuel)
      return []
    match ← peekToken fuel with
    | .operator "(" => discard (readToken fuel)
    | _ => pure ()
    let patterns ← readPatterns fuel
    let body ← readList fuel false
    skipNewlines fuel
    let token ← readToken fuel
    match token with
    | .operator ";;" => return (patterns, body) :: (← readCases fuel)
    | _ =>
      if token.keyword? == some "esac" then return [(patterns, body)]
      else unexpected token (some "\";;\"")

/-- The patterns of a case, with the parenthesis behind them. -/
def readPatterns : Nat → Reading (List ScriptWord)
  | 0 => return []
  | fuel + 1 => do
    match ← readToken fuel with
    | .word word =>
      let token ← readToken fuel
      match token with
      | .operator "|" => return word :: (← readPatterns fuel)
      | .operator ")" => return [word]
      | _ => unexpected token (some "\")\"")
    | token => unexpected token (some "word")

end

/-! ## Command lines -/

/-- The rest of a command line behind a command. -/
def readLineFrom : Nat → Script → Reading Script
  | 0, script => return script
  | fuel + 1, script => do
    let more (script : Script) : Reading Script := do
      match ← peekToken fuel with
      | .newline | .finish =>
        discard (readToken fuel)
        return script
      | _ => readLineFrom fuel (.sequence script (← readChain fuel))
    let token ← readToken fuel
    match token with
    | .newline | .finish => return script
    | .operator ";" => more script
    | .operator "&" => more (.background script)
    | token => unexpected token none

/-- The next command line; nothing at the end. -/
def readLine (fuel : Nat) : Reading (Option Script) := do
  match ← peekToken fuel with
  | .newline =>
    discard (readToken fuel)
    return some .nothing
  | .finish => return none
  | _ => return some (← readLineFrom fuel (← readChain fuel))

namespace Source

/-- How deep reading a text can go. -/
def readingDepth (s : Octets) : Nat := 32 * s.length + 64

/-- A text from its start. -/
def ofText (s : Octets) (nextDocument : Nat) (aliases : List (Octets × Octets)) : Source where
  rest := s
  line := 1
  ahead := none
  announced := []
  documents := []
  nextDocument := nextDocument
  aliases := aliases
  inUse := []

/-- **The next command line**, with what follows it; nothing at the end of the script. -/
def readLine? (source : Source) : Except ReadFault (Option Script × Source) :=
  (readLine (readingDepth source.rest)).run source

end Source

end ContainerClients.Program
