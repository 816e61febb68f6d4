import ContainerClients.Program.Pattern
import ContainerClients.Program.Shell.Arithmetic

/-!
# Expanding words

A word of a script stands for any number of fields.

* `Cell` — a character of an expanded word, with where it comes from.
* `Act.expandPieces` — parameters, substituted commands and arithmetic are put in.
* `splitFields` — the fields, separated where the result of an expansion has a separator.
* `Act.matchFiles` — patterns are replaced by the names of files.
* `Act.expandWord`, `Act.expandText`, `Act.expandPattern` — a word as fields, as one text and as a
  pattern.

Substituting a command is left to `capture`, which carries out a script apart and gives its output.
-/

namespace ContainerClients.Program

/-- **A character of an expanded word.** -/
inductive Cell where
  /-- a character of the script -/
  | plain (c : Char)
  /-- a character of a result, which may separate fields -/
  | result (c : Char)
  /-- a quoted character -/
  | quoted (c : Char)
  /-- a place with quotation marks: there is a field, even an empty one -/
  | mark
  /-- the border between two arguments -/
  | border (quoted : Bool)
deriving DecidableEq, Repr

/-- The character, if there is one. -/
def Cell.char? : Cell → Option Char
  | .plain c | .result c | .quoted c => some c
  | .mark | .border _ => none

/-- A character and whether it is quoted. -/
def Cell.marked? : Cell → Option Marked
  | .plain c | .result c => some (c, false)
  | .quoted c => some (c, true)
  | .mark | .border _ => none

/-- The cells of a result. -/
def resultCells (quoted : Bool) (s : Octets) : List Cell :=
  s.map fun c => if quoted then .quoted c else .result c

/-- How a word is expanded. -/
structure ExpandMode where
  /-- the arguments of the script are fields of their own -/
  inFields : Bool
  /-- text of the script is like a result, as behind an operator in braces -/
  asResult : Bool
  /-- tildes stand for folders -/
  tildes : Bool
  /-- tildes do so behind colons too, as where a variable is set -/
  assigned : Bool

/-- A word as one text, as it is. -/
def ExpandMode.plain : ExpandMode := ⟨false, false, false, false⟩

/-! ## Fields -/

/-- Fields in the making. -/
structure Splitting where
  /-- the complete fields, the last one first -/
  complete : List (List Marked)
  /-- the characters of the open field, the last one first -/
  current : List Marked
  /-- there is an open field -/
  isOpen : Bool
  /-- the last field was ended by blanks, to which another separator may still belong -/
  endedByBlank : Bool

namespace Splitting

/-- Ends the open field. -/
def close (splitting : Splitting) : Splitting :=
  { splitting with complete := splitting.current.reverse :: splitting.complete, current := [],
                   isOpen := false }

/-- Adds a character to the open field. -/
def add (splitting : Splitting) (marked : Marked) : Splitting :=
  { splitting with current := marked :: splitting.current, isOpen := true, endedByBlank := false }

/-- A blank that separates fields. -/
def blank (splitting : Splitting) : Splitting :=
  if splitting.isOpen then { splitting.close with endedByBlank := true } else splitting

/-- A separator other than a blank. -/
def separator (splitting : Splitting) : Splitting :=
  if splitting.isOpen then { splitting.close with endedByBlank := false }
  else if splitting.endedByBlank then { splitting with endedByBlank := false }
  else splitting.close

/-- Another cell. -/
def step (separators : Octets) (splitting : Splitting) : Cell → Splitting
  | .plain c => splitting.add (c, false)
  | .quoted c => splitting.add (c, true)
  | .mark => { splitting with isOpen := true, endedByBlank := false }
  | .border true => { splitting.close with endedByBlank := false }
  | .border false => splitting.blank
  | .result c =>
    if !separators.contains c then splitting.add (c, false)
    else if c == ' ' || c == '\t' || c == '\n' then splitting.blank
    else splitting.separator

end Splitting

/-- **The fields of an expanded word.** -/
def splitFields (separators : Octets) (cells : List Cell) : List (List Marked) :=
  let splitting := cells.foldl (Splitting.step separators) ⟨[], [], false, false⟩
  (if splitting.isOpen then splitting.close else splitting).complete.reverse

/-! ## Names of files -/

/-- The pieces of a field between slashes. -/
def fieldPieces (field : List Marked) : List (List Marked) :=
  match field with
  | [] => [[]]
  | marked :: rest =>
    if marked.1 == '/' then [] :: fieldPieces rest
    else match fieldPieces rest with
      | first :: others => (marked :: first) :: others
      | [] => [[marked]]

/-- The names of files below a folder that match pieces; each comes with what is written in front
of it. -/
def matchPieces (files : Files) (folder : Path) : Octets → Path → List (List Marked) → List Octets
  | written, _, [] => [written]
  | written, path, piece :: rest =>
    let pattern := Pattern.ofMarked piece
    let text := piece.map (·.1)
    let slash : Octets := if rest.isEmpty then [] else ['/']
    if !pattern.isOpen then
      let next := Path.resolve path text
      let there := text.isEmpty || (files.node? next).isSome
      if there then matchPieces files folder (written ++ text ++ slash) next rest else []
    else
      let hidden := piece.head?.any (·.1 == '.')
      (files.names path).flatMap fun name =>
        if (name.head? != some '.' || hidden) && pattern.accepts name &&
          (rest.isEmpty || files.isFolder (path ++ [name])) then
          matchPieces files folder (written ++ name ++ slash) (path ++ [name]) rest
        else []

/-- A field as its characters. -/
def fieldText (field : List Marked) : Octets := field.map (·.1)

/-! ## Expansion -/

namespace Act

/-- The letters of the options that are set. -/
def optionLetters (options : Options) : Octets :=
  [('u', options.refuseUnset), ('a', options.exportAll), ('C', options.keepFiles),
    ('v', options.showLines), ('x', options.showCommands), ('n', options.readOnly),
    ('f', options.keepPatterns), ('e', options.stopOnFailure)].filterMap fun (c, isSet) =>
      if isSet then some c else none

/-- The number of the shell among the programs that run. -/
def shellNumber : Nat := 4242

/-- What stands between the arguments where they are one text. -/
def joint : Act Octets := return (← separators).head?.toList

/-- The value of a parameter as one text. -/
def parameter? (name : Octets) : Act (Option Octets) := do
  let shell ← get
  match name with
  | ['@'] | ['*'] => return some ((← joint).intercalate shell.args)
  | ['#'] => return some (Octets.ofNat shell.args.length)
  | ['?'] => return some (Octets.ofNat shell.status)
  | ['$'] => return some (Octets.ofNat shellNumber)
  | ['!'] => return shell.lastJob.map Octets.ofNat
  | ['-'] => return some (optionLetters shell.options)
  | _ =>
    match Octets.natural? name with
    | some 0 => return some shell.name
    | some n => return shell.args[n - 1]?
    | none => value? name

/-- A parameter has no value. -/
def failUnset {α : Type} (name : Octets) (message : Octets) : Act α :=
  fail (name ++ ": ".toList ++ message)

/-- The value of a parameter that may have to be set. -/
def parameter (name : Octets) : Act Octets := do
  match ← parameter? name with
  | some s => return s
  | none =>
    if (← get).options.refuseUnset then failUnset name "parameter not set".toList
    return []

/-- The cells of a parameter's value. -/
def parameterCells (mode : ExpandMode) (name : Octets) (quoted : Bool) : Act (List Cell) := do
  if mode.inFields && (name == ['@'] || (name == ['*'] && !quoted)) then
    return [Cell.border quoted].intercalate ((← get).args.map fun s =>
      (if quoted then [.mark] else []) ++ resultCells quoted s)
  else return resultCells quoted (← parameter name)

/-- The text of cells. -/
def cellsText (cells : List Cell) : Octets := cells.filterMap Cell.char?

/-- The folder of a user, for the text behind a tilde. -/
def homeOf (user : Octets) : Act (Option Octets) := do
  if user.isEmpty then value? "HOME".toList
  else if user == "root".toList then return some "/root".toList
  else return none

/-- Whether a character ends the name behind a tilde. -/
def endsUser (assigned : Bool) (c : Char) : Bool := c == '/' || (assigned && c == ':')

/-- The text behind a tilde at the front of unquoted text, when it stands for a folder: that folder
and the rest.  `last` when nothing of the word follows the text. -/
def tilde? (assigned last : Bool) (s : Octets) : Act (Option (Octets × Octets)) := do
  match s with
  | '~' :: rest =>
    let user := rest.takeWhile (!endsUser assigned ·)
    if user.length = rest.length && !last then return none
    return (← homeOf user).map (·, rest.drop user.length)
  | _ => return none

/-- The cells of unquoted text. -/
def textCells (mode : ExpandMode) (s : Octets) : List Cell :=
  s.map fun c => if mode.asResult then .result c else .plain c

/-- The cells of unquoted text with its tildes expanded: at its front if `first`, and behind colons
where a variable is set; the number bounds its length. -/
def tildeCells (mode : ExpandMode) (last : Bool) : Nat → Bool → Octets → Act (List Cell)
  | 0, _, s => return textCells mode s
  | fuel + 1, first, s => do
    match ← (if first then tilde? mode.assigned last s else pure none) with
    | some (home, rest) =>
      return resultCells true home ++ (← tildeCells mode last fuel false rest)
    | none =>
      let before := s.takeWhile (· != ':')
      match mode.assigned, s.drop before.length with
      | true, colon :: rest =>
        return textCells mode (before ++ [colon]) ++ (← tildeCells mode last fuel true rest)
      | _, _ => return textCells mode s

variable (capture : Script → Act Octets)

mutual

/-- **The cells of a word**, or of the rest of one. -/
def expandPieces (mode : ExpandMode) : Bool → List Piece → Act (List Cell)
  | _, [] => return []
  | first, .text s false :: rest => do
    let cells ← if mode.tildes then tildeCells mode rest.isEmpty (s.length + 1) first s
      else pure (textCells mode s)
    return cells ++ (← expandPieces mode false rest)
  | _, piece :: rest => do
    let cells ← expandPiece mode piece
    return cells ++ (← expandPieces mode false rest)

/-- The cells of a piece of a word. -/
def expandPiece (mode : ExpandMode) : Piece → Act (List Cell)
  | .text s quoted => return if quoted then resultCells true s else textCells mode s
  | .quotes => return [.mark]
  | .parameter name use quoted => expandUse mode name quoted use
  | .output script quoted => return resultCells quoted (← capture script)
  | .arithmetic expression quoted => do
    let cells ← expandPieces .plain true expression
    return resultCells quoted (← calculate (cellsText cells))

/-- The cells of a use of a parameter. -/
def expandUse (mode : ExpandMode) (name : Octets) (quoted : Bool) : Use → Act (List Cell)
  | .value => parameterCells mode name quoted
  | .length => return resultCells quoted (Octets.ofNat (← parameter name).length)
  | .trim atEnd longest pattern => do
    let s ← parameter name
    let cells ← expandPieces .plain true pattern
    let pattern := Pattern.ofMarked (cells.filterMap Cell.marked?)
    return resultCells quoted
      (if atEnd then pattern.trimEnd longest s else pattern.trimStart longest s)
  | .bad => fail "Bad substitution".toList
  | .fallback kind orEmpty word => do
    let found ← parameter? name
    let missing := found.isNone || (orEmpty && found == some [])
    let replaced : Act (List Cell) := 
      expandPieces { mode with asResult := !quoted, tildes := !quoted } true word
    match kind, missing with
    | .replace, true | .alternative, false => replaced
    | .replace, false | .assign, false | .complain, false => parameterCells mode name quoted
    | .alternative, true => return []
    | .assign, true =>
      let s := cellsText (← expandPieces { ExpandMode.plain with tildes := !quoted } true word)
      if !isName name then fail (name ++ ": bad variable name".toList)
      assign name s
      return resultCells quoted s
    | .complain, true =>
      let s := cellsText (← expandPieces { ExpandMode.plain with tildes := !quoted } true word)
      failUnset name
        (if !s.isEmpty then s
          else if orEmpty then "parameter not set or null".toList
          else "parameter not set".toList)

end

/-- The names of files that a field stands for, or its text where there are none. -/
def matchFiles (field : List Marked) : Act (List Octets) := do
  let shell ← get
  let pieces := fieldPieces field
  let mayMatch := field.any fun (c, quoted) => !quoted && (c == '*' || c == '?' || c == '[')
  if shell.options.keepPatterns || !mayMatch ||
      !(pieces.any fun piece => (Pattern.ofMarked piece).isOpen) then
    return [fieldText field]
  let start := if field.head?.any (·.1 == '/') then [] else shell.folder
  match matchPieces shell.machine.files shell.folder [] start pieces with
  | [] => return [fieldText field]
  | names => return names

/-- **The fields that a word stands for.** -/
def expandWord (word : ScriptWord) : Act (List Octets) := do
  let cells ← expandPieces capture ⟨true, false, true, false⟩ true word
  let fields ← (splitFields (← separators) cells).mapM matchFiles
  return fields.flatten

/-- The fields that words stand for. -/
def expandWords (words : List ScriptWord) : Act (List Octets) :=
  return (← words.mapM (expandWord capture)).flatten

/-- **The text that a word stands for** where it is not split; `assigned` where a variable is
set. -/
def expandText (assigned : Bool) (word : ScriptWord) : Act Octets := do
  return cellsText (← expandPieces capture ⟨false, false, true, assigned⟩ true word)

/-- **The pattern that a word is.** -/
def expandPattern (word : ScriptWord) : Act Pattern := do
  let cells ← expandPieces capture ⟨false, false, true, false⟩ true word
  return Pattern.ofMarked (cells.filterMap Cell.marked?)

/-- The text of a document, in which nothing is split and no tilde is expanded. -/
def expandDocument (word : ScriptWord) : Act Octets := do
  return cellsText (← expandPieces capture .plain true word)

end Act

end ContainerClients.Program
