import ContainerClients.Program.Shell.Expansion

/-!
# Reading a line

The command `read` sets variables to the fields of a line.

* `lineCells` — a line of the input: a backslash hides the meaning of the next character.
* `takeField` — the first field of a line, and what follows it.
* `Act.setFields` — each variable is set to a field, the last one to all that is left.
* `Act.readLine` — the command.
-/

namespace ContainerClients.Program

/-- A line as cells, whether its end was found, and how many characters of the input it takes.  With
`plain`, backslashes are characters like others. -/
def lineCells (plain : Bool) : Octets → Nat → List Cell × Bool × Nat
  | [], count => ([], false, count)
  | '\n' :: _, count => ([], true, count + 1)
  | '\x00' :: rest, count => lineCells plain rest (count + 1)
  | '\\' :: c :: rest, count =>
    if plain then
      let (cells, ended, count) := lineCells plain (c :: rest) (count + 1)
      (.result '\\' :: cells, ended, count)
    else
      let (cells, ended, count) := lineCells plain rest (count + 2)
      (if c == '\n' then cells else .quoted c :: cells, ended, count)
  | c :: rest, count =>
    let (cells, ended, count) := lineCells plain rest (count + 1)
    (if c == '\\' && !plain then cells else .result c :: cells, ended, count)

/-- A separator that is a blank. -/
def isSeparatingBlank (separators : Octets) : Cell → Bool
  | .result c => separators.contains c && (c == ' ' || c == '\t' || c == '\n')
  | _ => false

/-- A separator. -/
def isSeparator (separators : Octets) : Cell → Bool
  | .result c => separators.contains c
  | _ => false

/-- **The first field of a line**, and what follows it and its separator. -/
def takeField (separators : Octets) (cells : List Cell) : List Cell × List Cell :=
  let cells := cells.dropWhile (isSeparatingBlank separators)
  let field := cells.takeWhile (!isSeparator separators ·)
  let behind := (cells.drop field.length).dropWhile (isSeparatingBlank separators)
  (field, match behind with
    | cell :: rest =>
      if isSeparator separators cell then rest.dropWhile (isSeparatingBlank separators)
      else behind
    | [] => [])

/-- What the last variable is set to: a single field without its separator, or all that is left
without the blanks at its end. -/
def lastFields (separators : Octets) (cells : List Cell) : Octets :=
  match splitFields separators cells with
  | [] => []
  | [field] => fieldText field
  | _ => Act.cellsText (Text.dropEndWhile (isSeparatingBlank separators)
      (cells.dropWhile (isSeparatingBlank separators)))

namespace Act

/-- **Sets variables to the fields of a line.** -/
def setFields (separators : Octets) : List Octets → List Cell → Act PUnit
  | [], _ => return
  | [name], cells => assign name (lastFields separators cells)
  | name :: others, cells => do
    let (field, rest) := takeField separators cells
    assign name (cellsText field)
    setFields separators others rest

/-- **The command `read`.** -/
def readLine (args : List Octets) : Act PUnit := do
  let (plain, names) ← flags false args
  if names.isEmpty then fail "arg count".toList
  let shell ← get
  match shell.descriptors.lookup 0 with
  | none => setStatus 1
  | some stream =>
    let (cells, ended, count) := lineCells plain (shell.machine.readable stream) 0
    modify fun shell => { shell with machine := shell.machine.advance stream count }
    setFields (← separators) names cells
    setStatus (if ended then 0 else 1)
where
  /-- The options in front of the names. -/
  flags (plain : Bool) : List Octets → Act (Bool × List Octets)
    | ['-', '-'] :: rest => return (plain, rest)
    | ['-', 'r'] :: rest => flags true rest
    | ['-', 'p'] :: _ :: rest => flags plain rest
    | ['-', 'r', 'p'] :: _ :: rest => flags true rest
    | ('-' :: c :: _) :: _ => fail ("Illegal option -".toList ++ [c])
    | rest => return (plain, rest)

end Act

end ContainerClients.Program
