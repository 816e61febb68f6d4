/-!
# Words of a command line

A command line is cut into words as a shell does it, without any expansion.

* Space, tab, carriage return and line feed separate words.
* A backslash takes the next character as it is.
* Between single quotes every character is itself.
* Between double quotes a backslash takes a following `"` or `\`, and is itself before any other
  character.

`readWords` reads the words, leaving out the empty ones; `quoteWord` writes one word so that it is
read back, and `showWords` writes several.
-/

namespace ContainerClients.Command

/-- **Why a text is no command line.** -/
inductive WordFault where
  /-- a quotation that does not end -/
  | openQuotation
  /-- a backslash with nothing behind it -/
  | nothingEscaped
deriving DecidableEq, Repr

/-- **Where the reader stands.** -/
inductive Mode where
  /-- outside quotations -/
  | plain
  /-- between single quotes -/
  | single
  /-- between double quotes -/
  | double
  /-- behind a backslash outside quotations -/
  | escaped
  /-- behind a backslash between double quotes -/
  | escapedInDouble
deriving DecidableEq, Repr

/-- The characters between words. -/
def isSeparator (c : Char) : Bool := c == ' ' || c == '\t' || c == '\r' || c == '\n'

/-- Puts a word in front, unless it is empty. -/
def consWord (word : List Char) (others : List (List Char)) : List (List Char) :=
  if word.isEmpty then others else word :: others

/-- Reading on in a mode, with the part of a word that is read already. -/
def readFrom (mode : Mode) (word : List Char) : List Char → Except WordFault (List (List Char))
  | [] =>
    match mode with
    | .plain => .ok (consWord word [])
    | .single | .double => .error .openQuotation
    | .escaped | .escapedInDouble => .error .nothingEscaped
  | c :: rest =>
    match mode with
    | .plain =>
      if isSeparator c then (readFrom .plain [] rest).map (consWord word)
      else if c = '\'' then readFrom .single word rest
      else if c = '"' then readFrom .double word rest
      else if c = '\\' then readFrom .escaped word rest
      else readFrom .plain (word ++ [c]) rest
    | .single =>
      if c = '\'' then readFrom .plain word rest else readFrom .single (word ++ [c]) rest
    | .double =>
      if c = '"' then readFrom .plain word rest
      else if c = '\\' then readFrom .escapedInDouble word rest
      else readFrom .double (word ++ [c]) rest
    | .escaped => readFrom .plain (word ++ [c]) rest
    | .escapedInDouble =>
      if c = '"' ∨ c = '\\' then readFrom .double (word ++ [c]) rest
      else readFrom .double (word ++ ['\\', c]) rest

/-- **The words of a command line** that are not empty. -/
def readWords (s : List Char) : Except WordFault (List (List Char)) := readFrom .plain [] s

/-! ## Writing words -/

/-- Characters that need no quotation. -/
def isSafe (c : Char) : Bool := c.isAlphanum || "_@%+=:,./-".toList.contains c

/-- One character between single quotes.  A single quote leaves the quotation, stands between
double quotes, and enters it again. -/
def quotedChar (c : Char) : List Char := if c = '\'' then "'\"'\"'".toList else [c]

/-- **A word as written**: as itself when it is safe, between single quotes otherwise. -/
def quoteWord (word : List Char) : List Char :=
  if !word.isEmpty && word.all isSafe then word else '\'' :: word.flatMap quotedChar ++ ['\'']

/-- **Words as written**, separated by spaces. -/
def showWords (words : List (List Char)) : List Char := [' '].intercalate (words.map quoteWord)

end ContainerClients.Command
