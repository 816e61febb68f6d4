import ContainerClients.Program.Octets

/-!
# Scripts

A script of the shell is a tree: commands, and how they are put together.  The words of a command
are kept as they are written, with everything that is still to be expanded.

* `Piece`, `ScriptWord` — a word, with parameters, substituted commands and arithmetic.
* `Use` — how a parameter is used.
* `Redirect` — where a descriptor leads.
* `Script` — the tree.
-/

namespace ContainerClients.Program

/-- How a file is opened. -/
inductive Opening where
  /-- for reading -/
  | reading
  /-- for writing, from nothing -/
  | writing
  /-- for writing, even where existing files are to be kept -/
  | overwriting
  /-- for writing at the end -/
  | appending
  /-- for reading and writing -/
  | updating
deriving DecidableEq, Repr

/-- What a parameter's use does with the word behind an operator. -/
inductive Fallback where
  /-- `-`: the word in place of a missing value -/
  | replace
  /-- `=`: the word becomes the value -/
  | assign
  /-- `?`: the word is the complaint about a missing value -/
  | complain
  /-- `+`: the word in place of a value that is there -/
  | alternative
deriving DecidableEq, Repr

mutual

/-- A part of a word. -/
inductive Piece where
  /-- text -/
  | text (s : Octets) (quoted : Bool)
  /-- a pair of quotation marks, which stands for a field even when nothing is between them -/
  | quotes
  /-- the value of a parameter -/
  | parameter (name : Octets) (use : Use) (quoted : Bool)
  /-- the output of a script -/
  | output (script : Script) (quoted : Bool)
  /-- the value of an expression -/
  | arithmetic (expression : List Piece) (quoted : Bool)

/-- How a parameter is used. -/
inductive Use where
  /-- its value -/
  | value
  /-- the length of its value -/
  | length
  /-- its value or a word, as a fallback says; `orEmpty` when an empty value counts as missing -/
  | fallback (kind : Fallback) (orEmpty : Bool) (word : List Piece)
  /-- its value without what a pattern matches, at the front or at the end -/
  | trim (atEnd : Bool) (longest : Bool) (pattern : List Piece)
  /-- a use that there is not -/
  | bad

/-- Where a descriptor leads. -/
inductive Redirect where
  /-- to a file -/
  | file (descriptor : Nat) (opening : Opening) (target : List Piece)
  /-- where another one leads, or nowhere -/
  | copy (descriptor : Nat) (source : List Piece)
  /-- to a text in the script itself, by its number -/
  | document (descriptor : Nat) (number : Nat)

/-- **A script.** -/
inductive Script where
  /-- no command at all -/
  | nothing
  /-- a command, with the line that it starts in -/
  | simple (line : Nat) (assignments : List (Octets × List Piece)) (words : List (List Piece))
      (redirects : List Redirect)
  /-- one after the other -/
  | sequence (first second : Script)
  /-- the second when the first succeeds -/
  | both (first second : Script)
  /-- the second when the first fails -/
  | either (first second : Script)
  /-- the output of each is the input of the next -/
  | pipeline (parts : List Script)
  /-- success and failure exchanged -/
  | negated (script : Script)
  /-- beside what follows -/
  | background (script : Script)
  /-- again and again, as long as the condition succeeds, or until it does -/
  | loop (untilSuccess : Bool) (condition body : Script)
  /-- once for each field, in a variable -/
  | each (name : Octets) (words : List (List Piece)) (body : Script)
  /-- by a condition -/
  | branch (condition whenTrue whenFalse : Script)
  /-- by the first pattern that a word matches -/
  | choice (subject : List Piece) (cases : List (List (List Piece) × Script))
  /-- apart: nothing that it sets is kept -/
  | apart (script : Script)
  /-- with descriptors that lead elsewhere -/
  | redirected (script : Script) (redirects : List Redirect)
  /-- a function -/
  | define (name : Octets) (line : Nat) (body : Script)

end

/-- **A word** of a script. -/
abbrev ScriptWord := List Piece

instance : Inhabited Script := ⟨.nothing⟩

/-- A word that is plain text, without quotations and expansions. -/
def ScriptWord.plain? : ScriptWord → Option Octets
  | [] => some []
  | .text s false :: rest => (plain? rest).map (s ++ ·)
  | _ => none

/-- A letter or an underscore. -/
def startsName (c : Char) : Bool := c.isAlpha || c == '_'

/-- A character of a name behind the first. -/
def continuesName (c : Char) : Bool := c.isAlphanum || c == '_'

/-- The text is the name of a variable. -/
def isName : Octets → Bool
  | [] => false
  | c :: rest => startsName c && rest.all continuesName

/-- The variable that a word sets, with the word for its value. -/
def ScriptWord.assignment? : ScriptWord → Option (Octets × ScriptWord)
  | .text s false :: rest =>
    let name := s.takeWhile continuesName
    match s.drop name.length with
    | '=' :: value =>
      if isName name then
        some (name, if value.isEmpty then rest else .text value false :: rest)
      else none
    | _ => none
  | _ => none

/-- The parameters that are a single character. -/
def isSpecialParameter (c : Char) : Bool := "*@#?$!-".toList.contains c || c.isDigit

end ContainerClients.Program
