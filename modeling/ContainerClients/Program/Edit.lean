import ContainerClients.Program.Regex.Reader

/-!
# Scripts of the line editor

A script of the line editor is a list of commands.  Each line of a text is read, goes through the
commands that select it, and is written.

* `EditAddress`, `EditSelection` — the lines that a command is for.
* `ReplacementPart`, `Substitution` — replacing what a regular expression stands for.
* `EditAction`, `EditCommand`, `EditScript` — commands.
* `EditFault` — what is wrong with a script.
-/

namespace ContainerClients.Program

/-- **A line or many lines.** -/
inductive EditAddress where
  /-- the line of a number -/
  | line (n : Nat)
  /-- the last line -/
  | lastLine
  /-- a line in which a regular expression occurs, or the one that was used last -/
  | regex (regex : Option Regex) (rules : RegexRules)
  /-- a line and every so many behind it -/
  | every (first step : Nat)
  /-- so many lines behind the first -/
  | behind (count : Nat)
  /-- the next line with a number that so many divide -/
  | multiple (count : Nat)
deriving DecidableEq, Repr

/-- **The lines that a command is for.** -/
inductive EditSelection where
  /-- all lines -/
  | all
  /-- lines -/
  | at (address : EditAddress)
  /-- lines from one to another -/
  | between (first last : EditAddress)
deriving DecidableEq, Repr

/-- A change between capital and small letters. -/
inductive Casing where
  /-- what follows is in capital letters -/
  | upper
  /-- what follows is in small letters -/
  | lower
  /-- the next letter is a capital -/
  | nextUpper
  /-- the next letter is a small one -/
  | nextLower
  /-- what follows is as it is -/
  | plain
deriving DecidableEq, Repr

/-- **A part of a replacement.** -/
inductive ReplacementPart where
  /-- a text -/
  | text (s : List Char)
  /-- the text of a group, or all that is replaced for 0 -/
  | group (number : Nat)
  /-- a change between capital and small letters -/
  | casing (casing : Casing)
deriving DecidableEq, Repr

/-- **A substitution.** -/
structure Substitution where
  /-- what is replaced; nothing for the regular expression that was used last -/
  regex : Option Regex
  /-- how it is applied -/
  rules : RegexRules
  /-- what takes its place -/
  replacement : List ReplacementPart
  /-- the first occurrence that is replaced -/
  which : Nat
  /-- those behind it are replaced, too -/
  all : Bool
  /-- the line is written if anything was replaced -/
  print : Bool
  /-- the file that it is written to, too -/
  file : Option (List Char)
deriving DecidableEq, Repr

/-- **What a command does.** -/
inductive EditAction where
  /-- the start of a block: lines that are not selected go on behind its end -/
  | opening
  /-- the end of a block -/
  | closing
  /-- a comment -/
  | nothing
  /-- a place to go to -/
  | label (name : List Char)
  /-- goes to a label, or to the end -/
  | goto (name : List Char)
  /-- goes to a label if anything was replaced since the line was read -/
  | gotoIf (name : List Char)
  /-- goes to a label if nothing was replaced since the line was read -/
  | gotoUnless (name : List Char)
  /-- a substitution -/
  | substitute (substitution : Substitution)
  /-- characters take the place of others -/
  | exchange (pairs : List (Char × Char))
  /-- the line is dropped -/
  | delete
  /-- the first line is dropped, and the commands are gone through again -/
  | deleteFirst
  /-- the line is written -/
  | print
  /-- the first line is written -/
  | printFirst
  /-- the next line is read -/
  | next
  /-- the next line is read behind this one -/
  | appendNext
  /-- the line is taken from the store -/
  | fromStore (adds : Bool)
  /-- the line is put into the store -/
  | toStore (adds : Bool)
  /-- the line and the store change places -/
  | swapStore
  /-- a text is written behind the line -/
  | append (s : List Char)
  /-- a text is written in front of the line -/
  | insert (s : List Char)
  /-- a text is written in place of the line -/
  | change (s : List Char)
  /-- the end -/
  | quit (status : Nat) (print : Bool)
  /-- the number of the line is written -/
  | number
  /-- a file is written behind the line -/
  | readFile (name : List Char)
  /-- the next line of a file is written behind the line -/
  | readFileLine (name : List Char)
  /-- the line is written to a file -/
  | writeFile (name : List Char)
  /-- the first line is written to a file -/
  | writeFirst (name : List Char)
  /-- the line is written so that all of it can be seen -/
  | list (width : Option Nat)
  /-- the name of the file is written -/
  | fileName
  /-- the line is made empty -/
  | clear
deriving DecidableEq, Repr

/-- **A command.** -/
structure EditCommand where
  /-- the lines that it is for … -/
  selection : EditSelection
  /-- … or is not for -/
  inverted : Bool
  /-- what it does -/
  action : EditAction
deriving DecidableEq, Repr

/-- **A script.** -/
abbrev EditScript := List EditCommand

/-- **What is wrong with a script.** -/
inductive EditFault where
  /-- there is no such command -/
  | unknownCommand (c : Char)
  /-- there is no command behind an address -/
  | missingCommand
  /-- something follows a command -/
  | extra
  /-- a comma where it does not belong -/
  | comma
  /-- a second mark that inverts -/
  | inversions
  /-- line 0 where it does not belong -/
  | lineZero
  /-- a number of lines behind nothing -/
  | behindNothing
  /-- the regular expression of an address is not closed -/
  | openAddress
  /-- a substitution is not closed -/
  | openSubstitution
  /-- an exchange is not closed -/
  | openExchange
  /-- the texts of an exchange have not the same length -/
  | exchangeLengths
  /-- a substitution has no such option -/
  | substitutionOption
  /-- a substitution has an option twice -/
  | doubled (what : String)
  /-- a substitution of the occurrence 0 -/
  | occurrenceZero
  /-- a group that does not exist -/
  | reference (number : Nat)
  /-- a regular expression is wrong -/
  | regex (fault : RegexFault)
  /-- there is no text -/
  | missingText
  /-- there is no name of a file -/
  | missingFile
  /-- a command is for one line at most -/
  | oneAddress
  /-- a label has no name -/
  | missingLabel
  /-- a label has addresses -/
  | labelAddress
  /-- a comment has addresses -/
  | commentAddress
  /-- the end of a block without its start -/
  | closing
  /-- the start of a block without its end -/
  | opening
  /-- a label that does not exist -/
  | noLabel (name : List Char)
deriving DecidableEq, Repr

/-- The kinds of quotation marks around a command's letter. -/
def letterInMarks (c : String) : String := String.singleton (Char.ofNat 96) ++ c ++ "'"

/-- How the editor speaks of a fault. -/
def EditFault.message : EditFault → String
  | .unknownCommand c => "unknown command: " ++ letterInMarks (String.singleton c)
  | .missingCommand => "missing command"
  | .extra => "extra characters after command"
  | .comma => "unexpected " ++ letterInMarks ","
  | .inversions => "multiple " ++ letterInMarks "!" ++ "s"
  | .lineZero => "invalid usage of line address 0"
  | .behindNothing => "invalid usage of +N or ~N as first address"
  | .openAddress => "unterminated address regex"
  | .openSubstitution => "unterminated " ++ letterInMarks "s" ++ " command"
  | .openExchange => "unterminated " ++ letterInMarks "y" ++ " command"
  | .exchangeLengths => "strings for " ++ letterInMarks "y" ++ " command are different lengths"
  | .substitutionOption => "unknown option to " ++ letterInMarks "s"
  | .doubled what => "multiple " ++ what ++ " options to " ++ letterInMarks "s" ++ " command"
  | .occurrenceZero => "number option to " ++ letterInMarks "s" ++ " command may not be zero"
  | .reference number => "invalid reference \\" ++ toString number ++ " on " ++
      letterInMarks "s" ++ " command's RHS"
  | .regex fault => fault.message
  | .missingText => "expected \\ after " ++ letterInMarks "a" ++ ", " ++ letterInMarks "c" ++
      " or " ++ letterInMarks "i"
  | .missingFile => "missing filename in r/R/w/W commands"
  | .oneAddress => "command only uses one address"
  | .missingLabel => "\":\" lacks a label"
  | .labelAddress => ": doesn't want any addresses"
  | .commentAddress => "comments don't accept any addresses"
  | .closing => "unexpected " ++ letterInMarks "\x7d"
  | .opening => "unmatched " ++ letterInMarks "\x7b"
  | .noLabel name => "can't find label for jump to " ++ letterInMarks (String.ofList name)

end ContainerClients.Program
