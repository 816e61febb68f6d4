import ContainerClients.Command

/-!
# Bridging a server

The bridge starts a server and copies bytes both ways: what the editor writes goes to the server,
and what the server writes goes to the editor, until the server closes its output.  Here a server is
what is left of it in the end; `Bridge.Step` has the copying in between.

* `Ended` — what is left of a server that has ended.
* `Spawn` — starting a server by its words, with all that the editor writes.
* `Bridge.start` — starting one; a command without words starts none.
-/

namespace ContainerClients

/-- **What is left of a server that has ended.** -/
structure Ended where
  /-- its exit status -/
  exit : Nat
  /-- all that it wrote -/
  output : List UInt8
deriving DecidableEq, Repr

/-- **Starting a server**: its words and all that the editor writes. -/
abbrev Spawn := List String → List UInt8 → Except Failure Ended

namespace Bridge

/-- **Starting a server** (`run_bridge`).  A command without words starts none, and the words have
to be such that can be passed on. -/
def start (spawn : Spawn) (argv : List String) (input : List UInt8) : Except Failure Ended :=
  if argv.isEmpty then .error (.invalidValue .emptyCommand)
  else if !Command.canBePassed argv then .error (.invalidValue .nulInArgument)
  else spawn argv input

end Bridge

end ContainerClients
