/-!
# The bridge at work

While the server runs, one pump copies what the editor writes to the server and another copies what
the server writes to the editor.  Both read chunks of any length up to `chunkSize` and hand them on
in pieces of any length, and the pumps and the server take their steps in any order.

* `IsRead` — what one read takes from the front.
* `Inward`, `Inward.Step` — the direction from the editor to the server.  Its pump ends with the
  editor's input, with a server that reads no more, with a failed read, or because copying is
  cancelled.
* `Server`, `Server.Step` — the server, which may write, stop reading, close its output or end at
  any time.
* `Outward`, `Outward.Step` — the direction from the server to the editor.  Its pump ends with the
  server's output.
* `State`, `Step`, `Run` — all three together.  The end of the output cancels the pump of the other
  direction, and the bridge returns the server's exit status when both pumps have ended.

`Server.written` is a record of the past that no step reads: all that the server has written.
-/

namespace ContainerClients

namespace Bridge

/-- The longest chunk that is read at once. -/
def chunkSize : Nat := 65536

/-- **One read**: a chunk from the front of what is there, and what it leaves. -/
structure IsRead (source chunk rest : List UInt8) : Prop where
  /-- the chunk is the front -/
  eq_append : source = chunk ++ rest
  /-- a read waits until there is something -/
  ne_nil : chunk ≠ []
  /-- it takes a bounded number of bytes -/
  length_le : chunk.length ≤ chunkSize

/-! ## From the editor to the server -/

/-- **Why copying to the server has ended.** -/
inductive Cause where
  /-- the editor has closed its end -/
  | finished
  /-- the server has stopped reading -/
  | refused
  /-- reading from the editor has failed -/
  | failed
  /-- the other direction has ended -/
  | cancelled
deriving DecidableEq, Repr

/-- **Where copying to the server stands.** -/
inductive InputPump where
  /-- it waits for the editor -/
  | reading
  /-- it hands a chunk to the server, of which this is left -/
  | sending (rest : List UInt8)
  /-- it has ended, and the server's input is closed -/
  | closed (cause : Cause)
deriving DecidableEq, Repr

/-- What a pump has read and not handed on. -/
def InputPump.held : InputPump → List UInt8
  | .sending rest => rest
  | .reading | .closed _ => []

/-- **The direction from the editor to the server** (`_pump_input`). -/
structure Inward where
  /-- what the editor writes and the bridge has not read -/
  unread : List UInt8
  /-- where copying stands -/
  pump : InputPump
  /-- what has been handed to the server -/
  delivered : List UInt8
deriving DecidableEq, Repr

/-- **One step towards the server**, that may read or not, while the other direction goes on or has
ended. -/
inductive Inward.Step (serverReads outputEnded : Bool) : Inward → Inward → Prop where
  /-- a chunk is read from the editor -/
  | read (unread chunk rest delivered : List UInt8) : IsRead unread chunk rest →
      Step serverReads outputEnded ⟨unread, .reading, delivered⟩ ⟨rest, .sending chunk, delivered⟩
  /-- a piece of the chunk goes to the server -/
  | send (unread piece rest delivered : List UInt8) : serverReads = true →
      Step serverReads outputEnded ⟨unread, .sending (piece ++ rest), delivered⟩
        ⟨unread, .sending rest, delivered ++ piece⟩
  /-- the whole chunk has gone to the server -/
  | sent (unread delivered : List UInt8) :
      Step serverReads outputEnded ⟨unread, .sending [], delivered⟩ ⟨unread, .reading, delivered⟩
  /-- the chunk meets a server that reads no more: what is left of it is lost -/
  | refuse (unread rest delivered : List UInt8) : serverReads = false →
      Step serverReads outputEnded ⟨unread, .sending rest, delivered⟩
        ⟨unread, .closed .refused, delivered⟩
  /-- the editor has closed its end -/
  | finish (delivered : List UInt8) :
      Step serverReads outputEnded ⟨[], .reading, delivered⟩ ⟨[], .closed .finished, delivered⟩
  /-- reading from the editor fails -/
  | fail (unread delivered : List UInt8) :
      Step serverReads outputEnded ⟨unread, .reading, delivered⟩
        ⟨unread, .closed .failed, delivered⟩
  /-- copying is cancelled while a read is under way: a chunk that comes out of it is lost -/
  | cancelReading (lost unread delivered : List UInt8) : outputEnded = true →
      lost.length ≤ chunkSize →
      Step serverReads outputEnded ⟨lost ++ unread, .reading, delivered⟩
        ⟨unread, .closed .cancelled, delivered⟩
  /-- copying is cancelled in the middle of a chunk: what is left of it is lost -/
  | cancelSending (unread rest delivered : List UInt8) : outputEnded = true →
      Step serverReads outputEnded ⟨unread, .sending rest, delivered⟩
        ⟨unread, .closed .cancelled, delivered⟩

/-! ## The server -/

/-- **The server**, as far as the bridge sees it. -/
structure Server where
  /-- whether it still reads its input -/
  reading : Bool
  /-- all that it has written -/
  written : List UInt8
  /-- whether it has closed its output -/
  outputClosed : Bool
  /-- its exit status, once it has ended -/
  exit : Option Int
deriving DecidableEq, Repr

/-- **One step of the server**, with what it writes.  A program that it has started may still hold
its output when it has ended, so that the output closes in a step of its own. -/
inductive Server.Step : List UInt8 → Server → Server → Prop where
  /-- it reads no more -/
  | stopReading (server : Server) : Step [] server { server with reading := false }
  /-- it writes -/
  | write (server : Server) (bytes : List UInt8) : server.outputClosed = false →
      Step bytes server { server with written := server.written ++ bytes }
  /-- it closes its output -/
  | closeOutput (server : Server) : Step [] server { server with outputClosed := true }
  /-- it ends -/
  | exit (server : Server) (code : Int) : server.exit = none →
      Step [] server { server with exit := some code }

/-! ## From the server to the editor -/

/-- **Where copying to the editor stands.** -/
inductive OutputPump where
  /-- it waits for the server -/
  | reading
  /-- it hands a chunk to the editor, of which this is left -/
  | writing (rest : List UInt8)
  /-- the server's output has been copied -/
  | finished
  /-- writing to the editor has failed, or the bridge has given up -/
  | failed
deriving DecidableEq, Repr

/-- What a pump has read and not handed on. -/
def OutputPump.held : OutputPump → List UInt8
  | .writing rest => rest
  | .reading | .finished | .failed => []

/-- Whether copying to the editor has ended. -/
def OutputPump.hasEnded : OutputPump → Bool
  | .finished | .failed => true
  | .reading | .writing _ => false

/-- **The direction from the server to the editor** (`_pump_output`). -/
structure Outward where
  /-- what the server has written and the bridge has not read -/
  pending : List UInt8
  /-- where copying stands -/
  pump : OutputPump
  /-- what has been handed to the editor -/
  sink : List UInt8
deriving DecidableEq, Repr

/-- The server writes: there is more to read. -/
def Outward.receive (outward : Outward) (bytes : List UInt8) : Outward :=
  { outward with pending := outward.pending ++ bytes }

/-- **One step towards the editor**, while the server's output is open or closed. -/
inductive Outward.Step (outputClosed : Bool) : Outward → Outward → Prop where
  /-- a chunk is read from the server -/
  | read (pending chunk rest sink : List UInt8) : IsRead pending chunk rest →
      Step outputClosed ⟨pending, .reading, sink⟩ ⟨rest, .writing chunk, sink⟩
  /-- a piece of the chunk goes to the editor -/
  | write (pending piece rest sink : List UInt8) :
      Step outputClosed ⟨pending, .writing (piece ++ rest), sink⟩
        ⟨pending, .writing rest, sink ++ piece⟩
  /-- the whole chunk has gone to the editor -/
  | written (pending sink : List UInt8) :
      Step outputClosed ⟨pending, .writing [], sink⟩ ⟨pending, .reading, sink⟩
  /-- the output is closed, and all of it has been read -/
  | finish (sink : List UInt8) : outputClosed = true →
      Step outputClosed ⟨[], .reading, sink⟩ ⟨[], .finished, sink⟩
  /-- copying fails or is given up -/
  | fail (outward : Outward) : outward.pump.hasEnded = false →
      Step outputClosed outward { outward with pump := .failed }

/-! ## Everything together -/

/-- **The bridge at work** (`bridge_stdio`). -/
structure State where
  /-- the direction from the editor to the server -/
  inward : Inward
  /-- the server -/
  server : Server
  /-- the direction from the server to the editor -/
  outward : Outward
  /-- what the bridge has returned -/
  returned : Option Int
deriving DecidableEq, Repr

/-- The bridge before anything is copied. -/
def State.initial (input : List UInt8) : State where
  inward := ⟨input, .reading, []⟩
  server := ⟨true, [], false, none⟩
  outward := ⟨[], .reading, []⟩
  returned := none

/-- **One step** of a pump, of the server or of the bridge around them. -/
inductive Step : State → State → Prop where
  /-- the pump towards the server takes a step -/
  | inward (s : State) (next : Inward) :
      Inward.Step s.server.reading s.outward.pump.hasEnded s.inward next →
      Step s { s with inward := next }
  /-- the server takes a step -/
  | server (s : State) (bytes : List UInt8) (next : Server) : Server.Step bytes s.server next →
      Step s { s with server := next, outward := s.outward.receive bytes }
  /-- the pump towards the editor takes a step -/
  | outward (s : State) (next : Outward) : Outward.Step s.server.outputClosed s.outward next →
      Step s { s with outward := next }
  /-- both pumps have ended without a failure, and so has the server: the bridge returns -/
  | finish (s : State) (cause : Cause) (code : Int) : s.outward.pump = .finished →
      s.inward.pump = .closed cause → cause ≠ .failed → s.server.exit = some code →
      s.returned = none → Step s { s with returned := some code }

/-- **A run**: one step after the other. -/
inductive Run (s : State) : State → Prop where
  /-- no step at all -/
  | refl : Run s s
  /-- and one more step -/
  | tail {t u : State} : Run s t → Step t u → Run s u

end Bridge

end ContainerClients
