import ContainerClients.Program.Spawn
import ContainerClients.Session

/-!
# The program

Reads the environment, the arguments and the standard input, carries out the command line, and
writes what comes of it.
-/

namespace ContainerClients

/-- The environment of this run. -/
def readEnvironment : IO Environment :=
  Variable.all.foldlM (fun env v => return env.set v (← IO.getEnv v.name)) Environment.empty

/-- All that can be read from a stream. -/
partial def readAll (stream : IO.FS.Stream) (read : ByteArray) : IO ByteArray := do
  let chunk ← stream.read 65536
  if chunk.isEmpty then return read else readAll stream (read ++ chunk)

/-- Whether a command line needs the standard input. -/
def needsInput (arguments : List String) : Bool :=
  match CommandLine.Invocation.parse arguments with
  | .ok invocation =>
    match invocation.task with
    | .run .. => true
    | _ => false
  | .error _ => false

end ContainerClients

open ContainerClients in
/-- Carries out a command line; its exit status is that of the program. -/
def main (arguments : List String) : IO UInt32 := do
  let env ← readEnvironment
  let input ← if needsInput arguments then readAll (← IO.getStdin) ByteArray.empty
    else pure ByteArray.empty
  let around : Surroundings := ⟨env, .withLibrary [] (.ok [])⟩
  let machine : CommandLine.Machine :=
    ⟨around, CommandLine.Probe.nothing, Program.spawn env, input.toList⟩
  let execution := CommandLine.execute machine ⟨.initial, {}⟩ arguments
  let stdout ← IO.getStdout
  let stderr ← IO.getStderr
  stdout.putStr execution.stdout
  stdout.flush
  stderr.putStr execution.stderr
  match execution.ending with
  | .exited code => return UInt32.ofNat (code % 256).toNat
  | .failed failure =>
    stderr.putStrLn failure.message
    return 1
