import ContainerClients.Bridge
import ContainerClients.Program.Start

/-!
# Starting programs

Servers are programs, and some of them are there without a container.

* `Program.spawn` — starting the programs that are there.
-/

namespace ContainerClients.Program

/-- The variables that are passed to programs. -/
def passedVariables (env : Environment) : List (Octets × Octets) :=
  Variable.all.filterMap fun v =>
    (env v).map fun value => (Octets.ofText v.name, Octets.ofText value)

/-- Why a program cannot be started, as a failure. -/
def StartFault.failure : StartFault → Failure
  | .missing => .programNotFound
  | .notRunnable => .programNotExecutable
  | .notFolder => .programBehindFile
  | .nameTooLong => .programNameTooLong

/-- **Starting the programs that are there**, in an environment. -/
def spawn (env : Environment) : Spawn := fun argv input =>
  match execute (argv.map Octets.ofText) (Octets.ofBytes input) (passedVariables env) with
  | .ok outcome => .ok ⟨outcome.exit, outcome.output.toBytes⟩
  | .error fault => .error fault.failure

end ContainerClients.Program
