import ContainerClients.Text.Cut

/-!
# Environment variables

Six variables of the environment configure the library.  An environment says of each whether it is
set, and to what.

* `Variable` — the six, with their names.
* `Environment` — the setting of each.
* `Environment.text`, `Environment.items` — a variable as a text and as a list.
-/

namespace ContainerClients

/-- **A variable of the environment** that configures the library. -/
inductive Variable where
  /-- the command of the container runtime -/
  | runtime
  /-- the default image -/
  | image
  /-- the default container name -/
  | containerName
  /-- the default priority -/
  | priority
  /-- the mounts, separated by commas -/
  | mounts
  /-- additional client packages, separated by commas -/
  | packages
deriving DecidableEq, Repr

/-- The name of a variable. -/
def Variable.name : Variable → String
  | .runtime => "LSP_DOCKER_COMMAND"
  | .image => "LSP_DOCKER_IMAGE"
  | .containerName => "LSP_DOCKER_CONTAINER_NAME"
  | .priority => "LSP_DOCKER_PRIORITY"
  | .mounts => "LSP_DOCKER_PATH_MAPPINGS"
  | .packages => "LSP_DOCKER_CLIENT_PACKAGES"

/-- All variables. -/
def Variable.all : List Variable :=
  [.runtime, .image, .containerName, .priority, .mounts, .packages]

/-- The variable of a name. -/
def Variable.ofName? (name : String) : Option Variable := Variable.all.find? (·.name == name)

/-- **An environment**: what each variable is set to, if it is set. -/
def Environment := Variable → Option String

namespace Environment

/-- No variable is set. -/
def empty : Environment := fun _ => none

instance : Inhabited Environment := ⟨empty⟩

/-- The environment with one variable changed; `none` unsets it. -/
def set (env : Environment) (changed : Variable) (value : Option String) : Environment :=
  fun v => if v = changed then value else env v

/-- The text of a variable, empty when it is not set. -/
def text (env : Environment) (v : Variable) : String := (env v).getD ""

/-- The stripped text of a variable. -/
def strippedText (env : Environment) (v : Variable) : String :=
  Text.stripped (env.text v)

/-- **The list in a variable** (`_split_env_list`): its parts between commas, stripped, without the
blank ones. -/
def items (env : Environment) (v : Variable) : List String :=
  Text.listItems (env.text v)

@[simp] theorem set_self (env : Environment) (v : Variable) (value : Option String) :
    env.set v value v = value := by simp [set]

theorem set_of_ne (env : Environment) {v w : Variable} (value : Option String) (h : w ≠ v) :
    env.set v value w = env w := by simp [set, h]

end Environment

end ContainerClients
