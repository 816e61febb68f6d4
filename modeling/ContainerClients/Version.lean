/-!
# The version

* `version` — the version of the library and of its program.
-/

namespace ContainerClients

/-- The version of the library and of its program. -/
def version : String := "0.3.0"

end ContainerClients
