import ContainerClients.Program.Tool.Blocks
import ContainerClients.Program.Tool.Columns
import ContainerClients.Program.Tool.Copy
import ContainerClients.Program.Tool.Count
import ContainerClients.Program.Tool.Dump
import ContainerClients.Program.Tool.Edit
import ContainerClients.Program.Tool.Ends
import ContainerClients.Program.Tool.Expression
import ContainerClients.Program.Tool.Folders
import ContainerClients.Program.Tool.Layout
import ContainerClients.Program.Tool.Order
import ContainerClients.Program.Tool.Replace
import ContainerClients.Program.Tool.Search
import ContainerClients.Program.Tool.Sums
import ContainerClients.Program.Tool.Words

/-!
# The toolbox

* `tools` — the tools that are there, by their names.
* `starterNames` — the programs that start others, or decide conditions.
* `programNames`, `tool?` — all names of programs, and the tool of a name.
-/

namespace ContainerClients.Program

/-- **The tools that are there**, by their names. -/
def tools : List (String × Tool) :=
  [("base64", base64), ("basename", baseNames), ("cat", cat), ("chmod", chmod),
   ("cksum", cksum), ("comm", comm), ("cp", cp), ("cut", cut), ("dd", dd),
   ("dirname", folderNames), ("echo", echo), ("egrep", grep), ("expand", expand), ("expr", expr),
   ("false", saying (fun _ => []) 1), ("fgrep", grep), ("fold", fold), ("grep", grep),
   ("head", head), ("id", identity), ("ls", ls), ("md5sum", md5sum), ("mkdir", mkdir),
   ("mv", mv), ("nl", nl), ("od", od), ("paste", paste), ("printenv", printenv),
   ("printf", printf), ("pwd", saying (fun call => call.folder.text ++ ['\n']) 0),
   ("readlink", readlink), ("realpath", realpath), ("rev", rev), ("rm", rm), ("rmdir", rmdir),
   ("sed", sed), ("seq", seq), ("sha1sum", sha1sum), ("sha256sum", sha256sum),
   ("sleep", sleep), ("sort", sort), ("tac", tac), ("tail", tail), ("tee", tee),
   ("touch", touch), ("tr", tr), ("true", saying (fun _ => []) 0),
   ("uname", saying (fun _ => "Linux\n".toList) 0), ("uniq", uniq), ("wc", wc),
   ("which", which), ("whoami", saying (fun _ => "root\n".toList) 0), ("yes", yes)]

/-- The programs that start others, or decide conditions. -/
def starterNames : List String :=
  ["[", "bash", "dash", "env", "nice", "nohup", "setsid", "sh", "test", "timeout", "xargs"]

/-- All names of programs. -/
def programNames : List String := starterNames ++ tools.map (·.1)

/-- **The tool of a name.** -/
def tool? (name : String) : Option Tool := tools.lookup name

end ContainerClients.Program
