import ContainerClients.Command.Words
import ContainerClients.Datum
import ContainerClients.Number.IntegerText
import ContainerClients.Uri.Host

/-!
# Failures

What can go wrong, by its cause.  Three causes are the library's own and form one family, which
callers handle together: a path outside every mount, an unknown client, and a server specification
that cannot be used.  The others are faults of a value that was given.

* `SpecFault`, `ValueFault` — the causes that come in several kinds.
* `Failure` — all of them.
* `Failure.unknownId` — the failure of looking for an id.
* `Failure.message` — the wording.
* `Failure.isOwn`, `isAboutValue`, `isAboutLookup` — the families.
-/

namespace ContainerClients

/-- **Why a server specification cannot be used.** -/
inductive SpecFault where
  /-- one of the two ids or the command is missing -/
  | incomplete
  /-- the container client would have the id of the client that it is made from -/
  | sameId
  /-- an image of its own without a container name of its own -/
  | imageWithoutName (image : Datum)
  /-- a reason that is stated, in words as a rule -/
  | stated (reason : Datum)

/-- The wording of a reason. -/
def SpecFault.reason : SpecFault → Datum
  | .incomplete => .text "server_id, docker_server_id and server_command are required"
  | .sameId => .text "docker_server_id must differ from server_id"
  | .imageWithoutName image =>
    .text ("image '" ++ image.shown ++ "' is overridden without a container name")
  | .stated reason => reason

/-- **What is wrong with a value.** -/
inductive ValueFault where
  /-- a mount written without a colon -/
  | mountWithoutColon (item : String)
  /-- a mount given as a list of other than two -/
  | mountNotPair (item : Datum)
  /-- a mount with an empty root -/
  | emptyRoot (item : Datum)
  /-- a configuration without a mount -/
  | noMounts
  /-- a command line that cannot be cut into words -/
  | words (fault : Command.WordFault)
  /-- a text that is no whole number -/
  | integer (text : String) (fault : Number.IntegerFault)
  /-- a number with more digits than are written in a name -/
  | longNumber
  /-- a URI with a faulty authority -/
  | host (fault : Uri.HostFault)
  /-- a server without a command -/
  | emptyCommand
  /-- a character that no program argument can hold -/
  | nulInArgument
  /-- bytes that are no text, for a reason -/
  | undecodable (reason : String)

/-- The wording of a fault in a URI. -/
def Uri.HostFault.message : Uri.HostFault → String
  | .brackets => "Invalid IPv6 URL"
  | .futureAddress => "IPvFuture address is invalid"
  | .bracketedIpv4 => "An IPv4 address cannot be in brackets"
  | .notAnAddress host => Text.literal host ++ " does not appear to be an IPv4 or IPv6 address"
  | .disguisedDelimiter authority =>
    "netloc '" ++ authority ++ "' contains invalid characters under NFKC normalization"

/-- The number of characters of a literal that a message about a number shows. -/
def Number.shownLiteral : Nat := 200

/-- What a message about too many digits starts with, and what it ends with. -/
def Number.digitLimit : String × String :=
  ("Exceeds the limit (" ++ Number.text Number.maxDigits
    ++ " digits) for integer string conversion",
   "; use sys.set_int_max_str_digits() to increase the limit")

/-- The wording of a fault in a number. -/
def Number.IntegerFault.message (text : String) : Number.IntegerFault → String
  | .malformed =>
    "invalid literal for int() with base 10: "
      ++ String.ofList ((Text.literal text).toList.take Number.shownLiteral)
  | .tooLong digits =>
    Number.digitLimit.1 ++ ": value has " ++ Number.text digits ++ " digits" ++ Number.digitLimit.2

/-- The wording of a fault in a command line. -/
def Command.WordFault.message : Command.WordFault → String
  | .openQuotation => "No closing quotation"
  | .nothingEscaped => "No escaped character"

/-- The wording of a fault. -/
def ValueFault.message : ValueFault → String
  | .mountWithoutColon item => "Invalid path mapping '" ++ item ++ "' (expected HOST:CONTAINER)"
  | .mountNotPair item => "Invalid path mapping " ++ item.literal ++ " (expected a pair)"
  | .emptyRoot item => "Invalid path mapping " ++ item.literal ++ ": roots cannot be empty"
  | .noMounts => "path_mappings must contain at least one HOST:CONTAINER pair"
  | .words fault => fault.message
  | .integer text fault => fault.message text
  | .longNumber => Number.digitLimit.1 ++ Number.digitLimit.2
  | .host fault => fault.message
  | .emptyCommand => "Cannot start server: empty command"
  | .nulInArgument => "embedded null byte"
  | .undecodable reason => reason

/-- **What can go wrong.** -/
inductive Failure where
  /-- a host path outside every mount (`PathNotMapped`) -/
  | pathNotMapped (path : Datum)
  /-- an id under which no client is registered (`UnknownServerId`), and the ids under which some
  are -/
  | unknownServerId (id : Datum) (available : List Datum)
  /-- a server specification that cannot be used (`InvalidServerSpec`) -/
  | invalidServerSpec (id : Datum) (fault : SpecFault)
  /-- a value of the right kind that is wrong -/
  | invalidValue (fault : ValueFault)
  /-- a value of the wrong kind -/
  | mistyped
  /-- a value with a part of the wrong kind -/
  | mistypedPart
  /-- an infinite number where a whole number is expected -/
  | infiniteNumber
  /-- a program that is not installed -/
  | programNotFound
  /-- a program that must not be run -/
  | programNotExecutable
  /-- a program that is looked for inside something that is no folder -/
  | programBehindFile
  /-- a program with a name that is too long -/
  | programNameTooLong
  /-- any other fault, which what a client package gives meets; in words -/
  | raised (reason : String)

namespace Failure

/-- The number of available ids that a message lists. -/
def listedIds : Nat := 5

/-- **The failure of looking for an id.**  Its message lists available ids, so those that are listed
have to be texts. -/
def unknownId (id : Datum) (available : List Datum) : Failure :=
  if (available.take listedIds).all Datum.isText then .unknownServerId id available else .mistyped

/-- The end of the message about an unknown id: the first available ids, and how many more. -/
def availability (available : List Datum) : String :=
  if available.isEmpty then ""
  else
    ". Available: " ++ ", ".intercalate ((available.take listedIds).map Datum.shown)
      ++ (if available.length > listedIds then
            " (and " ++ Number.text ((available.length - listedIds : Nat) : Int) ++ " more)"
          else "")

/-- **The wording of a failure.** -/
def message : Failure → String
  | .pathNotMapped path => "Path '" ++ path.shown ++ "' is not under any mapped host root"
  | .unknownServerId id available =>
    "No client registered for server id '" ++ id.shown ++ "'" ++ availability available
  | .invalidServerSpec id fault =>
    "Invalid server spec '" ++ id.shown ++ "': " ++ fault.reason.shown
  | .invalidValue fault => fault.message
  | .mistyped => "a value is of the wrong kind"
  | .mistypedPart => "a part of a value is of the wrong kind"
  | .infiniteNumber => "a number is infinite"
  | .programNotFound => "the program was not found"
  | .programNotExecutable => "the program must not be run"
  | .programBehindFile => "a part of the program's path is no folder"
  | .programNameTooLong => "the name of the program is too long"
  | .raised reason => reason

/-- **The library's own failures** (`LspDockerError`). -/
def isOwn : Failure → Bool
  | .pathNotMapped _ | .unknownServerId .. | .invalidServerSpec .. => true
  | _ => false

/-- Failures that count as a wrong value. -/
def isAboutValue : Failure → Bool
  | .pathNotMapped _ | .invalidServerSpec .. | .invalidValue _ => true
  | _ => false

/-- Failures that count as a fruitless search. -/
def isAboutLookup : Failure → Bool
  | .unknownServerId .. => true
  | _ => false

end Failure

/-! ## Values of a kind that is needed -/

/-- The text that a value has to be. -/
def Datum.needText : Datum → Except Failure String
  | .text s => .ok s
  | _ => .error .mistyped

/-- The parts that a value has to have. -/
def Datum.needParts (d : Datum) : Except Failure (List Datum) :=
  match d.items? with
  | some items => .ok items
  | none => .error .mistyped

end ContainerClients
