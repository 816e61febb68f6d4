import ContainerClients.Text.Occurrence
import ContainerClients.Uri.Host

/-!
# Paths in file URIs

The server speaks of files by URI, the editor by path.

* `ofPath` — the file URI of a path: the scheme, an empty authority and the escaped path.
* `pathPart` — the part of a URI that is its path, still escaped.
* `toPath` — the path that a URI denotes.  Text without `://` is an escaped path already.

The path part is found by dropping the scheme, the authority, the fragment and the query in turn.
For the schemes that know parameters, the last segment ends at its first `;`.
-/

namespace ContainerClients.Uri

open ContainerClients.Text

/-- The scheme and authority of a file on this machine. -/
def filePrefix : List Char := "file://".toList

/-- **The file URI of a path.** -/
def ofPath (path : List Char) : List Char := filePrefix ++ escape path

/-- What text has to hold to be read as a URI. -/
def marker : List Char := "://".toList

/-- The characters of a scheme. -/
def isSchemeChar (c : Char) : Bool := c.isAlphanum || c == '+' || c == '-' || c == '.'

/-- The scheme in lower case, and what follows its `:`; an empty scheme where there is none. -/
def cutScheme (s : List Char) : List Char × List Char :=
  match cutFirst ':' s with
  | some (scheme@(first :: _), rest) =>
    if first.isAlpha && scheme.all isSchemeChar then (scheme.map Char.toLower, rest) else ([], s)
  | _ => ([], s)

/-- Schemes whose paths may carry parameters. -/
def parameterSchemes : List String :=
  ["", "ftp", "hdl", "prospero", "http", "imap", "https", "shttp", "rtsp", "rtspu", "sip", "sips",
   "mms", "sftp", "tel"]

/-- The text before the first separator. -/
def upTo (sep : Char) (s : List Char) : List Char := s.takeWhile (· != sep)

/-- A path without the parameters of its last segment. -/
def dropParameters (path : List Char) : List Char :=
  match cutLast '/' path with
  | some (folder, last) => folder ++ '/' :: upTo ';' last
  | none => upTo ';' path

/-- The authority and what follows it. -/
def cutAuthority (s : List Char) : List Char × List Char :=
  match s with
  | '/' :: '/' :: rest =>
    let isDelimiter (c : Char) : Bool := c == '/' || c == '?' || c == '#'
    (rest.takeWhile (!isDelimiter ·), rest.dropWhile (!isDelimiter ·))
  | _ => ([], s)

/-- What is left of a URI's text: without blanks and control characters in front, and without
tabs and line ends anywhere. -/
def cleaned (s : List Char) : List Char :=
  (s.dropWhile (·.toNat ≤ 0x20)).filter fun c => c != '\t' && c != '\r' && c != '\n'

/-- **The path part of a URI.** -/
def pathPart (s : List Char) : Except HostFault (List Char) := do
  let (scheme, rest) := cutScheme (cleaned s)
  let (authority, rest) := cutAuthority rest
  checkAuthority authority
  let path := upTo '?' (upTo '#' rest)
  checkDisguise authority
  return if parameterSchemes.contains (String.ofList scheme) then dropParameters path else path

/-- **The path that a URI denotes.** -/
def toPath (s : List Char) : Except HostFault (List Char) :=
  if occursIn marker s then (pathPart s).map unescape else .ok (unescape s)

end ContainerClients.Uri
