import ContainerClients.Failure
import ContainerClients.FilePath
import ContainerClients.Uri.File

/-!
# Mounts and path translation

A container sees a tree of the host through a mount: what lies under the host root appears under
the container root.  A mapping is a list of mounts, and the first one that fits a path translates
it.

* `Mount`, `Mapping` — a mount, and mounts in order.
* `Mapping.ofDatum` — the mapping that a configuration value describes (`parse_path_mappings`).
* `Mapping.toContainerUri` — a host path to the URI that the server sees (`to_container_uri`).
* `Mapping.toHostPath` — a server's URI to a host path (`to_host_path`).  A path that exists only in
  the container becomes a remote path, `/docker:NAME:PATH`.
* `Mapping.covers` — whether a path is a host root or lies under one, segment by segment
  (`is_path_mapped`).

Translation replaces a root where it first occurs in the path, wherever that is; covering is
stricter.

Paths are texts of Unicode characters.  A path of the system with bytes that are no text has a code
point in it that is no character; it has no URI, and so it is not translated.
-/

namespace ContainerClients

open ContainerClients.Text

/-- **A mount** (`PathMapping`): a root on the host, and where it appears in the container. -/
structure Mount where
  /-- the root on the host -/
  host : String
  /-- the root in the container -/
  container : String
deriving DecidableEq, Repr

/-- **Mounts in order of precedence.** -/
abbrev Mapping := List Mount

namespace Mount

/-- A root as it is kept (`_strip_trailing_slash`): without slashes at its end unless it is nothing
else. -/
def trimSlashes (root : List Char) : List Char :=
  let trimmed := dropEndWhile (· == '/') root
  if trimmed.isEmpty then root else trimmed

/-- A root as it is kept, stripped first. -/
def normalRoot (root : List Char) : List Char := trimSlashes (strip root)

/-- The mount of two roots as given; neither may be empty.  `item` is what the mount was given
as. -/
def ofRoots (item : Datum) (host container : List Char) : Except Failure Mount :=
  let h := normalRoot host
  let c := normalRoot container
  if h.isEmpty || c.isEmpty then .error (.invalidValue (.emptyRoot item))
  else .ok ⟨String.ofList h, String.ofList c⟩

/-- A field of a record as text, empty when it is missing. -/
def rootField (key : String) (fields : List (String × Datum)) : List Char :=
  ((Datum.field? key fields).elim "" Datum.shown).toList

/-- **The mount that a value describes**: `HOST:CONTAINER`, cut at the last colon; a record with
`source` and `destination`; or a pair. -/
def ofDatum (item : Datum) : Except Failure Mount :=
  match item with
  | .text s =>
    match cutLast ':' s.toList with
    | some (host, container) => ofRoots item host container
    | none => .error (.invalidValue (.mountWithoutColon s))
  | .record fields => ofRoots item (rootField "source" fields) (rootField "destination" fields)
  | .list [host, container] => ofRoots item host.shown.toList container.shown.toList
  | .list _ => .error (.invalidValue (.mountNotPair item))
  | _ => .error .mistyped

end Mount

namespace Mapping

/-- **The mapping that a value describes** (`parse_path_mappings`), item by item. -/
def ofDatum (d : Datum) : Except Failure Mapping :=
  match d with
  | .null => .ok []
  | d =>
    match d.items? with
    | some items => items.mapM Mount.ofDatum
    | none => .error .mistyped

/-- The mapping as a value: a list of pairs. -/
def toDatum (mapping : Mapping) : Datum :=
  .list (mapping.map fun mount => .ofTexts [mount.host, mount.container])

/-! ## Translation -/

/-- The roots that translation to the container looks for, and what it puts in their place. -/
def toContainerRoots (mapping : Mapping) : List (List Char × List Char) :=
  mapping.map fun mount => (mount.host.toList, mount.container.toList)

/-- The roots that translation to the host looks for, and what it puts in their place. -/
def toHostRoots (mapping : Mapping) : List (List Char × List Char) :=
  mapping.map fun mount => (mount.container.toList, mount.host.toList)

/-- **Translation** by the first pair whose root occurs in the path. -/
def translate? (roots : List (List Char × List Char)) (path : List Char) : Option (List Char) :=
  (roots.find? fun pair => occursIn pair.1 path).map fun pair => replaceFirst pair.1 pair.2 path

/-- What remote paths start with. -/
def remoteMarker : String := "/docker:"

/-- **A path inside a container** (`remote_path`), tagged with the container's name. -/
def remotePath (container path : String) : String := remoteMarker ++ container ++ ":" ++ path

/-- Whether a path is tagged with a container (`is_remote_path`). -/
def isRemotePath (path : String) : Bool := remoteMarker.toList.isPrefixOf path.toList

/-- The path of a URI (`uri_to_path`), as a string. -/
def pathOfUri (uri : String) : Except Failure String :=
  match Uri.toPath uri.toList with
  | .ok path => .ok (String.ofList path)
  | .error fault => .error (.invalidValue (.host fault))

/-- The file URI of a path (`path_to_uri`), as a string. -/
def uriOfPath (path : String) : String := String.ofList (Uri.ofPath path.toList)

/-- **From the server to the editor** (`to_host_path`). -/
def toHostPath (mapping : Mapping) (container uri : String) : Except Failure String := do
  let path ← pathOfUri uri
  return match translate? mapping.toHostRoots path.toList with
    | some host => String.ofList host
    | none => remotePath container path

/-- **From the editor to the server** (`to_container_uri`). -/
def toContainerUri (mapping : Mapping) (path : String) : Except Failure String :=
  match translate? mapping.toContainerRoots path.toList with
  | some inside => .ok (uriOfPath (String.ofList inside))
  | none => .error (.pathNotMapped (.text path))

/-- **A path is covered** (`is_path_mapped`) when it is a host root or lies under one.  The empty
text is not. -/
def covers (mapping : Mapping) (path : String) : Bool :=
  !path.isEmpty && mapping.any fun mount =>
    (FilePath.ofText path.toList).isUnder (FilePath.ofText mount.host.toList)

/-! ## Equations of translation -/

theorem translate?_cons (pair : List Char × List Char) (roots : List (List Char × List Char))
    (path : List Char) :
    translate? (pair :: roots) path
      = if occursIn pair.1 path then some (replaceFirst pair.1 pair.2 path)
        else translate? roots path := by
  rw [translate?, List.find?_cons]
  cases h : occursIn pair.1 path <;> simp [translate?]

/-- **Translation by two lists of roots** is translation by the first that translates. -/
theorem translate?_append (roots others : List (List Char × List Char)) (path : List Char) :
    translate? (roots ++ others) path
      = (translate? roots path).or (translate? others path) := by
  simp [translate?, List.find?_append]
  cases List.find? (fun pair => occursIn pair.1 path) roots <;> simp

end Mapping

end ContainerClients
