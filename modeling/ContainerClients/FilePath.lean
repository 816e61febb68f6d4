import ContainerClients.Text.Cut
import ContainerClients.Text.Lowercase

/-!
# File paths as segments

A path is a root and a list of segments.  Empty segments and `.` vanish, so that `/a//b/./c` and
`/a/b/c` are the same path; `..` is a segment like any other.

* `FilePath.ofText` — the path that a text denotes.  Exactly two slashes in front are a root of
  their own; one, or three and more, are the plain root.
* `isUnder` — the segment-wise prefix test.
* `name`, `suffix` — the last segment, and its part from the last dot on.
-/

namespace ContainerClients

open ContainerClients.Text

/-- The root of a path. -/
inductive FilePath.Root where
  /-- a relative path -/
  | none
  /-- `/` -/
  | slash
  /-- `//` -/
  | doubleSlash
deriving DecidableEq, Repr

/-- **A file path**: a root and segments that are neither empty nor `.`. -/
structure FilePath where
  /-- where the path starts -/
  root : FilePath.Root
  /-- its segments -/
  segments : List (List Char)
deriving DecidableEq, Repr

namespace FilePath

/-- A piece between slashes that counts as a segment. -/
def isSegment (piece : List Char) : Bool := !piece.isEmpty && piece != ['.']

/-- The root by the number of slashes in front. -/
def Root.ofCount : Nat → Root
  | 0 => .none
  | 2 => .doubleSlash
  | _ => .slash

/-- **The path that a text denotes.** -/
def ofText (s : List Char) : FilePath where
  root := .ofCount (s.takeWhile (· == '/')).length
  segments := (pieces '/' s).filter isSegment

/-- `path.isUnder folder` holds when the path is the folder or lies in it: the roots are equal and
the folder's segments are a prefix. -/
def isUnder (path folder : FilePath) : Bool :=
  path.root = folder.root && folder.segments.isPrefixOf path.segments

/-- **The last segment**, or nothing for a bare root. -/
def name (path : FilePath) : List Char := path.segments.getLast?.getD []

/-- The part of a name from its last dot on, unless that dot is the first or the last character. -/
def suffixOf (name : List Char) : List Char :=
  match cutLast '.' name with
  | some (stem, extension) => if stem.isEmpty || extension.isEmpty then [] else '.' :: extension
  | none => []

/-- The suffix of the last segment. -/
def suffix (path : FilePath) : List Char := suffixOf path.name

end FilePath

end ContainerClients
