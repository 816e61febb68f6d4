import ContainerClients.Container
import ContainerClients.Proofs.ParsedMount

/-!
# Volume flags as mounts

A mount is handed to the runtime as `-v HOST:CONTAINER`, and the same form is what a mount can be
given as.  Reading the form cuts it at the last colon.  So a colon in the host root does no harm,
but one in the container root moves the front of that root over to the host, and no mount that is
read from a text has a colon in its container root.

* `volumeValues` — the values of the volume flags among some words.
* `Mount.written` — a mount as such a value; `volumeValues_volumeFlags`.
* `Mount.gives_written_iff` — when a mount is read back from it.
* **`volumeFlags_read_back_iff`** — when a mapping is read back from its flags.
-/

namespace ContainerClients

open ContainerClients.Text ContainerClients.Container

/-! ## What the flags say -/

/-- **A mount as it is written**: the host root, a colon and the container root. -/
def Mount.written (mount : Mount) : String := mount.host ++ ":" ++ mount.container

/-- **The values of the volume flags** among some words: what stands behind each `-v`. -/
def Container.volumeValues : List String → List String
  | flag :: value :: rest =>
    if flag = "-v" then value :: volumeValues rest else volumeValues (value :: rest)
  | _ => []

/-- The flags of a mapping say how its mounts are written. -/
lemma Container.volumeValues_volumeFlags (mapping : Mapping) :
    volumeValues (volumeFlags mapping) = mapping.map Mount.written := by
  induction mapping with
  | nil => rfl
  | cons mount rest ih =>
      have hflags : volumeFlags (mount :: rest)
          = "-v" :: mount.written :: volumeFlags rest := rfl
      rw [hflags, volumeValues, if_pos rfl, ih, List.map_cons]

/-! ## Reading a mount back -/

namespace Mount

/-- **No colon is left in a container root that is read from a text.** -/
lemma colon_not_mem_of_gives_text {s : String} {mount : Mount} (h : Gives (.text s) mount) :
    ':' ∉ mount.container.toList := by
  obtain ⟨host, container, hroots, -, hcontainer, -⟩ := h
  cases hroots with
  | text host hcolon =>
      rw [hcontainer]
      intro hmem
      exact hcolon ((normalRoot_isInfix container).subset hmem)

/-- **A mount is read back from what is written exactly when its container root has no colon**, as
long as its roots stay as they are when they are read. -/
theorem gives_written_iff {mount : Mount} (hhost : IsNormalRoot mount.host.toList)
    (hcontainer : IsNormalRoot mount.container.toList) (hsettled : mount.IsSettled) :
    Gives (.text mount.written) mount ↔ ':' ∉ mount.container.toList := by
  constructor
  · exact colon_not_mem_of_gives_text
  · intro hcolon
    -- the colon in the middle is the last one, so the text is cut there
    have hwritten : mount.written
        = String.ofList (mount.host.toList ++ ':' :: mount.container.toList) := by
      rw [← String.toList_inj]
      simp [written]
    rw [hwritten]
    refine ⟨_, _, .text mount.host.toList hcolon, ?_⟩
    rw [hhost.normalRoot_eq_self_iff.2 hsettled.1, hcontainer.normalRoot_eq_self_iff.2 hsettled.2]
    exact ⟨⟨rfl, hhost.ne_nil⟩, rfl, hcontainer.ne_nil⟩

end Mount

/-! ## Reading a mapping back -/

/-- **A mapping is read back from its volume flags exactly when no container root has a colon**, as
long as its roots are in normal form and do not end in blanks.  The host roots may have colons. -/
theorem volumeFlags_read_back_iff {mapping : Mapping}
    (hnormal : ∀ mount ∈ mapping,
      IsNormalRoot mount.host.toList ∧ IsNormalRoot mount.container.toList)
    (hsettled : ∀ mount ∈ mapping, mount.IsSettled) :
    Mapping.ofDatum (.ofTexts (volumeValues (volumeFlags mapping))) = .ok mapping
      ↔ ∀ mount ∈ mapping, ':' ∉ mount.container.toList := by
  rw [volumeValues_volumeFlags, Datum.ofTexts, Mapping.ofDatum_list_eq_ok_iff, List.map_map,
    List.forall₂_map_left_iff, List.forall₂_same]
  refine forall₂_congr fun mount hm => ?_
  obtain ⟨hhost, hcontainer⟩ := hnormal mount hm
  exact Mount.gives_written_iff hhost hcontainer (hsettled mount hm)

/-- A drive letter in the host root does no harm. -/
def driveMapping : Mapping := [⟨"C:/src", "/work"⟩, ⟨"/", "/host"⟩]

/-- A version in the container root does. -/
def versionMapping : Mapping := driveMapping ++ [⟨"/lib", "/opt/lib:2"⟩]

/-- One of the two mappings is read back. -/
theorem volumeFlags_read_back_drive :
    (∀ mount ∈ versionMapping,
      (IsNormalRoot mount.host.toList ∧ IsNormalRoot mount.container.toList) ∧ mount.IsSettled)
    ∧ Mapping.ofDatum (.ofTexts (volumeValues (volumeFlags driveMapping))) = .ok driveMapping
    ∧ Mapping.ofDatum (.ofTexts (volumeValues (volumeFlags versionMapping)))
        ≠ .ok versionMapping := by
  have hmounts : ∀ mount ∈ versionMapping,
      (IsNormalRoot mount.host.toList ∧ IsNormalRoot mount.container.toList)
        ∧ mount.IsSettled := by
    decide
  have hdrive : ∀ mount ∈ driveMapping, mount ∈ versionMapping :=
    fun mount hm => List.mem_append_left _ hm
  refine ⟨hmounts, ?_, fun h => ?_⟩
  · refine (volumeFlags_read_back_iff (fun mount hm => (hmounts mount (hdrive mount hm)).1)
      fun mount hm => (hmounts mount (hdrive mount hm)).2).2 ?_
    decide
  · have hcolons := (volumeFlags_read_back_iff (fun mount hm => (hmounts mount hm).1)
      fun mount hm => (hmounts mount hm).2).1 h
    exact absurd hcolons (by decide)

end ContainerClients
