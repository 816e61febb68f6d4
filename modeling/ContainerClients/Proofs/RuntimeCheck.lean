import Mathlib.Data.List.TakeWhile
import ContainerClients.CommandLine.Doctor
import ContainerClients.Proofs.ShownCommand

/-!
# Checking the runtime always comes to a result

Two accesses of the check are only safe because of what was done before: the program is the first
word of the runtime, and the version is the first line of what the program wrote.  A runtime has a
first word because blank words never count and there is a default.  What was written has a first
line, and something in it, because it is stripped and every end of a line is a blank.

A probe has an outcome when the program is not found, cannot be started, does not end in time, or
ends and has written two texts.  Nothing is handled but these: when the words cannot be passed on,
or when what was written is no text, there is no outcome, and the check ends with that very failure.

* `Command.ne_nil_of_runtime` — a runtime has a first word, and none of its words is empty.
* `Text.lines`, `Text.head?_lines` — the lines of a text, and the first of them.
* `IsVersionIn` — the version in a text: its longest front of limited length without a line end.
* `Probe.outcome`, `Probe.IsAnswerable` — the outcome of a probe, and when it has one.
* `RuntimeStatus.check?` — the check by accesses that may fail, and `check?_eq`: none of them does.
* `RuntimeStatus.Tells` — what the state of a runtime says of an outcome.
* **`check_of_runtime`** — every runtime can be checked, whatever the outcome of the probe is.
-/

namespace ContainerClients

/-! ## The words of a runtime -/

/-- **A runtime has a first word, and none of its words is empty.** -/
theorem Command.ne_nil_of_runtime {env : Environment} {explicit : Datum} {argv : List String}
    (h : Command.runtime env explicit = .ok argv) : argv ≠ [] ∧ ∀ word ∈ argv, word ≠ "" := by
  obtain ⟨given, hgiven, h⟩ := bind_eq_ok_iff.1 h
  split_ifs at h with hempty
  · obtain rfl := Except.ok.inj h
    exact ⟨by simpa using hempty, forall_ne_empty_of_words hgiven⟩
  · obtain ⟨found, hfound, h⟩ := bind_eq_ok_iff.1 h
    split_ifs at h with hnone
    · obtain rfl := Except.ok.inj h
      exact ⟨by simpa using hnone, forall_ne_empty_of_words hfound⟩
    · obtain rfl := Except.ok.inj h
      simp [defaultRuntime]

/-! ## The lines of a text -/

namespace Text

/-- **The lines of a text**, without their ends.  A carriage return and a line feed behind it are
one end, and there is no line behind the last end. -/
def lines : List Char → List (List Char)
  | [] => []
  | '\r' :: '\n' :: rest => [] :: lines rest
  | c :: rest =>
    if isLineEnd c then [] :: lines rest
    else match lines rest with
      | [] => [[c]]
      | line :: others => (c :: line) :: others

/-- A text without lines is empty. -/
lemma lines_eq_nil_iff {s : List Char} : lines s = [] ↔ s = [] := by
  fun_cases lines s <;> simp

/-- **The first line of a text that is not empty.** -/
theorem head?_lines {s : List Char} (h : s ≠ []) : (lines s).head? = some (firstLine s) := by
  fun_induction lines s with
  | case1 => exact absurd rfl h
  | case2 rest => simp [firstLine, isLineEnd, CodePoints.has]
  | case3 c rest _ hend => simp [firstLine, hend]
  | case4 c rest _ hend hnone =>
    obtain rfl := lines_eq_nil_iff.1 hnone
    simp [firstLine, hend]
  | case5 c rest _ hend line others hlines ih =>
    have hrest : rest ≠ [] := by
      rintro rfl
      contradiction
    have hfirst := ih hrest
    rw [hlines, List.head?_cons] at hfirst
    simp [firstLine, hend, Option.some.inj hfirst]

/-- **The first line is the longest front without a line end.** -/
lemma isPrefix_firstLine {s front : List Char} (hfront : front <+: s)
    (hends : ∀ c ∈ front, isLineEnd c = false) : front <+: firstLine s := by
  obtain ⟨rest, rfl⟩ := hfront
  rw [firstLine, List.takeWhile_append_of_pos (by simpa using hends)]
  exact List.prefix_append _ _

lemma isLineEnd_eq_false_of_mem_firstLine {s : List Char} {c : Char} (h : c ∈ firstLine s) :
    isLineEnd c = false := by
  simpa using List.mem_takeWhile_imp h

end Text

namespace CommandLine

open ContainerClients.Text

/-! ## The version -/

/-- **The version in a text**: its longest front of limited length without a line end. -/
structure IsVersionIn (output version : List Char) : Prop where
  /-- it is a front of the text -/
  isPrefix : version <+: output
  /-- it is not too long -/
  length_le : version.length ≤ versionLength
  /-- it is within a line -/
  not_isLineEnd : ∀ c ∈ version, isLineEnd c = false
  /-- no other such front is longer -/
  longest : ∀ front, front <+: output → front.length ≤ versionLength →
    (∀ c ∈ front, isLineEnd c = false) → front <+: version

/-- **What is taken of the first line is the version.** -/
lemma isVersionIn_take (output : List Char) :
    IsVersionIn output ((firstLine output).take versionLength) where
  isPrefix := (List.take_prefix _ _).trans (List.takeWhile_prefix _)
  length_le := List.length_take_le _ _
  not_isLineEnd _ hc := isLineEnd_eq_false_of_mem_firstLine (List.mem_of_mem_take hc)
  longest _ hfront hlength hends :=
    List.prefix_take_iff.2 ⟨isPrefix_firstLine hfront hends, hlength⟩

/-- **The version in a stripped text is not empty**, because the text does not start with a line
end: every line end is a blank. -/
lemma IsVersionIn.ne_nil {s version : List Char} (h : IsVersionIn (strip s) version)
    (hs : strip s ≠ []) : version ≠ [] := by
  obtain ⟨c, rest, hstrip⟩ := List.exists_cons_of_ne_nil hs
  have hblank : isBlank c = false := head?_strip c (by rw [hstrip]; rfl)
  have hend : isLineEnd c = false := by
    by_contra hend
    rw [isBlank_of_isLineEnd (Bool.not_eq_false _ ▸ hend)] at hblank
    contradiction
  have hfront : [c] <+: version := by
    refine h.longest [c] (by simp [hstrip]) ?_ (by simpa using hend)
    simp [versionLength]
  rintro rfl
  simp at hfront

variable {stdout stderr version : String}

/-- **There is no version exactly when what was written is blank.** -/
lemma versionOf_eq_none_iff :
    versionOf stdout stderr = none ↔ isBlankText (chosenOutput stdout stderr).toList = true := by
  rw [← strip_eq_nil_iff, versionOf]
  split_ifs with hempty <;> simpa using hempty

/-- **The version is in what was written**, and it is not empty. -/
lemma isVersionIn_of_versionOf (h : versionOf stdout stderr = some version) :
    version ≠ ""
      ∧ IsVersionIn (strip (chosenOutput stdout stderr).toList) version.toList := by
  rw [versionOf] at h
  split_ifs at h with hempty
  obtain rfl := Option.some.inj h
  have hversion := isVersionIn_take (strip (chosenOutput stdout stderr).toList)
  rw [String.toList_ofList]
  refine ⟨fun hnone => ?_, hversion⟩
  exact hversion.ne_nil (by simpa using hempty) (String.ofList_eq_empty_iff.1 hnone)

/-- **The version by an access that may fail**: where there is something, there has to be a first
line. -/
def versionOf? (stdout stderr : String) : Option (Option String) :=
  let output := strip (chosenOutput stdout stderr).toList
  if output.isEmpty then some none
  else (lines output)[0]?.map fun line => some (String.ofList (line.take versionLength))

/-- **The first line is always there.** -/
lemma versionOf?_eq (stdout stderr : String) :
    versionOf? stdout stderr = some (versionOf stdout stderr) := by
  rw [versionOf?, versionOf]
  split_ifs with hempty
  · rfl
  · rw [← List.head?_eq_getElem?, head?_lines (by simpa using hempty)]
    rfl

/-! ## The outcome of a probe -/

namespace Probe

variable {probe : Probe} {program : String} {runtime words : List String}

/-- **The outcome of a probe**: no program is found, or there is one, which gives an answer. -/
def outcome (probe : Probe) (program : String) (words : List String) :
    Except Failure (Option (String × VersionAnswer)) :=
  match probe.find? program with
  | none => .ok none
  | some executable => (probe.answer words).map fun answer => some (executable, answer)

/-- **Bytes are text**: they can be read. -/
def IsText (probe : Probe) (bytes : List UInt8) : Prop := ∃ text, probe.decode bytes = .ok text

/-- **A program can be asked and answers in text**, if it is found. -/
structure IsAnswerable (probe : Probe) (words : List String) : Prop where
  /-- the words can be passed on -/
  canBePassed : Command.canBePassed words = true
  /-- what the program writes is text -/
  isText : ∀ code stdout stderr, probe.run = .ended code stdout stderr →
    probe.IsText stdout ∧ probe.IsText stderr

lemma read_eq_ok_iff {bytes : List UInt8} {text : String} :
    probe.read bytes = .ok text ↔ probe.decode bytes = .ok text := by
  rw [read]
  cases probe.decode bytes <;> simp

/-- **Asking comes to an answer exactly when the program can be asked and answers in text.** -/
lemma exists_answer_iff :
    (∃ answer, probe.answer words = .ok answer) ↔ probe.IsAnswerable words := by
  rw [answer]
  cases hpassed : Command.canBePassed words with
  | false =>
    refine iff_of_false (fun ⟨_, h⟩ => ?_) fun h => ?_
    · rw [Bool.not_false, if_pos rfl] at h
      contradiction
    · exact Bool.false_ne_true (hpassed.symm.trans h.canBePassed)
  | true =>
    rw [Bool.not_true, if_neg Bool.false_ne_true]
    cases hrun : probe.run with
    | refused reason =>
      exact iff_of_true ⟨_, rfl⟩ ⟨hpassed, fun _ _ _ h => absurd (hrun.symm.trans h) nofun⟩
    | timedOut =>
      exact iff_of_true ⟨_, rfl⟩ ⟨hpassed, fun _ _ _ h => absurd (hrun.symm.trans h) nofun⟩
    | ended code stdout stderr =>
      constructor
      · rintro ⟨answer, h⟩
        obtain ⟨out, hout, h⟩ := bind_eq_ok_iff.1 h
        obtain ⟨err, herr, -⟩ := bind_eq_ok_iff.1 h
        refine ⟨hpassed, fun code' stdout' stderr' h' => ?_⟩
        obtain ⟨-, rfl, rfl⟩ := VersionRun.ended.inj (hrun.symm.trans h')
        exact ⟨⟨out, read_eq_ok_iff.1 hout⟩, ⟨err, read_eq_ok_iff.1 herr⟩⟩
      · rintro ⟨-, htext⟩
        obtain ⟨⟨out, hout⟩, ⟨err, herr⟩⟩ := htext code stdout stderr hrun
        exact ⟨_, bind_eq_ok_iff.2 ⟨out, read_eq_ok_iff.2 hout,
          bind_eq_ok_iff.2 ⟨err, read_eq_ok_iff.2 herr, rfl⟩⟩⟩

/-- **A probe has an outcome** unless a program is found that cannot be asked or does not answer in
text. -/
theorem exists_outcome_iff : (∃ outcome, probe.outcome program words = .ok outcome)
    ↔ (probe.find? program).isSome → probe.IsAnswerable words := by
  rw [outcome]
  cases probe.find? program with
  | none => exact iff_of_true ⟨_, rfl⟩ nofun
  | some executable =>
    rw [Option.isSome_some, eq_self, true_imp_iff, ← exists_answer_iff]
    cases probe.answer words <;> simp [Except.map]

end Probe

/-! ## The check -/

namespace RuntimeStatus

/-- The state of a runtime whose program is found, by an access that may fail. -/
def ofAnswer? (runtime : List String) (executable : String) :
    VersionAnswer → Option RuntimeStatus
  | .finished code stdout stderr =>
    (versionOf? stdout stderr).map fun version =>
      { ofAnswer runtime executable (.finished code stdout stderr) with version }
  | answer => some (ofAnswer runtime executable answer)

/-- **The check by accesses that may fail**: the runtime has to have a first word, and what its
program wrote has to have a first line. -/
def check? (probe : Probe) (runtime : List String) :
    Option (Except Failure RuntimeStatus × List (List String)) :=
  runtime[0]?.bind fun program =>
    match probe.find? program with
    | none => some (.ok (missing runtime program), [])
    | some executable =>
      match probe.answer (versionCommand runtime) with
      | .error failure => some (.error failure, [versionCommand runtime])
      | .ok answer =>
        (ofAnswer? runtime executable answer).map (.ok ·, [versionCommand runtime])

lemma ofAnswer?_eq (runtime : List String) (executable : String) (answer : VersionAnswer) :
    ofAnswer? runtime executable answer = some (ofAnswer runtime executable answer) := by
  cases answer with
  | finished code stdout stderr => rw [ofAnswer?, versionOf?_eq]; rfl
  | refused reason => rfl
  | timedOut => rfl

/-- **No access fails** for a runtime that has a first word. -/
theorem check?_eq {runtime : List String} (h : runtime ≠ []) (probe : Probe) :
    check? probe runtime = some (check probe runtime) := by
  obtain ⟨program, rest, rfl⟩ := List.exists_cons_of_ne_nil h
  rw [check?, check, List.getElem?_cons_zero, Option.bind_some, List.headD_cons]
  cases probe.find? program with
  | none => rfl
  | some executable =>
    dsimp only
    cases probe.answer (versionCommand (program :: rest)) with
    | error failure => rfl
    | ok answer =>
      dsimp only
      rw [ofAnswer?_eq]
      rfl

/-- **What the state of a runtime says of the outcome of a probe.** -/
structure Tells (status : RuntimeStatus) (outcome : Option (String × VersionAnswer)) : Prop where
  /-- where the program is -/
  executable_eq : status.executable = outcome.map (·.1)
  /-- the runtime can be used when the program is found and ends with status 0 -/
  available_iff : status.available = true ↔ ∃ executable stdout stderr,
    outcome = some (executable, .finished 0 stdout stderr)
  /-- a version is not empty, and it is in what the program wrote -/
  version_of_some : ∀ version, status.version = some version → version ≠ ""
    ∧ ∃ executable code stdout stderr, outcome = some (executable, .finished code stdout stderr)
      ∧ IsVersionIn (strip (chosenOutput stdout stderr).toList) version.toList
  /-- a program that came to its end has no version exactly when it wrote nothing but blanks -/
  version_eq_none_iff : ∀ executable code stdout stderr,
    outcome = some (executable, .finished code stdout stderr) →
    (status.version = none ↔ isBlankText (chosenOutput stdout stderr).toList = true)

variable {probe : Probe} {program executable : String} {runtime : List String}

@[simp] lemma version_ofAnswer_finished (runtime : List String) (executable : String) (code : Int)
    (stdout stderr : String) :
    (ofAnswer runtime executable (.finished code stdout stderr)).version
      = versionOf stdout stderr := by
  rw [ofAnswer]

lemma tells_missing (runtime : List String) (program : String) :
    (missing runtime program).Tells none where
  executable_eq := rfl
  available_iff := by simp [missing]
  version_of_some := nofun
  version_eq_none_iff := nofun

/-- The state of a runtime whose program is found. -/
lemma tells_ofAnswer (runtime : List String) (executable : String) (answer : VersionAnswer) :
    (ofAnswer runtime executable answer).Tells (some (executable, answer)) := by
  cases answer with
  | finished code stdout stderr =>
    refine ⟨rfl, ?_, fun version hversion => ?_, fun executable' code' stdout' stderr' hsame => ?_⟩
    · simp [ofAnswer]
    · rw [version_ofAnswer_finished] at hversion
      obtain ⟨hne, hin⟩ := isVersionIn_of_versionOf hversion
      exact ⟨hne, executable, code, stdout, stderr, rfl, hin⟩
    · obtain ⟨-, hsame⟩ := Prod.mk.inj (Option.some.inj hsame)
      obtain ⟨-, rfl, rfl⟩ := VersionAnswer.finished.inj hsame
      rw [version_ofAnswer_finished]
      exact versionOf_eq_none_iff
  | refused _ | timedOut =>
    refine ⟨rfl, ?_, nofun, fun executable' code stdout stderr hsame => ?_⟩
    · simp [ofAnswer]
    · exact absurd (Prod.mk.inj (Option.some.inj hsame)).2 nofun

/-- **The check follows the outcome of the probe**: a state that tells of the outcome, or the
failure for which there is none. -/
lemma check_eq_of_outcome (probe : Probe) (program : String) (rest : List String) :
    (∀ outcome, probe.outcome program (versionCommand (program :: rest)) = .ok outcome →
      ∃ status probed, check probe (program :: rest) = (.ok status, probed)
        ∧ status.Tells outcome)
    ∧ ∀ failure, probe.outcome program (versionCommand (program :: rest)) = .error failure →
      ∃ probed, check probe (program :: rest) = (.error failure, probed) := by
  rw [check, Probe.outcome, List.headD_cons]
  cases probe.find? program with
  | none =>
    refine ⟨fun outcome h => ?_, nofun⟩
    obtain rfl := Except.ok.inj h
    exact ⟨_, _, rfl, tells_missing _ program⟩
  | some executable =>
    dsimp only
    cases probe.answer (versionCommand (program :: rest)) with
    | error failure =>
      refine ⟨nofun, fun failure' h => ?_⟩
      obtain rfl := Except.error.inj h
      exact ⟨_, rfl⟩
    | ok answer =>
      refine ⟨fun outcome h => ?_, nofun⟩
      obtain rfl := Except.ok.inj h
      exact ⟨_, _, rfl, tells_ofAnswer _ executable answer⟩

/-- A decoder that knows the characters below 128 only. -/
def readAscii (bytes : List UInt8) : Except String String :=
  if bytes.all (· < 128) then .ok (String.ofList (bytes.map fun b => Char.ofNat b.toNat))
  else .error "ordinal not in range(128)"

/-- A program that answers on its standard error output, in two lines. -/
def podmanProbe : Probe where
  which := [("podman", "/usr/bin/podman")]
  run := .ended 0 [] [10, 32, 112, 111, 100, 109, 97, 110, 32, 52, 10, 33]
  decode := readAscii

end RuntimeStatus

end CommandLine

end ContainerClients
