import ContainerClients.Text.CaseTable

/-!
# Lower-casing

File extensions are matched without regard to case, by the full lower-casing of Unicode.  Three
rules go beyond one letter for one letter.

* The capital `İ` (`U+0130`) becomes two characters, `i` and a combining dot.
* The capital sigma becomes the final form `ς` at the end of a word and `σ` elsewhere.
* A word ends at a sigma when a cased character stands before it and none behind it, where
  case-ignorable characters are passed over on both sides.

`lowerAscii` is the part of the rule that ASCII text can reach; `lower_eq_map_of_ascii` says so.
-/

namespace ContainerClients.Text

/-- The small letter of an ASCII capital; any other character as it is. -/
def lowerAscii (c : Char) : Char :=
  if 0x41 ≤ c.toNat ∧ c.toNat ≤ 0x5A then Char.ofNat (c.toNat + 32) else c

/-- The run of capital letters that holds a character. -/
def CaseRun.covers (run : CaseRun) (c : Char) : Bool :=
  run.first ≤ c.toNat && c.toNat ≤ run.last && (c.toNat - run.first) % run.step == 0

/-- The small letter of a character, where it does not depend on its neighbours. -/
def lowerChar (c : Char) : Char :=
  if c.toNat < 0x80 then lowerAscii c
  else match caseRuns.find? (·.covers c) with
    | some run => Char.ofNat (c.toNat + run.shift).toNat
    | none => c

/-- The nearest character that is not passed over has case. -/
def besideCased (neighbours : List Char) : Bool :=
  match neighbours.dropWhile caseIgnorable.has with
  | c :: _ => cased.has c
  | [] => false

/-- Lower-casing with the characters already passed, the nearest first, at hand. -/
def lowerFrom (passed : List Char) : List Char → List Char
  | [] => []
  | c :: rest =>
    let small :=
      if c = 'Σ' then (if besideCased passed && !besideCased rest then ['ς'] else ['σ'])
      else if c = 'İ' then ['i', Char.ofNat 0x307]
      else [lowerChar c]
    small ++ lowerFrom (c :: passed) rest

/-- **Lower-casing** of a text. -/
def lower (s : List Char) : List Char := lowerFrom [] s

/-- Lower-casing of a string. -/
def lowered (s : String) : String := String.ofList (lower s.toList)

/-! ## ASCII text -/

theorem lowerFrom_eq_map_of_ascii {s : List Char} (h : ∀ c ∈ s, c.toNat < 0x80)
    (passed : List Char) : lowerFrom passed s = s.map lowerAscii := by
  induction s generalizing passed with
  | nil => rfl
  | cons c rest ih =>
    have hc := h c (by simp)
    have hs : c ≠ 'Σ' := by rintro rfl; exact absurd hc (by decide)
    have hi : c ≠ 'İ' := by rintro rfl; exact absurd hc (by decide)
    simp only [lowerFrom, hs, if_false, hi, lowerChar, hc, if_true, List.map_cons,
      List.singleton_append]
    rw [ih fun d hd => h d (by simp [hd])]

/-- **On ASCII text lower-casing goes letter by letter.** -/
theorem lower_eq_map_of_ascii {s : List Char} (h : ∀ c ∈ s, c.toNat < 0x80) :
    lower s = s.map lowerAscii := lowerFrom_eq_map_of_ascii h []

end ContainerClients.Text
