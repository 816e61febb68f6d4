import Mathlib.Tactic.Common
import ContainerClients.Text.Utf8

/-!
# What UTF-8 encodes, the decoder reads back

The decoder is a machine over single bytes, and it is used in two places: over the bytes of a
process, and over the bytes and characters of a percent-escaped text.  Both need to know where the
machine stands behind the bytes of a character, whatever comes next.  That is a fact about the
machine's run, apart from what happens at the end of the input.

* `run` — what the machine emits over some bytes, and where it stands then.
* `opening_three`, `opening_four` — where the first byte of a long character leads.
* **`run_encodeChar`** — the bytes of a character emit it, and leave the machine between characters.
* **`decode_encode`** — decoding reads back what encoding wrote.
-/

namespace ContainerClients.Text.Utf8

/-! ## Runs of the machine -/

/-- **A run**: what the machine emits over the bytes, and where it stands behind them. -/
def run (state : State) : List UInt8 → List Char × State
  | [] => ([], state)
  | byte :: rest =>
    ((step state byte).1 ++ (run (step state byte).2 rest).1, (run (step state byte).2 rest).2)

theorem run_cons (state : State) (byte : UInt8) (rest : List UInt8) :
    run state (byte :: rest)
      = ((step state byte).1 ++ (run (step state byte).2 rest).1,
          (run (step state byte).2 rest).2) := rfl

/-- A run over two pieces is two runs, the second from where the first one ends. -/
theorem run_append (state : State) (xs ys : List UInt8) :
    run state (xs ++ ys)
      = ((run state xs).1 ++ (run (run state xs).2 ys).1, (run (run state xs).2 ys).2) := by
  induction xs generalizing state with
  | nil => rfl
  | cons x xs ih =>
      rw [List.cons_append, run_cons, ih, run_cons, List.append_assoc]

/-- Decoding is a run, and what is left unfinished at its end. -/
theorem decodeFrom_eq_run (state : State) (bytes : List UInt8) :
    decodeFrom state bytes = (run state bytes).1 ++ (run state bytes).2.flush := by
  induction bytes generalizing state with
  | nil => rfl
  | cons byte rest ih =>
      rw [decodeFrom_cons, ih, run_cons, List.append_assoc]

/-! ## Single bytes -/

lemma toNat_byte {n : Nat} (h : n < 256) : (UInt8.ofNat n).toNat = n := by
  simp [UInt8.toNat_ofNat', Nat.mod_eq_of_lt h]

/-- A first byte is read as `opening` says. -/
lemma run_opening {b : Nat} (hb : b < 256) {out : List Char} {state : State}
    (h : opening b = (out, state)) (rest : List UInt8) :
    run .between (UInt8.ofNat b :: rest) = (out ++ (run state rest).1, (run state rest).2) := by
  rw [run_cons, step, toNat_byte hb, h]

/-- A continuation byte in the range that the machine expects, with more to come. -/
lemma run_inside {bits missing low high x : Nat} (hx : x < 0x40) (hlow : low ≤ 0x80 + x)
    (hhigh : 0x80 + x ≤ high) (rest : List UInt8) :
    run (.inside bits (missing + 2) low high) (UInt8.ofNat (0x80 + x) :: rest)
      = run (.inside (bits * 0x40 + x) (missing + 1) 0x80 0xBF) rest := by
  have hb : (UInt8.ofNat (0x80 + x)).toNat = 0x80 + x := toNat_byte (by omega)
  have hm : ¬ missing + 2 = 1 := by omega
  rw [run_cons]
  simp only [step, hb]
  rw [if_pos ⟨hlow, hhigh⟩, if_neg hm, Nat.add_sub_cancel_left, List.nil_append]
  rfl

/-- The last continuation byte finishes the character. -/
lemma run_inside_last {bits low high x : Nat} (hx : x < 0x40) (hlow : low ≤ 0x80 + x)
    (hhigh : 0x80 + x ≤ high) :
    run (.inside bits 1 low high) [UInt8.ofNat (0x80 + x)]
      = ([Char.ofNat (bits * 0x40 + x)], .between) := by
  have hb : (UInt8.ofNat (0x80 + x)).toNat = 0x80 + x := toNat_byte (by omega)
  rw [run_cons]
  simp only [step, hb]
  rw [if_pos ⟨hlow, hhigh⟩, if_pos trivial, Nat.add_sub_cancel_left]
  rfl

/-! ## First bytes

The range of the second byte depends on the first one.  What matters about it is that the second
byte of a character lies in it.
-/

/-- The first of two bytes. -/
lemma opening_two {n : Nat} (hlow : 0x80 ≤ n) (hhigh : n < 0x800) :
    opening (0xC0 + n / 0x40) = ([], .inside (n / 0x40) 1 0x80 0xBF) := by
  have hsub : 0xC0 + n / 0x40 - 0xC0 = n / 0x40 := by omega
  rw [opening, if_neg (by omega), if_neg (by omega), if_pos (by omega), hsub]

/-- The first of three bytes.  The surrogates are what the narrow range behind `0xED` leaves out. -/
lemma opening_three {n : Nat} (hlow : 0x800 ≤ n) (hhigh : n < 0x10000)
    (hvalid : n < 0xD800 ∨ 0xDFFF < n) :
    ∃ low high, opening (0xE0 + n / 0x1000) = ([], .inside (n / 0x1000) 2 low high)
      ∧ low ≤ 0x80 + n / 0x40 % 0x40 ∧ 0x80 + n / 0x40 % 0x40 ≤ high := by
  have hk : n / 0x1000 < 0x10 := by omega
  by_cases h0 : n / 0x1000 = 0
  · refine ⟨0xA0, 0xBF, ?_, by omega, by omega⟩
    rw [h0]
    rfl
  by_cases hd : n / 0x1000 = 0xD
  · refine ⟨0x80, 0x9F, ?_, by omega, by omega⟩
    rw [hd]
    rfl
  · refine ⟨0x80, 0xBF, ?_, by omega, by omega⟩
    -- only the lead byte matters from here on, and the surrogate bounds would be split in vain
    clear hlow hhigh hvalid
    generalize n / 0x1000 = k at *
    have hsub : 0xE0 + k - 0xE0 = k := by omega
    rw [opening, if_neg (by omega), if_neg (by omega), if_neg (by omega), if_neg (by omega),
      if_neg (by omega), if_pos (by omega), hsub]

/-- The first of four bytes. -/
lemma opening_four {n : Nat} (hlow : 0x10000 ≤ n) (hhigh : n < 0x110000) :
    ∃ low high, opening (0xF0 + n / 0x40000) = ([], .inside (n / 0x40000) 3 low high)
      ∧ low ≤ 0x80 + n / 0x1000 % 0x40 ∧ 0x80 + n / 0x1000 % 0x40 ≤ high := by
  have hk : n / 0x40000 < 5 := by omega
  by_cases h0 : n / 0x40000 = 0
  · refine ⟨0x90, 0xBF, ?_, by omega, by omega⟩
    rw [h0]
    rfl
  by_cases h4 : n / 0x40000 = 4
  · refine ⟨0x80, 0x8F, ?_, by omega, by omega⟩
    rw [h4]
    rfl
  · refine ⟨0x80, 0xBF, ?_, by omega, by omega⟩
    obtain h | h | h : n / 0x40000 = 1 ∨ n / 0x40000 = 2 ∨ n / 0x40000 = 3 := by omega
    all_goals rw [h]; rfl

/-! ## Characters and texts -/

/-- **The bytes of a character emit that character**, and the machine stands between characters
again. -/
theorem run_encodeChar (c : Char) : run .between (encodeChar c) = ([c], .between) := by
  have hvalid : c.toNat < 0xD800 ∨ 0xDFFF < c.toNat ∧ c.toNat < 0x110000 := c.valid
  have hc : Char.ofNat c.toNat = c := Char.ofNat_toNat c
  rw [encodeChar]
  generalize c.toNat = n at hvalid hc
  subst hc
  split_ifs with h1 h2 h3
  · have hopen : opening n = ([Char.ofNat n], .between) := by rw [opening, if_pos h1]
    rw [run_opening (by omega) hopen]
    rfl
  · have hn : n / 0x40 * 0x40 + n % 0x40 = n := by omega
    rw [run_opening (by omega) (opening_two (by omega) h2),
      run_inside_last (by omega) (by omega) (by omega), hn]
    rfl
  · obtain ⟨low, high, hopen, hlow, hhigh⟩ := opening_three (n := n) (by omega) h3 (by omega)
    have hn : (n / 0x1000 * 0x40 + n / 0x40 % 0x40) * 0x40 + n % 0x40 = n := by omega
    rw [run_opening (by omega) hopen, run_inside (by omega) hlow hhigh,
      run_inside_last (by omega) (by omega) (by omega), hn]
    rfl
  · obtain ⟨low, high, hopen, hlow, hhigh⟩ := opening_four (n := n) (by omega) (by omega)
    have hn : ((n / 0x40000 * 0x40 + n / 0x1000 % 0x40) * 0x40 + n / 0x40 % 0x40) * 0x40
        + n % 0x40 = n := by omega
    rw [run_opening (by omega) hopen, run_inside (by omega) hlow hhigh,
      run_inside (by omega) (by omega) (by omega),
      run_inside_last (by omega) (by omega) (by omega), hn]
    rfl

/-- An ASCII byte occurs only as the single byte of its character. -/
lemma toNat_eq_of_mem_encodeChar {c : Char} {byte : UInt8} (h : byte ∈ encodeChar c)
    (hb : byte.toNat < 0x80) : byte.toNat = c.toNat := by
  have hvalid : c.toNat < 0x110000 := by
    have h := c.valid
    change c.toNat < 0xD800 ∨ 0xDFFF < c.toNat ∧ c.toNat < 0x110000 at h
    omega
  rw [encodeChar] at h
  split_ifs at h
  all_goals simp only [List.mem_cons, List.not_mem_nil, or_false] at h
  · rw [h, toNat_byte (by omega)]
  · rcases h with rfl | rfl
    all_goals rw [toNat_byte (by omega)] at hb; omega
  · rcases h with rfl | rfl | rfl
    all_goals rw [toNat_byte (by omega)] at hb; omega
  · rcases h with rfl | rfl | rfl | rfl
    all_goals rw [toNat_byte (by omega)] at hb; omega

/-- The bytes of a text emit that text. -/
theorem run_encode (s : List Char) : run .between (encode s) = (s, .between) := by
  induction s with
  | nil => rfl
  | cons c s ih =>
      rw [encode] at ih
      rw [encode, List.flatMap_cons, run_append, run_encodeChar, ih]
      rfl

/-- **Decoding reads back what encoding wrote.** -/
theorem decode_encode (s : List Char) : decode (encode s) = s := by
  rw [decode, decodeFrom_eq_run, run_encode, State.flush, List.append_nil]

end ContainerClients.Text.Utf8
