import Mathlib.Data.List.TakeWhile
import ContainerClients.Mount
import ContainerClients.Proofs.Utf8

/-!
# File URIs denote the paths they were made from

A path becomes a URI by writing its bytes behind `file://`, the unsafe ones escaped.  Reading the
URI cuts it at its delimiters and undoes the escapes.  No delimiter survives escaping except the
slash, so the cut can only go wrong at the front: what stands before the first slash is taken for
an authority.

* `isSafe_bounds`, `not_isSafe_delimiter` — what the characters of an escaped text are.
* **`unescape_escape`** — escaping loses nothing.
* **`toPath_ofPath`** — the URI of a path denotes the path from its first slash on.
* **`pathOfUri_uriOfPath`** — so exactly absolute paths, and the empty one, come back.
* `uriOfPath_inj` — different paths have different URIs.
-/

namespace ContainerClients.Uri

open ContainerClients.Text

/-! ## Characters of an escaped text -/

lemma toNat_ofNat_of_lt {n : Nat} (h : n < 0xD800) : (Char.ofNat n).toNat = n := by
  have hv : n.isValidChar := Or.inl h
  rw [Char.ofNat, dif_pos hv]
  rfl

/-- Safe characters are printed ASCII. -/
lemma isSafe_bounds {c : Char} (h : isSafe c = true) : 0x20 < c.toNat ∧ c.toNat < 0x80 := by
  rw [isSafe, Bool.or_eq_true] at h
  rcases h with h | h
  · have h : ((decide ('A'.val ≤ c.val ∧ c.val ≤ 'Z'.val)
        || (decide ('a'.val ≤ c.val) && decide (c.val ≤ 'z'.val)))
        || (decide ('0'.val ≤ c.val) && decide (c.val ≤ '9'.val))) = true := h
    simp only [Bool.or_eq_true, Bool.and_eq_true, decide_eq_true_eq, UInt32.le_iff_toNat_le] at h
    change ((0x41 ≤ c.toNat ∧ c.toNat ≤ 0x5A) ∨ (0x61 ≤ c.toNat ∧ c.toNat ≤ 0x7A))
      ∨ (0x30 ≤ c.toNat ∧ c.toNat ≤ 0x39) at h
    omega
  · have hall : ("_.-~/:@!$&'()*+,;=".toList.all fun d => 0x20 < d.toNat ∧ d.toNat < 0x80) := by
      decide
    exact of_decide_eq_true (List.all_eq_true.1 hall c (List.contains_iff_mem.1 h))

/-- The characters that would end the path, and those of an authority in brackets. -/
def delimiters : List Char := ['?', '#', '[', ']']

/-- No delimiter is safe, and neither is the `%` of an escape. -/
lemma not_isSafe_delimiter {c : Char} (h : isSafe c = true) : c ∉ '%' :: delimiters := by
  have hall : ('%' :: delimiters).all fun d => !isSafe d := by decide
  intro hc
  have hunsafe := List.all_eq_true.1 hall c hc
  rw [h] at hunsafe
  contradiction

lemma isSafe_hexCapital : ∀ n < 16, isSafe (hexCapital n) = true := by decide

lemma hexCapital_ne_slash : ∀ n < 16, hexCapital n ≠ '/' := by decide

lemma hexValue?_hexCapital : ∀ n < 16, hexValue? (hexCapital n) = some n := by decide

/-- A byte is written in safe characters and `%`. -/
lemma isSafe_of_mem_escapeByte {byte : UInt8} {c : Char} (h : c ∈ escapeByte byte) :
    c = '%' ∨ isSafe c = true := by
  have hb : byte.toNat < 256 := byte.toNat_lt
  rw [escapeByte] at h
  split_ifs at h with hs
  · rw [List.mem_singleton] at h
    rw [h]
    exact Or.inr hs.2
  · simp only [List.mem_cons, List.not_mem_nil, or_false] at h
    rcases h with rfl | rfl | rfl
    · exact Or.inl rfl
    · exact Or.inr (isSafe_hexCapital _ (by omega))
    · exact Or.inr (isSafe_hexCapital _ (by omega))

lemma isSafe_of_mem_escape {s : List Char} {c : Char} (h : c ∈ escape s) :
    c = '%' ∨ isSafe c = true := by
  rw [escape, List.mem_flatMap] at h
  obtain ⟨byte, -, hc⟩ := h
  exact isSafe_of_mem_escapeByte hc

/-- An escaped text is printed ASCII. -/
lemma bounds_of_mem_escape {s : List Char} {c : Char} (h : c ∈ escape s) :
    0x20 < c.toNat ∧ c.toNat < 0x80 := by
  rcases isSafe_of_mem_escape h with rfl | hs
  · decide
  · exact isSafe_bounds hs

/-- An escaped text holds no delimiter but the slash. -/
lemma not_delimiter_of_mem_escape {s : List Char} {c : Char} (h : c ∈ escape s) :
    c ∉ delimiters := by
  rcases isSafe_of_mem_escape h with rfl | hs
  · decide
  · exact fun hc => not_isSafe_delimiter hs (List.mem_cons_of_mem _ hc)

/-! ## Escaping is undone -/

/-- A character that is no `%` is a unit by itself. -/
lemma units_cons {c : Char} (h : c ≠ '%') (rest : List Char) :
    units (c :: rest) = Unit.ofChar c :: units rest := by
  rw [units]
  simp [h]

lemma hexByte?_hexCapital (byte : UInt8) :
    hexByte? (hexCapital (byte.toNat / 16)) (hexCapital (byte.toNat % 16)) = some byte := by
  have hb : byte.toNat < 256 := byte.toNat_lt
  have hn : 16 * (byte.toNat / 16) + byte.toNat % 16 = byte.toNat := by omega
  rw [hexByte?, hexValue?_hexCapital _ (by omega), hexValue?_hexCapital _ (by omega)]
  simp only [Option.bind_eq_bind, Option.bind_some, Option.pure_def, hn, UInt8.ofNat_toNat]

/-- **An escaped byte is one unit**, whatever follows it. -/
lemma units_escapeByte (byte : UInt8) (rest : List Char) :
    units (escapeByte byte ++ rest) = .byte byte :: units rest := by
  rw [escapeByte]
  split_ifs with hs
  · have hc : (Char.ofNat byte.toNat).toNat = byte.toNat := toNat_ofNat_of_lt (by omega)
    have hne : Char.ofNat byte.toNat ≠ '%' := fun he =>
      not_isSafe_delimiter hs.2 (by rw [he]; exact List.mem_cons_self)
    rw [List.singleton_append, units_cons hne, Unit.ofChar, if_pos (by omega), hc]
    simp
  · simp only [List.cons_append, List.nil_append]
    rw [units, hexByte?_hexCapital]

/-- The units of escaped bytes are the bytes. -/
lemma units_flatMap_escapeByte (bytes : List UInt8) (rest : List Char) :
    units (bytes.flatMap escapeByte ++ rest) = bytes.map .byte ++ units rest := by
  induction bytes with
  | nil => rfl
  | cons byte bytes ih =>
      rw [List.flatMap_cons, List.append_assoc, units_escapeByte, ih, List.map_cons,
        List.cons_append]

/-- Bytes are put together by a run of the decoder. -/
lemma assemble_bytes (state : Utf8.State) (bytes : List UInt8) (rest : List Unit) :
    assemble state (bytes.map .byte ++ rest)
      = (Utf8.run state bytes).1 ++ assemble (Utf8.run state bytes).2 rest := by
  induction bytes generalizing state with
  | nil => rfl
  | cons byte bytes ih =>
      rw [List.map_cons, List.cons_append, assemble, ih, Utf8.run_cons, List.append_assoc]

/-- **Unescaping undoes escaping**, whatever follows the escaped text. -/
theorem assemble_escape_append (s rest : List Char) :
    assemble .between (units (escape s ++ rest)) = s ++ assemble .between (units rest) := by
  rw [escape, units_flatMap_escapeByte, assemble_bytes, Utf8.run_encode]

theorem unescape_escape (s : List Char) : unescape (escape s) = s := by
  have h := assemble_escape_append s []
  rwa [List.append_nil, units, assemble, Utf8.State.flush, List.append_nil] at h

/-! ## Slashes -/

@[simp] lemma escape_nil : escape [] = [] := rfl

@[simp] lemma escape_append (s t : List Char) : escape (s ++ t) = escape s ++ escape t := by
  simp [escape, Utf8.encode]

/-- A slash stands for itself. -/
lemma escape_cons_slash (s : List Char) : escape ('/' :: s) = '/' :: escape s := rfl

/-- No byte but its own is written with a slash. -/
lemma toNat_of_slash_mem_escapeByte {byte : UInt8} (h : '/' ∈ escapeByte byte) :
    byte.toNat = 0x2F := by
  have hb : byte.toNat < 256 := byte.toNat_lt
  rw [escapeByte] at h
  split_ifs at h with hs
  · rw [List.mem_singleton] at h
    rw [← toNat_ofNat_of_lt (n := byte.toNat) (by omega), ← h]
    rfl
  · simp only [List.mem_cons, List.not_mem_nil, or_false] at h
    rcases h with h | h | h
    · exact absurd h (by decide)
    · exact absurd h.symm (hexCapital_ne_slash _ (by omega))
    · exact absurd h.symm (hexCapital_ne_slash _ (by omega))

/-- Escaping brings no slash in. -/
lemma slash_not_mem_escape {s : List Char} (h : '/' ∉ s) : '/' ∉ escape s := by
  intro hs
  rw [escape, List.mem_flatMap] at hs
  obtain ⟨byte, hbyte, hmem⟩ := hs
  rw [Utf8.encode, List.mem_flatMap] at hbyte
  obtain ⟨c, hc, hbyte⟩ := hbyte
  have hn := toNat_of_slash_mem_escapeByte hmem
  have heq := Utf8.toNat_eq_of_mem_encodeChar hbyte (by omega)
  have hslash : c = '/' := Char.toNat_inj.1 (by rw [← heq, hn]; rfl)
  exact h (hslash ▸ hc)

/-! ## Where a file URI is cut -/

/-- Nothing of a file URI is blank or a control character. -/
lemma cleaned_ofPath (path : List Char) : cleaned (ofPath path) = ofPath path := by
  have hfront : (ofPath path).dropWhile (·.toNat ≤ 0x20) = ofPath path := rfl
  rw [cleaned, hfront, List.filter_eq_self]
  intro c hc
  have hb : 0x20 < c.toNat := by
    rw [ofPath, List.mem_append] at hc
    rcases hc with hc | hc
    · have hall : filePrefix.all fun d => 0x20 < d.toNat := by decide
      exact of_decide_eq_true (List.all_eq_true.1 hall c hc)
    · exact (bounds_of_mem_escape hc).1
  have hne : ∀ d ∈ ['\t', '\r', '\n'], c ≠ d := by
    rintro d hd rfl
    have hall : ['\t', '\r', '\n'].all fun e => e.toNat ≤ 0x20 := by decide
    exact absurd (of_decide_eq_true (List.all_eq_true.1 hall c hd)) (by omega)
  simp only [List.mem_cons, List.not_mem_nil, or_false, forall_eq_or_imp, forall_eq] at hne
  simp [hne]

/-- The scheme of a file URI is `file`, which is none of those with parameters. -/
lemma cutScheme_ofPath (path : List Char) :
    cutScheme (ofPath path) = ("file".toList, "//".toList ++ escape path) := rfl

/-- What stands before the first slash of a path is taken for the authority. -/
lemma cutAuthority_escape {front back : List Char} (hfront : '/' ∉ front)
    (hback : ∀ c ∈ back.head?, c = '/') :
    cutAuthority ("//".toList ++ escape (front ++ back)) = (escape front, escape back) := by
  have hpos : ∀ c ∈ escape front, (!(c == '/' || c == '?' || c == '#')) = true := by
    intro c hc
    have hd := not_delimiter_of_mem_escape hc
    have hs : c ≠ '/' := fun he => slash_not_mem_escape hfront (he ▸ hc)
    simp only [delimiters, List.mem_cons, List.not_mem_nil, or_false, not_or] at hd
    simp [hd, hs]
  have hcut : ∀ s : List Char, cutAuthority ("//".toList ++ s)
      = (s.takeWhile fun c => !(c == '/' || c == '?' || c == '#'),
          s.dropWhile fun c => !(c == '/' || c == '?' || c == '#')) := fun _ => rfl
  rw [hcut, escape_append]
  rw [List.takeWhile_append_of_pos hpos, List.dropWhile_append_of_pos hpos]
  cases back with
  | nil => simp
  | cons c rest =>
      obtain rfl : c = '/' := hback c rfl
      simp [escape_cons_slash]

/-- An escaped text in the place of an authority passes both of its checks. -/
lemma checkAuthority_escape (s : List Char) : checkAuthority (escape s) = .ok ⟨⟩ := by
  have hopen : (escape s).contains '[' = false := by
    rw [Bool.eq_false_iff, ne_eq, List.contains_iff_mem]
    exact fun h => not_delimiter_of_mem_escape h (by decide)
  have hclose : (escape s).contains ']' = false := by
    rw [Bool.eq_false_iff, ne_eq, List.contains_iff_mem]
    exact fun h => not_delimiter_of_mem_escape h (by decide)
  rw [checkAuthority, hopen, hclose]
  rfl

lemma checkDisguise_escape (s : List Char) : checkDisguise (escape s) = .ok ⟨⟩ := by
  have hany : (escape s).any disguised.has = false := by
    rw [List.any_eq_false]
    intro c hc
    have hb := bounds_of_mem_escape hc
    rw [CodePoints.has_iff, disguised]
    simp only [List.mem_cons, List.not_mem_nil, or_false, exists_eq_or_imp, exists_eq_left]
    omega
  rw [checkDisguise, hany]
  rfl

/-- An escaped text is cut neither at a query nor at a fragment. -/
lemma upTo_escape {sep : Char} (h : sep ∈ delimiters) (s : List Char) :
    upTo sep (escape s) = escape s := by
  rw [upTo, List.takeWhile_eq_self_iff]
  intro c hc
  have hne : c ≠ sep := fun he => not_delimiter_of_mem_escape hc (he ▸ h)
  simpa using hne

/-- **The URI of a path denotes the path from its first slash on**, and reading it never fails. -/
theorem toPath_ofPath_append {front back : List Char} (hfront : '/' ∉ front)
    (hback : ∀ c ∈ back.head?, c = '/') : toPath (ofPath (front ++ back)) = .ok back := by
  have hmark : occursIn marker (ofPath (front ++ back)) = true := rfl
  have hpath : pathPart (ofPath (front ++ back)) = .ok (escape back) := by
    rw [pathPart, cleaned_ofPath, cutScheme_ofPath]
    simp only [cutAuthority_escape hfront hback, checkAuthority_escape, checkDisguise_escape]
    rw [upTo_escape (by decide), upTo_escape (by decide)]
    rfl
  rw [toPath, if_pos hmark, hpath]
  exact congrArg _ (unescape_escape back)

end ContainerClients.Uri

namespace ContainerClients.Mapping

open ContainerClients.Text

/-! ## Paths as strings -/

/-- **What the file URI of a path denotes**: the path without what stands before its first
slash. -/
theorem pathOfUri_uriOfPath (path : String) :
    pathOfUri (uriOfPath path) = .ok (String.ofList (path.toList.dropWhile (· != '/'))) := by
  have hfront : '/' ∉ path.toList.takeWhile (· != '/') := fun h => by
    simpa using List.mem_takeWhile_imp h
  have hback : ∀ c ∈ (path.toList.dropWhile (· != '/')).head?, c = '/' := by
    intro c hc
    have hne : path.toList.dropWhile (· != '/') ≠ [] := fun he => by simp [he] at hc
    have hhead := List.head_dropWhile_not (· != '/') hne
    rw [List.head?_eq_some_head hne, Option.mem_some_iff] at hc
    rw [hc] at hhead
    simpa using hhead
  have h := Uri.toPath_ofPath_append hfront hback
  rw [List.takeWhile_append_dropWhile] at h
  rw [pathOfUri, uriOfPath, String.toList_ofList, h]

/-- Dropping what stands before the first slash changes every text that does not start with one. -/
lemma dropWhile_ne_slash_eq_self_iff (s : List Char) :
    s.dropWhile (· != '/') = s ↔ s = [] ∨ s.head? = some '/' := by
  cases s with
  | nil => simp
  | cons c rest =>
      by_cases hc : c = '/'
      · simp [hc]
      · have hlen : ((c :: rest).dropWhile (· != '/')).length ≤ rest.length := by
          rw [List.dropWhile_cons_of_pos (by simpa using hc)]
          exact (List.dropWhile_suffix _).length_le
        have hne : (c :: rest).dropWhile (· != '/') ≠ c :: rest := fun he => by
          rw [he, List.length_cons] at hlen
          omega
        exact iff_of_false hne (by simp [hc])

/-- The URI of an absolute path denotes that path. -/
theorem pathOfUri_uriOfPath_of_absolute {path : List Char} (h : path.head? = some '/') :
    pathOfUri (uriOfPath (String.ofList path)) = .ok (String.ofList path) := by
  rw [pathOfUri_uriOfPath, String.toList_ofList,
    (dropWhile_ne_slash_eq_self_iff path).2 (Or.inr h)]

/-- Different paths have different URIs. -/
lemma uriOfPath_inj {p q : String} : uriOfPath p = uriOfPath q ↔ p = q := by
  refine ⟨fun h => ?_, congrArg _⟩
  have hesc : Uri.escape p.toList = Uri.escape q.toList :=
    List.append_cancel_left (String.ofList_injective h)
  rw [← String.toList_inj, ← Uri.unescape_escape p.toList, hesc, Uri.unescape_escape]

/-- **Reading the URI of a path never fails, and gives the path back exactly when the path is empty
or absolute.**  In every case different paths have different URIs. -/
theorem fileUri_codec :
    (∀ path : String, ∃ back, pathOfUri (uriOfPath path) = .ok back
      ∧ (back = path ↔ path = "" ∨ path.toList.head? = some '/'))
    ∧ Function.Injective uriOfPath := by
  refine ⟨fun path => ⟨_, pathOfUri_uriOfPath path, ?_⟩, ?_⟩
  · rw [← String.toList_inj, String.toList_ofList, dropWhile_ne_slash_eq_self_iff,
      String.toList_eq_nil_iff]
  · exact fun p q h => uriOfPath_inj.1 h

end ContainerClients.Mapping
