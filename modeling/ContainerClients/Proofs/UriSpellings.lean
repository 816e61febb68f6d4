import ContainerClients.Proofs.Translation

/-!
# The spellings of a file URI

A server writes the path of a file in its own style: which characters it escapes, and in which case
it writes the digits, is up to it.  All that it must escape is the `%` itself, the delimiters that
end a path, and the characters that are dropped from any URI.

The reader sees neither characters nor bytes but a mixture: what is ASCII counts as a byte, what is
beyond stands for itself.  A spelling is therefore read character by character, each of which leaves
the decoder between two characters.

* `SpellsBytes`, `SpellsChar`, `Spells` — how bytes, a character and a text may be written.
* `spells_escape` — the library's own escaping is one of the spellings.
* `unescape_of_spells` — every spelling is read back.
* `toPath_of_spells` — nothing of a spelling is dropped from a URI or ends its path.
* **`pathOfUri_of_spells`** — every spelling of a file URI denotes the same path, and is translated
  to the same path of the host.
-/

namespace ContainerClients.Uri

open ContainerClients.Text

/-! ## Spellings -/

/-- A hexadecimal digit, in either case. -/
def IsHexDigit (n : Nat) (c : Char) : Prop := c = hexCapital n ∨ c = (hexCapital n).toLower

instance (n : Nat) (c : Char) : Decidable (IsHexDigit n c) := inferInstanceAs (Decidable (_ ∨ _))

/-- **Bytes as escapes**: each one as a `%` and its two digits. -/
inductive SpellsBytes : List UInt8 → List Char → Prop where
  /-- no byte -/
  | nil : SpellsBytes [] []
  /-- one more byte -/
  | cons {byte : UInt8} {high low : Char} {bytes : List UInt8} {spelled : List Char}
      (hhigh : IsHexDigit (byte.toNat / 16) high) (hlow : IsHexDigit (byte.toNat % 16) low)
      (h : SpellsBytes bytes spelled) : SpellsBytes (byte :: bytes) ('%' :: high :: low :: spelled)

/-- The characters that must not be written as themselves: the `%` of escapes, the delimiters that
end a path, and what is dropped from a URI. -/
def reserved : List Char := ['%', '?', '#', '\t', '\r', '\n']

/-- **A character**, as itself or as the escapes of all its bytes. -/
inductive SpellsChar (c : Char) : List Char → Prop where
  /-- the character itself -/
  | literal (h : c ∉ reserved) : SpellsChar c [c]
  /-- its bytes as escapes -/
  | escaped {spelled : List Char} (h : SpellsBytes (Utf8.encodeChar c) spelled) :
      SpellsChar c spelled

/-- **A text**, each character in its own way. -/
inductive Spells : List Char → List Char → Prop where
  /-- nothing -/
  | nil : Spells [] []
  /-- one more character -/
  | cons {c : Char} {front s spelled : List Char} (hc : SpellsChar c front)
      (h : Spells s spelled) : Spells (c :: s) (front ++ spelled)

/-! ## The library's own spelling -/

/-- Bytes none of which is a safe character are escaped. -/
lemma spellsBytes_flatMap_escapeByte {bytes : List UInt8}
    (h : ∀ byte ∈ bytes, ¬ (byte.toNat < 0x80 ∧ isSafe (Char.ofNat byte.toNat))) :
    SpellsBytes bytes (bytes.flatMap escapeByte) := by
  induction bytes with
  | nil => exact .nil
  | cons byte bytes ih =>
      rw [List.flatMap_cons, escapeByte, if_neg (h byte List.mem_cons_self)]
      have hrest := ih fun other hother => h other (List.mem_cons_of_mem _ hother)
      exact .cons (.inl rfl) (.inl rfl) hrest

lemma not_mem_reserved_of_isSafe {c : Char} (h : isSafe c = true) : c ∉ reserved := by
  have hall : reserved.all fun d => !isSafe d := by decide
  intro hc
  have hunsafe := List.all_eq_true.1 hall c hc
  rw [h] at hunsafe
  contradiction

/-- The escaped bytes of a character are a spelling of it. -/
lemma spellsChar_escape (c : Char) : SpellsChar c ((Utf8.encodeChar c).flatMap escapeByte) := by
  by_cases hsafe : c.toNat < 0x80 ∧ isSafe c = true
  · have hbyte : (UInt8.ofNat c.toNat).toNat = c.toNat := Utf8.toNat_byte (by omega)
    have hself : (Utf8.encodeChar c).flatMap escapeByte = [c] := by
      rw [Utf8.encodeChar, if_pos hsafe.1, List.flatMap_singleton, escapeByte, hbyte,
        Char.ofNat_toNat, if_pos hsafe]
    rw [hself]
    exact .literal (not_mem_reserved_of_isSafe hsafe.2)
  · refine .escaped (spellsBytes_flatMap_escapeByte fun byte hbyte h => hsafe ?_)
    -- a byte below 0x80 is the only one of its character
    rwa [Utf8.toNat_eq_of_mem_encodeChar hbyte h.1, Char.ofNat_toNat] at h

/-- **The library's own escaping is one of the spellings.** -/
theorem spells_escape (s : List Char) : Spells s (escape s) := by
  induction s with
  | nil => exact .nil
  | cons c s ih =>
      rw [escape, Utf8.encode, List.flatMap_cons, List.flatMap_append]
      exact .cons (spellsChar_escape c) ih

/-! ## Reading a spelling -/

lemma hexValue?_of_isHexDigit {n : Nat} {c : Char} (hn : n < 16) (h : IsHexDigit n c) :
    hexValue? c = some n := by
  have hlower : ∀ n < 16, hexValue? (hexCapital n).toLower = some n := by decide
  rcases h with rfl | rfl
  · exact hexValue?_hexCapital n hn
  · exact hlower n hn

/-- **The units of escapes are the bytes**, whatever follows them. -/
lemma units_of_spellsBytes {bytes : List UInt8} {spelled : List Char}
    (h : SpellsBytes bytes spelled) (rest : List Char) :
    units (spelled ++ rest) = bytes.map .byte ++ units rest := by
  induction h with
  | nil => rfl
  | @cons byte high low bytes spelled hhigh hlow _ ih =>
      have hb : byte.toNat < 256 := byte.toNat_lt
      have hn : 16 * (byte.toNat / 16) + byte.toNat % 16 = byte.toNat := by omega
      have hbyte : hexByte? high low = some byte := by
        rw [hexByte?, hexValue?_of_isHexDigit (by omega) hhigh,
          hexValue?_of_isHexDigit (by omega) hlow]
        simp only [Option.bind_eq_bind, Option.bind_some, Option.pure_def, hn, UInt8.ofNat_toNat]
      simp only [List.cons_append, List.map_cons, units, hbyte, ih]

/-- The bytes of a character are put together to it, whatever follows them. -/
lemma assemble_encodeChar (c : Char) (rest : List Unit) :
    assemble .between ((Utf8.encodeChar c).map .byte ++ rest) = c :: assemble .between rest := by
  rw [assemble_bytes, Utf8.run_encodeChar, List.singleton_append]

/-- **A character is read back from each of its spellings**, and leaves the decoder between two
characters. -/
lemma assemble_of_spellsChar {c : Char} {front : List Char} (h : SpellsChar c front)
    (rest : List Char) :
    assemble .between (units (front ++ rest)) = c :: assemble .between (units rest) := by
  cases h with
  | literal h =>
      have hpercent : c ≠ '%' := fun he => h (he ▸ List.mem_cons_self)
      rw [List.singleton_append, units_cons hpercent, Unit.ofChar]
      split_ifs with hascii
      -- an ASCII character is its own byte
      · have hbytes : Utf8.encodeChar c = [UInt8.ofNat c.toNat] := by
          rw [Utf8.encodeChar, if_pos hascii]
        have hread := assemble_encodeChar c (units rest)
        rwa [hbytes] at hread
      · rfl
  | escaped h => rw [units_of_spellsBytes h, assemble_encodeChar]

/-- **Every spelling is read back.** -/
theorem unescape_of_spells {s spelled : List Char} (h : Spells s spelled) :
    unescape spelled = s := by
  rw [unescape]
  induction h with
  | nil => rfl
  | cons hc _ ih => rw [assemble_of_spellsChar hc, ih]

/-! ## The path of a spelled URI -/

/-- Of the reserved characters the escapes of bytes hold only the `%`. -/
lemma eq_percent_of_mem_spellsBytes {bytes : List UInt8} {spelled : List Char}
    (h : SpellsBytes bytes spelled) : ∀ c ∈ spelled, c ∈ reserved → c = '%' := by
  have hdigit : ∀ n < 16, ∀ c, IsHexDigit n c → c ∉ reserved := by
    have hall : ∀ n < 16, hexCapital n ∉ reserved ∧ (hexCapital n).toLower ∉ reserved := by decide
    rintro n hn c (rfl | rfl)
    · exact (hall n hn).1
    · exact (hall n hn).2
  induction h with
  | nil => exact fun c hc => absurd hc List.not_mem_nil
  | @cons byte high low bytes spelled hhigh hlow _ ih =>
      have hb : byte.toNat < 256 := byte.toNat_lt
      intro c hc hres
      rcases List.mem_cons.1 hc with hpercent | hc
      · exact hpercent
      rcases List.mem_cons.1 hc with rfl | hc
      · exact absurd hres (hdigit _ (by omega) _ hhigh)
      rcases List.mem_cons.1 hc with rfl | hc
      · exact absurd hres (hdigit _ (by omega) _ hlow)
      exact ih c hc hres

/-- **Of the reserved characters a spelling holds only the `%`.** -/
lemma eq_percent_of_mem_spells {s spelled : List Char} (h : Spells s spelled) :
    ∀ c ∈ spelled, c ∈ reserved → c = '%' := by
  induction h with
  | nil => exact fun c hc => absurd hc List.not_mem_nil
  | cons hfront _ ih =>
      intro c hc hres
      rcases List.mem_append.1 hc with hc | hc
      · cases hfront with
        | literal h => exact absurd (List.mem_singleton.1 hc ▸ hres) h
        | escaped h => exact eq_percent_of_mem_spellsBytes h c hc hres
      · exact ih c hc hres

/-- A spelled URI: the scheme, an empty authority, and the path with its first slash. -/
def ofSpelled (spelled : List Char) : List Char := filePrefix ++ '/' :: spelled

/-- Nothing of a spelled URI is dropped. -/
lemma cleaned_ofSpelled {spelled : List Char} (h : ∀ c ∈ spelled, c ∈ reserved → c = '%') :
    cleaned (ofSpelled spelled) = ofSpelled spelled := by
  have hfront : (ofSpelled spelled).dropWhile (·.toNat ≤ 0x20) = ofSpelled spelled := rfl
  have hkept : ∀ c ∈ ofSpelled spelled, c ≠ '\t' ∧ c ≠ '\r' ∧ c ≠ '\n' := by
    intro c hc
    rcases List.mem_append.1 hc with hc | hc
    · have hall : filePrefix.all fun d => d != '\t' && d != '\r' && d != '\n' := by decide
      simpa [and_assoc] using List.all_eq_true.1 hall c hc
    rcases List.mem_cons.1 hc with rfl | hc
    · decide
    · have hne : ∀ d ∈ reserved, d ≠ '%' → c ≠ d := fun d hd hdp he => hdp (he ▸ h c hc (he ▸ hd))
      exact ⟨hne '\t' (by decide) (by decide), hne '\r' (by decide) (by decide),
        hne '\n' (by decide) (by decide)⟩
  rw [cleaned, hfront, List.filter_eq_self]
  intro c hc
  simpa [bne_iff_ne, and_assoc] using hkept c hc

/-- A spelled path ends at no delimiter. -/
lemma upTo_spelled {sep : Char} (hsep : sep ∈ ['?', '#']) {spelled : List Char}
    (h : ∀ c ∈ spelled, c ∈ reserved → c = '%') : upTo sep ('/' :: spelled) = '/' :: spelled := by
  obtain ⟨hmem, hpercent, hslash⟩ : sep ∈ reserved ∧ sep ≠ '%' ∧ sep ≠ '/' := by
    rcases List.mem_pair.1 hsep with rfl | rfl
    · decide
    · decide
  rw [upTo, List.takeWhile_eq_self_iff]
  intro c hc
  have hne : c ≠ sep := by
    rcases List.mem_cons.1 hc with rfl | hc
    · exact hslash.symm
    · rintro rfl
      exact hpercent (h c hc hmem)
  simpa using hne

/-- **A spelled URI denotes the path that is spelled**, and reading it never fails. -/
theorem toPath_of_spells {s spelled : List Char} (h : Spells s spelled) :
    toPath (ofSpelled spelled) = .ok ('/' :: s) := by
  have hres := eq_percent_of_mem_spells h
  have hmark : occursIn marker (ofSpelled spelled) = true := rfl
  have hpath : pathPart (ofSpelled spelled) = .ok ('/' :: spelled) := by
    have hscheme : cutScheme (ofSpelled spelled)
        = ("file".toList, "//".toList ++ '/' :: spelled) := rfl
    have hauthority : cutAuthority ("//".toList ++ '/' :: spelled) = ([], '/' :: spelled) := rfl
    rw [pathPart, cleaned_ofSpelled hres, hscheme]
    simp only [hauthority, upTo_spelled (by decide : '#' ∈ ['?', '#']) hres,
      upTo_spelled (by decide : '?' ∈ ['?', '#']) hres]
    rfl
  have hslash : Spells ('/' :: s) ('/' :: spelled) := .cons (.literal (by decide)) h
  rw [toPath, if_pos hmark, hpath]
  exact congrArg _ (unescape_of_spells hslash)

end ContainerClients.Uri

namespace ContainerClients.Mapping

/-- URIs that denote the same path are translated alike. -/
lemma toHostPath_congr {uri other : String} (h : pathOfUri uri = pathOfUri other)
    (mapping : Mapping) (container : String) :
    mapping.toHostPath container uri = mapping.toHostPath container other := by
  rw [toHostPath, toHostPath, h]

/-- **Every spelling of a file URI denotes the same path**, so the style in which a server escapes
never changes what its URIs are translated to. -/
theorem pathOfUri_of_spells {path spelled : List Char} (h : Uri.Spells path spelled) :
    pathOfUri ("file://" ++ String.ofList ('/' :: spelled)) = .ok (String.ofList ('/' :: path))
    ∧ ∀ other, Uri.Spells path other → ∀ (mapping : Mapping) (container : String),
        mapping.toHostPath container ("file://" ++ String.ofList ('/' :: spelled))
          = mapping.toHostPath container ("file://" ++ String.ofList ('/' :: other)) := by
  have hread : ∀ {spelled}, Uri.Spells path spelled →
      pathOfUri ("file://" ++ String.ofList ('/' :: spelled))
        = .ok (String.ofList ('/' :: path)) := by
    intro spelled h
    have htext : ("file://" ++ String.ofList ('/' :: spelled)).toList = Uri.ofSpelled spelled := by
      rw [String.toList_append]
      exact congrArg (Uri.filePrefix ++ ·) String.toList_ofList
    rw [pathOfUri, htext, Uri.toPath_of_spells h]
  exact ⟨hread h, fun other hother => toHostPath_congr ((hread h).trans (hread hother).symm)⟩

/-- A letter beyond ASCII as escapes in both cases, a percent sign, and a letter that needs no
escape. -/
theorem pathOfUri_of_spells_mixed_case :
    Uri.Spells "é%a".toList "%c3%A9%25%61".toList
    ∧ Uri.Spells "é%a".toList "é%25a".toList
    ∧ pathOfUri "file:///%c3%A9%25%61" = .ok "/é%a"
    ∧ ∀ (mapping : Mapping) (container : String),
        mapping.toHostPath container "file:///%c3%A9%25%61"
          = mapping.toHostPath container "file:///é%25a" := by
  have hbytes : Uri.SpellsBytes [0xC3, 0xA9] "%c3%A9".toList :=
    .cons (by decide) (by decide) (.cons (by decide) (by decide) .nil)
  have haccent : Uri.SpellsChar 'é' "%c3%A9".toList := .escaped hbytes
  have hsignBytes : Uri.SpellsBytes [0x25] "%25".toList := .cons (by decide) (by decide) .nil
  have hsign : Uri.SpellsChar '%' "%25".toList := .escaped hsignBytes
  have hletterBytes : Uri.SpellsBytes [0x61] "%61".toList := .cons (by decide) (by decide) .nil
  have hletter : Uri.SpellsChar 'a' "%61".toList := .escaped hletterBytes
  have haccentItself : Uri.SpellsChar 'é' ['é'] := .literal (by decide)
  have hletterItself : Uri.SpellsChar 'a' ['a'] := .literal (by decide)
  have hescaped : Uri.Spells "é%a".toList "%c3%A9%25%61".toList :=
    .cons haccent (.cons hsign (.cons hletter .nil))
  have hliteral : Uri.Spells "é%a".toList "é%25a".toList :=
    .cons haccentItself (.cons hsign (.cons hletterItself .nil))
  obtain ⟨hread, hsame⟩ := pathOfUri_of_spells hescaped
  exact ⟨hescaped, hliteral, hread, hsame _ hliteral⟩

end ContainerClients.Mapping
