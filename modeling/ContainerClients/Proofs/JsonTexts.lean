import Mathlib.Data.List.TakeWhile
import Mathlib.Tactic.Common
import ContainerClients.Datum.Json
import ContainerClients.Uri.Percent

/-!
# JSON lists of texts are read back

A list of texts is written as JSON in plain ASCII: some characters have an escape of one letter, and
the others outside of ASCII are written by their code units, the ones beyond the first 65536 as a
pair of surrogates.  Reading JSON gives the texts back, whatever characters are in them.

* `readTexts` — the texts of a JSON list of strings, with `readString` for one string and
  `readItems` for the items.
* `readString_jsonChar`, `readString_text` — a written character and a written text are read back.
* **`readTexts_json`** — so is a written list of texts.
-/

namespace ContainerClients.Datum

open ContainerClients.Text

/-! ## Reading -/

/-- The characters that may stand between the parts of a JSON text. -/
def isJsonBlank (c : Char) : Bool := c == ' ' || c == '\t' || c == '\n' || c == '\r'

/-- What an escape of one letter stands for. -/
def letterEscape? (c : Char) : Option Char :=
  if c = '"' ∨ c = '\\' ∨ c = '/' then some c
  else if c = 'b' then some (Char.ofNat 0x8)
  else if c = 'f' then some (Char.ofNat 0xC)
  else if c = 'n' then some '\n'
  else if c = 'r' then some '\r'
  else if c = 't' then some '\t'
  else none

/-- The code unit of four hexadecimal digits. -/
def codeUnit? (a b c d : Char) : Option Nat := do
  return 4096 * (← Uri.hexValue? a) + 256 * (← Uri.hexValue? b) + 16 * (← Uri.hexValue? c)
    + (← Uri.hexValue? d)

/-- The character of two code units that form a pair of surrogates. -/
def pairedChar? (high low : Nat) : Option Char :=
  if 0xD800 ≤ high ∧ high < 0xDC00 ∧ 0xDC00 ≤ low ∧ low < 0xE000 then
    some (Char.ofNat (0x10000 + 0x400 * (high - 0xD800) + (low - 0xDC00)))
  else none

/-- Whether a code unit is half of a pair. -/
def isSurrogate (n : Nat) : Bool := 0xD800 ≤ n && n < 0xE000

/-- One more character in front of what is read. -/
def pushChar (c : Char) (read : List Char × List Char) : List Char × List Char :=
  (c :: read.1, read.2)

/-- **The inside of a string** up to the quotation mark that ends it, and what is behind that. -/
def readString : List Char → Option (List Char × List Char)
  | [] => none
  | '"' :: rest => some ([], rest)
  | '\\' :: 'u' :: a :: b :: c :: d :: rest => do
    let n ← codeUnit? a b c d
    if isSurrogate n then
      match rest with
      | '\\' :: 'u' :: e :: f :: g :: h :: rest => do
        let c ← pairedChar? n (← codeUnit? e f g h)
        (readString rest).map (pushChar c)
      | _ => none
    else (readString rest).map (pushChar (Char.ofNat n))
  | '\\' :: c :: rest => do
    let c ← letterEscape? c
    (readString rest).map (pushChar c)
  | '\\' :: [] => none
  | c :: rest => if c.toNat < 0x20 then none else (readString rest).map (pushChar c)

/-- What is behind a string is shorter than the string with what is behind it. -/
lemma length_lt_of_readString {s : List Char} {read : List Char × List Char}
    (h : readString s = some read) : read.2.length < s.length := by
  -- a character in front makes what is behind no longer
  have hpush {c : Char} {rest : List Char} {read : List Char × List Char}
      (ih : ∀ {read : List Char × List Char}, readString rest = some read →
        read.2.length < rest.length)
      (h : (readString rest).map (pushChar c) = some read) : read.2.length < rest.length := by
    obtain ⟨behind, hbehind, rfl⟩ := Option.map_eq_some_iff.1 h
    have hlt := ih hbehind
    exact hlt
  fun_induction readString s generalizing read with
  | case1 | case5 | case6 => contradiction
  | case2 rest =>
    obtain rfl := Option.some.inj h
    exact Nat.lt_succ_self _
  | case3 a b c d rest ihpair ih =>
    obtain ⟨n, -, h⟩ := Option.bind_eq_some_iff.1 h
    split_ifs at h
    · split at h
      · obtain ⟨low, -, h⟩ := Option.bind_eq_some_iff.1 h
        obtain ⟨c, -, h⟩ := Option.bind_eq_some_iff.1 h
        have hlt := hpush ihpair h
        simp only [List.length_cons]
        omega
      · contradiction
    · have hlt := hpush ih h
      simp only [List.length_cons]
      omega
  | case4 c rest _ ih =>
    obtain ⟨c, -, h⟩ := Option.bind_eq_some_iff.1 h
    have hlt := hpush ih h
    simp only [List.length_cons]
    omega
  | case7 c rest _ _ _ _ _ ih =>
    have hlt := hpush ih h
    simp only [List.length_cons]
    omega

/-- Blanks in front are passed over. -/
def skipBlanks (s : List Char) : List Char := s.dropWhile isJsonBlank

lemma length_skipBlanks_le (s : List Char) : (skipBlanks s).length ≤ s.length :=
  (List.dropWhile_suffix isJsonBlank).length_le

/-- **The items of a list** from the first one on, and what is behind the bracket that ends it. -/
def readItems (s : List Char) : Option (List (List Char) × List Char) :=
  match _hopened : skipBlanks s with
  | '"' :: rest =>
    match _hstring : readString rest with
    | none => none
    | some (item, behind) =>
      match _hnext : skipBlanks behind with
      | ',' :: rest => (readItems rest).map fun read => (item :: read.1, read.2)
      | ']' :: rest => some ([item], rest)
      | _ => none
  | _ => none
termination_by s.length
decreasing_by
  have hitem := length_lt_of_readString _hstring
  have hfront := length_skipBlanks_le s
  have hbehind := length_skipBlanks_le behind
  rw [_hopened, List.length_cons] at hfront
  rw [_hnext, List.length_cons] at hbehind
  dsimp only at hitem
  omega

/-- The items that are read, if there are only blanks behind them. -/
def wholeTexts (read : List (List Char) × List Char) : Option (List String) :=
  if (skipBlanks read.2).isEmpty then some (read.1.map String.ofList) else none

/-- **The texts of a JSON list of strings**, with blanks anywhere between its parts. -/
def readTexts (s : String) : Option (List String) :=
  match skipBlanks s.toList with
  | '[' :: rest =>
    match skipBlanks rest with
    | ']' :: rest => wholeTexts ([], rest)
    | rest => (readItems rest).bind wholeTexts
  | _ => none

/-! ## One character -/

lemma hexValue?_hexDigit : ∀ n < 16, Uri.hexValue? (hexDigit n) = some n := by decide

lemma jsonUnit_eq (n : Nat) :
    jsonUnit n = ['\\', 'u', hexDigit (n / 4096 % 16), hexDigit (n / 256 % 16),
      hexDigit (n / 16 % 16), hexDigit (n % 16)] := by
  simp only [jsonUnit, hexText, List.nil_append, List.cons_append, Nat.div_div_eq_div_mul]

lemma codeUnit?_hexDigits {n : Nat} (h : n < 0x10000) :
    codeUnit? (hexDigit (n / 4096 % 16)) (hexDigit (n / 256 % 16)) (hexDigit (n / 16 % 16))
      (hexDigit (n % 16)) = some n := by
  have hdigit (m : Nat) : Uri.hexValue? (hexDigit (m % 16)) = some (m % 16) :=
    hexValue?_hexDigit _ (Nat.mod_lt m (by decide))
  simp only [codeUnit?, hdigit]
  exact congrArg some (show _ = n by omega)

/-- An escaped code unit that is no half of a pair is read back. -/
lemma readString_jsonUnit {n : Nat} (h : n < 0x10000) (hwhole : isSurrogate n = false)
    (rest : List Char) :
    readString (jsonUnit n ++ rest) = (readString rest).map (pushChar (Char.ofNat n)) := by
  rw [jsonUnit_eq]
  simp only [List.cons_append, List.nil_append]
  rw [readString, codeUnit?_hexDigits h]
  simp [hwhole]

/-- A pair of surrogates is read back as one character. -/
lemma readString_pair {high low : Nat} {c : Char} (hhigh : high < 0x10000)
    (hsurrogate : isSurrogate high = true) (hlow : low < 0x10000)
    (hpair : pairedChar? high low = some c) (rest : List Char) :
    readString (jsonUnit high ++ jsonUnit low ++ rest) = (readString rest).map (pushChar c) := by
  rw [jsonUnit_eq, jsonUnit_eq]
  simp only [List.cons_append, List.nil_append]
  rw [readString, codeUnit?_hexDigits hhigh]
  simp [hsurrogate, codeUnit?_hexDigits hlow, hpair]

/-- A character is no half of a pair, and below the end of the code points. -/
lemma bounds_toNat (c : Char) : isSurrogate c.toNat = false ∧ c.toNat < 0x110000 := by
  have hvalid : c.toNat < 0xD800 ∨ 0xDFFF < c.toNat ∧ c.toNat < 0x110000 := c.valid
  refine ⟨?_, by omega⟩
  simp only [isSurrogate, Bool.and_eq_false_iff, decide_eq_false_iff_not]
  omega

/-- The pair of a character beyond the first 65536. -/
lemma readString_beyond {c : Char} (h : 0x10000 ≤ c.toNat) (rest : List Char) :
    readString (jsonUnit (0xD800 + (c.toNat - 0x10000) / 0x400)
        ++ jsonUnit (0xDC00 + (c.toNat - 0x10000) % 0x400) ++ rest)
      = (readString rest).map (pushChar c) := by
  have hbound := (bounds_toNat c).2
  refine readString_pair (by omega) ?_ (by omega) ?_ rest
  · simp only [isSurrogate, Bool.and_eq_true, decide_eq_true_eq]
    omega
  · rw [pairedChar?, if_pos (by omega)]
    have hback : 0x10000 + 0x400 * (0xD800 + (c.toNat - 0x10000) / 0x400 - 0xD800)
        + (0xDC00 + (c.toNat - 0x10000) % 0x400 - 0xDC00) = c.toNat := by omega
    rw [hback, Char.ofNat_toNat]

/-- **A written character is read back**, whatever stands behind it. -/
lemma readString_jsonChar (c : Char) (rest : List Char) :
    readString (jsonChar c ++ rest) = (readString rest).map (pushChar c) := by
  unfold jsonChar
  split_ifs with hquote hbackslash hfeed hreturn htab hback hform hplain hunit
  · subst hquote
    rfl
  · subst hbackslash
    rfl
  · subst hfeed
    rfl
  · subst hreturn
    rfl
  · subst htab
    rfl
  · rw [← Char.ofNat_toNat c, hback]
    rfl
  · rw [← Char.ofNat_toNat c, hform]
    rfl
  · rw [List.singleton_append, readString]
    · exact if_neg (by omega)
    all_goals simp [hquote, hbackslash]
  · rw [readString_jsonUnit hunit (bounds_toNat c).1, Char.ofNat_toNat]
  · exact readString_beyond (by omega) rest

/-! ## Texts and lists -/

/-- **A written text is read back**, up to the quotation mark that ends it. -/
theorem readString_text (s rest : List Char) :
    readString (s.flatMap jsonChar ++ '"' :: rest) = some (s, rest) := by
  induction s with
  | nil => rfl
  | cons c s ih =>
    rw [List.flatMap_cons, List.append_assoc, readString_jsonChar, ih]
    rfl

/-- Where there is no blank, none is passed over. -/
lemma skipBlanks_cons {c : Char} (h : isJsonBlank c = false) (rest : List Char) :
    skipBlanks (c :: rest) = c :: rest :=
  List.dropWhile_cons_of_neg (by simp [h])

lemma toList_jsonText (s : String) :
    (jsonText s).toList = '"' :: (s.toList.flatMap jsonChar ++ ['"']) := by
  rw [jsonText, String.toList_ofList]
  rfl

/-- An item, and what comes of the comma or the bracket behind it. -/
lemma readItems_cons (item : String) (c : Char) (rest : List Char) (hc : isJsonBlank c = false) :
    readItems ((jsonText item).toList ++ c :: rest)
      = if c = ',' then (readItems rest).map fun read => (item.toList :: read.1, read.2)
        else if c = ']' then some ([item.toList], rest) else none := by
  have hopened : skipBlanks ((jsonText item).toList ++ c :: rest)
      = '"' :: (item.toList.flatMap jsonChar ++ '"' :: c :: rest) := by
    rw [toList_jsonText, List.cons_append, List.append_assoc, List.singleton_append]
    exact skipBlanks_cons rfl _
  rw [readItems]
  split
  · rename_i behind heq
    obtain rfl := (List.cons.inj (hopened.symm.trans heq)).2
    split
    · rename_i hnone
      rw [readString_text] at hnone
      exact absurd hnone (Option.some_ne_none _)
    · rename_i read behind hread
      rw [readString_text] at hread
      obtain ⟨rfl, rfl⟩ := Prod.mk.inj (Option.some.inj hread)
      have hnext := skipBlanks_cons hc rest
      split
      · rename_i heq
        obtain ⟨rfl, rfl⟩ := List.cons.inj (hnext.symm.trans heq)
        rfl
      · rename_i heq
        obtain ⟨rfl, rfl⟩ := List.cons.inj (hnext.symm.trans heq)
        rfl
      · rename_i hcomma hbracket
        rw [if_neg, if_neg]
        · rintro rfl
          exact hbracket _ hnext
        · rintro rfl
          exact hcomma _ hnext
  · rename_i hne
    exact absurd hopened (hne _)

lemma readItems_blank (s : List Char) : readItems (' ' :: s) = readItems s :=
  (readItems.eq_1 (' ' :: s)).trans (readItems.eq_1 s).symm

/-- The items of a list are written with a comma and a blank between them. -/
lemma readItems_intercalate (item : String) (others : List String) (rest : List Char) :
    readItems ((", ".intercalate ((item :: others).map jsonText)).toList ++ ']' :: rest)
      = some ((item :: others).map String.toList, rest) := by
  induction others generalizing item with
  | nil =>
    rw [List.map_singleton, String.intercalate_singleton, readItems_cons item _ _ rfl]
    rfl
  | cons next others ih =>
    rw [List.map_cons, List.map_cons, String.intercalate_cons_cons, ← List.map_cons,
      String.toList_append, String.toList_append, List.append_assoc, List.append_assoc]
    refine (readItems_cons item ',' (' ' :: _) rfl).trans ?_
    rw [if_pos rfl, readItems_blank]
    refine (congrArg _ (ih next)).trans ?_
    rfl

lemma jsonItems_eq (texts : List String) : jsonItems (texts.map .text) = texts.map jsonText := by
  induction texts with
  | nil => rfl
  | cons text rest ih =>
    rw [List.map_cons, jsonItems, ih]
    rfl

/-- A list with a first item is written with a quotation mark in front. -/
lemma exists_of_items (item : String) (others : List String) :
    ∃ rest, (", ".intercalate ((item :: others).map jsonText)).toList = '"' :: rest := by
  rw [List.map_cons]
  cases others with
  | nil => exact ⟨_, by rw [List.map_nil, String.intercalate_singleton, toList_jsonText]⟩
  | cons next others =>
    rw [List.map_cons, String.intercalate_cons_cons, String.toList_append, String.toList_append,
      toList_jsonText]
    exact ⟨_, rfl⟩

/-- With blanks behind them, the items are the texts. -/
lemma wholeTexts_of_blanks (texts : List String) {rest : List Char}
    (h : ∀ c ∈ rest, isJsonBlank c) : wholeTexts (texts.map String.toList, rest) = some texts := by
  have hrest : skipBlanks rest = [] := List.dropWhile_eq_nil_iff.2 h
  simp [wholeTexts, hrest]

/-- **A written list of texts is read back**, also with blanks behind it. -/
theorem readTexts_json (texts : List String) {tail : String}
    (h : ∀ c ∈ tail.toList, isJsonBlank c) :
    readTexts ((ofTexts texts).json ++ tail) = some texts := by
  have hjson : ((ofTexts texts).json ++ tail).toList
      = '[' :: ((", ".intercalate (texts.map jsonText)).toList ++ ']' :: tail.toList) := by
    rw [ofTexts, json, jsonItems_eq]
    simp
  rw [readTexts, hjson, skipBlanks_cons rfl]
  cases texts with
  | nil =>
    -- the bracket that ends the list follows at once
    exact wholeTexts_of_blanks [] h
  | cons text rest =>
    -- it does not, since the first item does
    have hitems := readItems_intercalate text rest tail.toList
    obtain ⟨inside, hinside⟩ := exists_of_items text rest
    rw [hinside] at hitems ⊢
    calc ((readItems ('"' :: (inside ++ ']' :: tail.toList))).bind wholeTexts)
      _ = wholeTexts ((text :: rest).map String.toList, tail.toList) :=
        congrArg (·.bind wholeTexts) hitems
      _ = some (text :: rest) := wholeTexts_of_blanks _ h

end ContainerClients.Datum
