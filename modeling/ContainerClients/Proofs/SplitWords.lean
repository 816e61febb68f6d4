import Mathlib.Tactic.Common
import ContainerClients.Command.Words

/-!
# What a shell makes of written words

A shell that is handed a written command line cuts it at the separators, and a quotation with
nothing in it is a word, too.  The library's own reader leaves such words out.  So there are two
readers: one for what others make of a line, and the library's, which drops the empty words of the
first.

Reading goes from character to character, in a mode and with an open word.  So the laws are about a
text with any rest behind it: reading a written word adds its characters to the open word, and
comes to the rest in the mode it started in.  A safe word is read as it stands.  Between single
quotes, the only character that is not itself is the single quote, which is written as a way out of
the quotation and back into it.

* `splitWords` — the words of a line, the empty ones included.
* `readFrom_eq` — the library's reader leaves out the empty ones, and nothing else.
* `splitFrom_safe`, `splitFrom_quotedChars` — a safe word, and the inside of a quotation.
* **`splitFrom_quoteWord`** — a written word.
* **`splitWords_showWords`** — several of them, with separators behind them.
-/

namespace ContainerClients.Command

/-- Reading on in a mode.  There may be an open word, with what is read of it already. -/
def splitFrom (mode : Mode) (word : Option (List Char)) :
    List Char → Except WordFault (List (List Char))
  | [] =>
    match mode with
    | .plain => .ok word.toList
    | .single | .double => .error .openQuotation
    | .escaped | .escapedInDouble => .error .nothingEscaped
  | c :: rest =>
    match mode with
    | .plain =>
      if isSeparator c then (splitFrom .plain none rest).map (word.toList ++ ·)
      else if c = '\'' then splitFrom .single (some (word.getD [])) rest
      else if c = '"' then splitFrom .double (some (word.getD [])) rest
      else if c = '\\' then splitFrom .escaped word rest
      else splitFrom .plain (some (word.getD [] ++ [c])) rest
    | .single =>
      if c = '\'' then splitFrom .plain word rest
      else splitFrom .single (some (word.getD [] ++ [c])) rest
    | .double =>
      if c = '"' then splitFrom .plain word rest
      else if c = '\\' then splitFrom .escapedInDouble word rest
      else splitFrom .double (some (word.getD [] ++ [c])) rest
    | .escaped => splitFrom .plain (some (word.getD [] ++ [c])) rest
    | .escapedInDouble =>
      if c = '"' ∨ c = '\\' then splitFrom .double (some (word.getD [] ++ [c])) rest
      else splitFrom .double (some (word.getD [] ++ ['\\', c])) rest

/-- **The words of a line**, as a shell cuts it. -/
def splitWords (s : List Char) : Except WordFault (List (List Char)) := splitFrom .plain none s

/-! ## The library's reader -/

/-- An open word is kept when there is something in it. -/
lemma consWord_getD (word : Option (List Char)) (others : List (List Char)) :
    consWord (word.getD []) (others.filter (!·.isEmpty))
      = (word.toList ++ others).filter (!·.isEmpty) := by
  rcases word with _ | _ | ⟨c, rest⟩ <;> rfl

/-- **The library's reader leaves out the empty words**, and nothing else. -/
theorem readFrom_eq (mode : Mode) (word : Option (List Char)) (s : List Char) :
    readFrom mode (word.getD []) s
      = (splitFrom mode word s).map fun words => words.filter (!·.isEmpty) := by
  induction s generalizing mode word with
  | nil =>
    cases mode with
    | plain => exact congrArg Except.ok (by simpa using consWord_getD word [])
    | _ => rfl
  | cons c rest ih =>
    cases mode with
    | plain =>
      rw [readFrom, splitFrom]
      split_ifs
      -- a separator ends the word, which only one of the readers keeps when it is empty
      · rw [show readFrom .plain [] rest = _ from ih .plain none]
        cases splitFrom .plain none rest with
        | error fault => rfl
        | ok others => exact congrArg Except.ok (consWord_getD word others)
      · exact ih .single (some (word.getD []))
      · exact ih .double (some (word.getD []))
      · exact ih .escaped word
      · exact ih .plain (some (word.getD [] ++ [c]))
    | single =>
      rw [readFrom, splitFrom]
      split_ifs
      · exact ih .plain word
      · exact ih .single (some (word.getD [] ++ [c]))
    | double =>
      rw [readFrom, splitFrom]
      split_ifs
      · exact ih .plain word
      · exact ih .escapedInDouble word
      · exact ih .double (some (word.getD [] ++ [c]))
    | escaped => exact ih .plain (some (word.getD [] ++ [c]))
    | escapedInDouble =>
      rw [readFrom, splitFrom]
      split_ifs
      · exact ih .double (some (word.getD [] ++ [c]))
      · exact ih .double (some (word.getD [] ++ ['\\', c]))

lemma readWords_eq (s : List Char) :
    readWords s = (splitWords s).map fun words => words.filter (!·.isEmpty) :=
  readFrom_eq .plain none s

/-! ## One word -/

lemma splitFrom_plain_of_isSafe {c : Char} (h : isSafe c) (word : Option (List Char))
    (rest : List Char) :
    splitFrom .plain word (c :: rest) = splitFrom .plain (some (word.getD [] ++ [c])) rest := by
  have hne : ∀ special, isSafe special = false → c ≠ special := by
    rintro special hs rfl
    exact Bool.eq_false_iff.1 hs h
  have hseparator : isSeparator c = false := by
    simp only [isSeparator, Bool.or_eq_false_iff, beq_eq_false_iff_ne]
    exact ⟨⟨⟨hne ' ' (by decide), hne '\t' (by decide)⟩, hne '\r' (by decide)⟩,
      hne '\n' (by decide)⟩
  rw [splitFrom]
  simp only [hseparator, hne '\'' (by decide), hne '"' (by decide), hne '\\' (by decide), if_false,
    Bool.false_eq_true]

/-- **A safe word is read as it stands**, unless it is empty. -/
lemma splitFrom_safe {word : List Char} (hne : word ≠ []) (h : ∀ c ∈ word, isSafe c)
    (front : Option (List Char)) (rest : List Char) :
    splitFrom .plain front (word ++ rest)
      = splitFrom .plain (some (front.getD [] ++ word)) rest := by
  induction word generalizing front with
  | nil => exact absurd rfl hne
  | cons c others ih =>
    rw [List.cons_append, splitFrom_plain_of_isSafe (h c List.mem_cons_self)]
    cases others with
    | nil => rfl
    | cons d others =>
      rw [ih (List.cons_ne_nil _ _) fun e he => h e (List.mem_cons_of_mem c he), Option.getD_some,
        List.append_assoc, List.singleton_append]

/-- A character between single quotes is read as it is, the single quote included. -/
lemma splitFrom_quotedChar (c : Char) (word rest : List Char) :
    splitFrom .single (some word) (quotedChar c ++ rest)
      = splitFrom .single (some (word ++ [c])) rest := by
  rw [quotedChar]
  split_ifs with hc
  -- out of the quotation, a single quote between double quotes, and in again
  · subst hc
    rfl
  · rw [List.singleton_append, splitFrom]
    exact if_neg hc

/-- **The inside of a quotation** is read up to the quote that ends it. -/
lemma splitFrom_quotedChars (word front rest : List Char) :
    splitFrom .single (some front) (word.flatMap quotedChar ++ '\'' :: rest)
      = splitFrom .plain (some (front ++ word)) rest := by
  induction word generalizing front with
  | nil =>
    rw [List.flatMap_nil, List.nil_append, List.append_nil]
    rfl
  | cons c others ih =>
    rw [List.flatMap_cons, List.append_assoc, splitFrom_quotedChar, ih,
      List.append_cons front c others]

/-- **A written word adds its characters to the open word**, whatever stands before and behind.  The
word is open then, also when there is nothing in it. -/
theorem splitFrom_quoteWord (word : List Char) (front : Option (List Char)) (rest : List Char) :
    splitFrom .plain front (quoteWord word ++ rest)
      = splitFrom .plain (some (front.getD [] ++ word)) rest := by
  rw [quoteWord]
  split_ifs with hsafe
  · rw [Bool.and_eq_true, List.all_eq_true] at hsafe
    exact splitFrom_safe (by simpa using hsafe.1) hsafe.2 front rest
  · rw [List.cons_append, List.cons_append, List.append_assoc]
    exact splitFrom_quotedChars word (front.getD []) rest

/-! ## Several words -/

/-- Separators end the open word, and there is nothing behind them. -/
lemma splitFrom_separators (word : Option (List Char)) {tail : List Char}
    (h : ∀ c ∈ tail, isSeparator c) : splitFrom .plain word tail = .ok word.toList := by
  induction tail generalizing word with
  | nil => rfl
  | cons c rest ih =>
    rw [splitFrom, if_pos (h c List.mem_cons_self),
      ih none fun d hd => h d (List.mem_cons_of_mem c hd)]
    exact congrArg Except.ok (List.append_nil _)

/-- A word that may be open already, and written words behind it. -/
lemma splitFrom_showWords_cons (front : Option (List Char)) (word : List Char)
    (others : List (List Char)) {tail : List Char} (h : ∀ c ∈ tail, isSeparator c) :
    splitFrom .plain front (showWords (word :: others) ++ tail)
      = .ok ((front.getD [] ++ word) :: others) := by
  rw [showWords, List.map_cons]
  induction others generalizing front word with
  | nil =>
    rw [List.map_nil, List.intercalate_singleton, splitFrom_quoteWord, splitFrom_separators _ h]
    rfl
  | cons next others ih =>
    -- the blank behind the first word ends it, and no word is open at the next one
    rw [List.map_cons, List.intercalate_cons_cons, List.append_assoc, List.append_assoc,
      splitFrom_quoteWord, List.singleton_append, splitFrom, if_pos (by decide), ih]
    rfl

/-- **Written words are what a shell makes of them**, the empty ones included, also with separators
behind them. -/
theorem splitWords_showWords (words : List (List Char)) {tail : List Char}
    (h : ∀ c ∈ tail, isSeparator c) : splitWords (showWords words ++ tail) = .ok words := by
  cases words with
  | nil => exact splitFrom_separators none h
  | cons word others => exact splitFrom_showWords_cons none word others h

end ContainerClients.Command
