import Mathlib.Data.Rat.Cast.Order
import Mathlib.Data.String.Basic
import ContainerClients.Proofs.Success
import ContainerClients.Registry

/-!
# The order of clients

Clients are put in order by falling rank, and by rising id among those of one rank.  Sorting puts a
list in order only if any two items can be compared, and comparisons can be chained.  So these two
laws are proved for every order that the order of clients is made of.

* `eq_of_pairwise_of_mem_iff` — a list in a strict order is determined by its members.
* `Rank.lt_chain`, `Rank.lt_or_eq_or_lt` — ranks.
* `ClientId.Key.precedes_chain`, `ClientId.Key.precedes_total` — ids, by their keys.
* `ClientId.Key.Below` — the strict order of ids.
* `Registry.ranked_eq_ok_iff`, `Registry.precedes_chain`, `Registry.precedes_total` — ranked
  clients.
* `Registry.exists_activated_iff`, `Registry.mem_activated_iff` — asking the clients of a list
  whether a file activates them.
-/

namespace ContainerClients

/-- **A list in a strict order is determined by its members.** -/
lemma eq_of_pairwise_of_mem_iff {α : Type} {before : α → α → Prop} {xs ys : List α}
    (hasymm : ∀ a b, before a b → ¬ before b a) (hxs : xs.Pairwise before)
    (hys : ys.Pairwise before) (hmem : ∀ a, a ∈ xs ↔ a ∈ ys) : xs = ys := by
  have hne : ∀ {a b}, before a b → a ≠ b := by
    rintro a b hab rfl
    exact hasymm a a hab hab
  refine List.Perm.eq_of_pairwise (fun a b _ _ hab hba => absurd hba (hasymm a b hab)) hxs hys ?_
  exact (List.perm_ext_iff_of_nodup (hxs.imp hne) (hys.imp hne)).2 hmem

/-! ## Ranks -/

namespace Rank

variable {r s t : Rank}

/-- A rank below another is below all that the other is below. -/
lemma lt_chain (hrs : r.lt s) (hst : s.lt t) : r.lt t := by
  cases r <;> cases s <;> cases t <;> simp_all only [lt, decide_eq_true_eq, Bool.false_eq_true]
  exact hrs.trans hst

/-- **Of two ranks, one is below the other unless they are equal.** -/
lemma lt_or_eq_or_lt (r s : Rank) : r.lt s ∨ r = s ∨ s.lt r := by
  cases r <;> cases s <;> simp only [lt, number.injEq, decide_eq_true_eq, true_or, or_true]
  exact lt_trichotomy _ _

lemma not_lt_self (r : Rank) : ¬ r.lt r := by
  cases r <;> simp [lt]

lemma not_lt_of_lt (h : r.lt s) : ¬ s.lt r := fun hback => r.not_lt_self (lt_chain h hback)

/-- Whole numbers are ranked as they are ordered. -/
lemma lt_ofWhole {i j : Int} : (ofWhole i).lt (ofWhole j) ↔ i < j := by
  rw [ofWhole, ofWhole, lt, decide_eq_true_eq, Int.cast_lt]

lemma ofWhole_inj {i j : Int} : ofWhole i = ofWhole j ↔ i = j := by
  rw [ofWhole, ofWhole, number.injEq, Int.cast_inj]

end Rank

/-! ## Ids -/

namespace ClientId.Key

/-- Texts are ordered by their characters. -/
lemma precedes_text {s t : String} : (text s).precedes (text t) ↔ s ≤ t := by
  rw [precedes, decide_eq_true_eq]

/-- Numbers are ordered by their ranks. -/
lemma precedes_number {r s : Rank} : (number r).precedes (number s) ↔ ¬ s.lt r := by
  rw [precedes, Bool.not_eq_true', Bool.not_eq_true]

/-- **Any two keys can be compared.** -/
lemma precedes_total (a b : Key) : a.precedes b ∨ b.precedes a := by
  cases a with
  | nothing => exact .inl (by cases b <;> rfl)
  | number r =>
      cases b with
      | nothing => exact .inr rfl
      | number s =>
          rw [precedes_number, precedes_number]
          rcases r.lt_or_eq_or_lt s with h | rfl | h
          · exact .inl (Rank.not_lt_of_lt h)
          · exact .inl r.not_lt_self
          · exact .inr (Rank.not_lt_of_lt h)
      | text t => exact .inl rfl
  | text s =>
      cases b with
      | nothing => exact .inr rfl
      | number r => exact .inr rfl
      | text t =>
          rw [precedes_text, precedes_text]
          exact String.le_total s t

/-- **Comparisons of keys can be chained.** -/
lemma precedes_chain {a b c : Key} (hab : a.precedes b) (hbc : b.precedes c) : a.precedes c := by
  -- kinds only rise along a chain, so the orders of numbers and of texts are left to be chained
  cases a with
  | nothing => cases c <;> rfl
  | number r =>
      cases c with
      | nothing => cases b <;> contradiction
      | text t => rfl
      | number t =>
          cases b with
          | nothing => contradiction
          | text s => contradiction
          | number s =>
              rw [precedes_number] at hab hbc ⊢
              intro htr
              rcases r.lt_or_eq_or_lt s with h | rfl | h
              · exact hbc (Rank.lt_chain htr h)
              · exact hbc htr
              · exact hab h
  | text s =>
      cases b with
      | nothing => contradiction
      | number r => contradiction
      | text t =>
          cases c with
          | nothing => contradiction
          | number r => contradiction
          | text u =>
              rw [precedes_text] at hab hbc ⊢
              exact String.le_trans hab hbc

/-- **One key is below another**: texts by their characters, numbers by their ranks. -/
inductive Below : Key → Key → Prop where
  /-- of two texts -/
  | text {s t : String} (h : s < t) : Below (.text s) (.text t)
  /-- of two numbers -/
  | number {r s : Rank} (h : r.lt s) : Below (.number r) (.number s)

/-- **Different keys of one kind are in strict order when they are in order.** -/
lemma below_of_precedes {a b : Key} (hkind : a.sameKind b) (hab : a.precedes b) (hne : a ≠ b) :
    a.Below b := by
  cases a with
  | nothing => cases b <;> contradiction
  | number r =>
      cases b with
      | nothing => contradiction
      | text t => contradiction
      | number s =>
          rw [precedes_number] at hab
          rcases r.lt_or_eq_or_lt s with h | rfl | h
          · exact .number h
          · contradiction
          · contradiction
  | text s =>
      cases b with
      | nothing => contradiction
      | number r => contradiction
      | text t =>
          refine .text (lt_of_le_of_ne (precedes_text.1 hab) ?_)
          rintro rfl
          contradiction

lemma Below.ne {a b : Key} (h : a.Below b) : a ≠ b := by
  cases h with
  | text h => simpa using h.ne
  | @number r s h =>
      rintro ⟨⟩
      exact r.not_lt_self h

lemma below_text {s t : String} : (text s).Below (text t) ↔ s < t := by
  refine ⟨?_, .text⟩
  rintro ⟨h⟩
  exact h

end ClientId.Key

/-! ## Clients -/

namespace Registry

variable {a b c : Rank × Client}

/-- A client is ranked by its priority. -/
lemma ranked_eq_ok_iff {client : Client} {pair : Rank × Client} :
    ranked client = .ok pair ↔ Rank.ofDatum? client.priority = some pair.1 ∧ pair.2 = client := by
  obtain ⟨rank, source⟩ := pair
  rw [ranked]
  cases Rank.ofDatum? client.priority with
  | none => simp
  | some found => simp [eq_comm]

/-- A ranked client precedes another by its rank, or by its id among equals. -/
lemma precedes_iff : precedes a b
    ↔ b.1.lt a.1 ∨ a.1 = b.1 ∧ a.2.id.key.precedes b.2.id.key := by
  rw [precedes, Bool.or_eq_true, Bool.and_eq_true, decide_eq_true_eq]

/-- **Any two ranked clients can be compared.** -/
lemma precedes_total (a b : Rank × Client) : precedes a b ∨ precedes b a := by
  rw [precedes_iff, precedes_iff]
  rcases a.1.lt_or_eq_or_lt b.1 with h | h | h
  · exact .inr (.inl h)
  · rcases a.2.id.key.precedes_total b.2.id.key with hk | hk
    · exact .inl (.inr ⟨h, hk⟩)
    · exact .inr (.inr ⟨h.symm, hk⟩)
  · exact .inl (.inl h)

/-- **Comparisons of ranked clients can be chained.** -/
lemma precedes_chain (hab : precedes a b) (hbc : precedes b c) : precedes a c := by
  rw [precedes_iff] at hab hbc ⊢
  rcases hab with hab | ⟨hab, hkab⟩
  · rcases hbc with hbc | ⟨hbc, -⟩
    · exact .inl (Rank.lt_chain hbc hab)
    · exact .inl (hbc ▸ hab)
  · rcases hbc with hbc | ⟨hbc, hkbc⟩
    · exact .inl (hab ▸ hbc)
    · exact .inr ⟨hab.trans hbc, ClientId.Key.precedes_chain hkab hkbc⟩

/-- **Sorted clients are in order.** -/
lemma pairwise_precedes_mergeSort (ranks : List (Rank × Client)) :
    (ranks.mergeSort precedes).Pairwise fun a b => precedes a b := by
  refine @List.pairwise_mergeSort _ precedes (fun _ _ _ => precedes_chain) (fun a b => ?_) ranks
  rw [Bool.or_eq_true]
  exact precedes_total a b

end Registry

/-! ## Activation -/

namespace Registry

variable {path : String} {client first : Client} {clients rest chosen : List Client}
  {failure : Failure}

/-- The first client is asked before the others. -/
lemma activated_cons (path : String) (first : Client) (rest : List Client) :
    activated path (first :: rest)
      = (first.isActivated path).bind fun isActivated =>
          (activated path rest).map fun others =>
            if isActivated then first :: others else others := by
  rw [activated]
  cases first.isActivated path with
  | error failure => rfl
  | ok isActivated => cases activated path rest <;> rfl

/-- **Asking comes to an end exactly when every client answers.** -/
lemma exists_activated_iff : (∃ chosen, activated path clients = .ok chosen)
    ↔ ∀ client ∈ clients, ∃ b, client.isActivated path = .ok b := by
  induction clients with
  | nil => exact iff_of_true ⟨[], rfl⟩ fun _ hclient => absurd hclient List.not_mem_nil
  | cons first rest ih =>
    rw [activated_cons, List.forall_mem_cons, ← ih]
    cases first.isActivated path with
    | error failure => exact iff_of_false (fun ⟨_, h⟩ => nomatch h) fun h => nomatch h.1
    | ok isActivated =>
      constructor
      · rintro ⟨chosen, h⟩
        obtain ⟨others, hothers, -⟩ := map_eq_ok_iff.1 h
        exact ⟨⟨_, rfl⟩, others, hothers⟩
      · rintro ⟨-, others, hothers⟩
        exact ⟨_, map_eq_ok_iff.2 ⟨others, hothers, rfl⟩⟩

/-- The clients that are activated are in the order of those that are asked. -/
lemma sublist_of_activated (h : activated path clients = .ok chosen) :
    chosen.Sublist clients := by
  induction clients generalizing chosen with
  | nil =>
    obtain rfl := Except.ok.inj h
    exact .slnil
  | cons first rest ih =>
    rw [activated_cons] at h
    obtain ⟨isActivated, -, h⟩ := bind_eq_ok_iff.1 h
    obtain ⟨others, hothers, rfl⟩ := map_eq_ok_iff.1 h
    cases isActivated with
    | false => exact (ih hothers).cons first
    | true => exact (ih hothers).cons_cons first

/-- **The clients that are activated** are those that answer so. -/
lemma mem_activated_iff (h : activated path clients = .ok chosen) :
    client ∈ chosen ↔ client ∈ clients ∧ client.isActivated path = .ok true := by
  induction clients generalizing chosen with
  | nil =>
    obtain rfl := Except.ok.inj h
    simp
  | cons first rest ih =>
    rw [activated_cons] at h
    obtain ⟨isActivated, hfirst, h⟩ := bind_eq_ok_iff.1 h
    obtain ⟨others, hothers, rfl⟩ := map_eq_ok_iff.1 h
    have hrest := ih hothers
    cases isActivated with
    | false =>
      rw [if_neg Bool.false_ne_true, hrest, List.mem_cons, or_and_right, iff_or_self]
      rintro ⟨rfl, hactivated⟩
      exact absurd (hfirst.symm.trans hactivated) (by simp)
    | true =>
      rw [if_pos rfl, List.mem_cons, hrest, List.mem_cons, or_and_right]
      refine or_congr_left (iff_self_and.2 ?_)
      rintro rfl
      exact hfirst

/-- Asking fails with the failure of a client. -/
lemma exists_of_activated_error (h : activated path clients = .error failure) :
    ∃ client ∈ clients, client.isActivated path = .error failure := by
  induction clients with
  | nil => contradiction
  | cons first rest ih =>
    rw [activated_cons] at h
    cases hfirst : first.isActivated path with
    | error other =>
      rw [hfirst] at h
      obtain rfl := Except.error.inj h
      exact ⟨first, List.mem_cons_self, hfirst⟩
    | ok isActivated =>
      rw [hfirst] at h
      cases hrest : activated path rest with
      | error other =>
        rw [hrest] at h
        obtain rfl := Except.error.inj h
        obtain ⟨client, hclient, hfails⟩ := ih hrest
        exact ⟨client, List.mem_cons_of_mem _ hclient, hfails⟩
      | ok others =>
        rw [hrest] at h
        contradiction

/-- What a registry offers for a file: the clients that are activated are ranked and sorted. -/
lemma clientsFor_eq (registry : Registry) (path : String) :
    registry.clientsFor path
      = (activated path registry.clients).bind fun chosen => (chosen.mapM ranked).bind fun ranks =>
          if tiesAreComparable ranks then .ok ((ranks.mergeSort precedes).map (·.2))
          else .error .mistyped := rfl

end Registry

/-- **Sorted ids are in order.** -/
lemma ClientId.pairwise_precedes_sorted (ids : List ClientId) :
    (ClientId.sorted ids).Pairwise fun a b => a.key.precedes b.key := by
  refine @List.pairwise_mergeSort _ (fun a b : ClientId => a.key.precedes b.key)
    (fun _ _ _ => Key.precedes_chain) (fun a b => ?_) ids
  rw [Bool.or_eq_true]
  exact a.key.precedes_total b.key

end ContainerClients
