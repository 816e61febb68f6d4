import Mathlib.Data.List.Forall2

/-!
# When checked computations succeed

A computation in `Except` succeeds when each of its steps does.  These laws take a success apart.

* `bind_eq_ok_iff`, `map_eq_ok_iff` — one step after another.
* `map_bind_eq`, `map_map_eq` — what is done with a result is done by the last step.
* `mapError_bind` — what is done with a failure is done by the step that fails.
* `mapM_eq_ok_iff` — the same step for every item of a list.
-/

namespace ContainerClients

variable {ε α β γ : Type}

/-- A computation succeeds exactly when its first step does, and the rest on its result. -/
lemma bind_eq_ok_iff {x : Except ε α} {f : α → Except ε β} {b : β} :
    x.bind f = .ok b ↔ ∃ a, x = .ok a ∧ f a = .ok b := by
  cases x with
  | error e => simp [Except.bind]
  | ok a => simp [Except.bind]

/-- A result that is turned into another succeeds exactly when there is one. -/
lemma map_eq_ok_iff {x : Except ε α} {f : α → β} {b : β} :
    x.map f = .ok b ↔ ∃ a, x = .ok a ∧ f a = b := by
  cases x with
  | error e => simp [Except.map]
  | ok a => simp [Except.map]

/-- What is done with the result of two steps is done by the second one. -/
lemma map_bind_eq (x : Except ε α) (f : α → Except ε β) (g : β → γ) :
    (x.bind f).map g = x.bind fun a => (f a).map g := by
  cases x <;> rfl

lemma map_map_eq (x : Except ε α) (f : α → β) (g : β → γ) :
    (x.map f).map g = x.map fun a => g (f a) := by
  cases x <;> rfl

/-- What is done with a failure is done by whichever step fails. -/
lemma mapError_bind {ε' : Type} (x : Except ε α) (f : α → Except ε β) (g : ε → ε') :
    (x.bind f).mapError g = (x.mapError g).bind fun a => (f a).mapError g := by
  cases x <;> rfl

/-- **A traversal succeeds exactly when it succeeds item by item.** -/
theorem mapM_eq_ok_iff {f : α → Except ε β} {xs : List α} {ys : List β} :
    xs.mapM f = .ok ys ↔ List.Forall₂ (fun x y => f x = .ok y) xs ys := by
  induction xs generalizing ys with
  | nil =>
      rw [List.mapM_nil, List.forall₂_nil_left_iff]
      exact ⟨fun h => (Except.ok.inj h).symm, fun h => h ▸ rfl⟩
  | cons x xs ih =>
      have hstep : (x :: xs).mapM f
          = (f x).bind fun y => (xs.mapM f).bind fun ys => .ok (y :: ys) := List.mapM_cons
      rw [hstep, bind_eq_ok_iff, List.forall₂_cons_left_iff]
      constructor
      · rintro ⟨y, hy, hrest⟩
        obtain ⟨ys', hys, heq⟩ := bind_eq_ok_iff.1 hrest
        exact ⟨y, ys', hy, ih.1 hys, (Except.ok.inj heq).symm⟩
      · rintro ⟨y, ys', hy, hrest, rfl⟩
        exact ⟨y, hy, bind_eq_ok_iff.2 ⟨ys', ih.2 hrest, rfl⟩⟩

/-- What a traversal returns comes from its items. -/
lemma exists_of_mem_mapM {f : α → Except ε β} {xs : List α} {ys : List β} {y : β}
    (h : xs.mapM f = .ok ys) (hy : y ∈ ys) : ∃ x ∈ xs, f x = .ok y := by
  have hall := mapM_eq_ok_iff.1 h
  clear h
  induction hall with
  | nil => exact absurd hy List.not_mem_nil
  | @cons x y' xs ys' hxy hrest ih =>
      rcases List.mem_cons.1 hy with rfl | hy
      · exact ⟨x, List.mem_cons_self, hxy⟩
      · obtain ⟨x', hx', hxy'⟩ := ih hy
        exact ⟨x', List.mem_cons_of_mem _ hx', hxy'⟩

/-- A traversal succeeds when it does for every item. -/
lemma exists_mapM_eq_ok {f : α → Except ε β} {xs : List α} (h : ∀ x ∈ xs, ∃ y, f x = .ok y) :
    ∃ ys, xs.mapM f = .ok ys := by
  induction xs with
  | nil => exact ⟨[], rfl⟩
  | cons x xs ih =>
      obtain ⟨y, hy⟩ := h x List.mem_cons_self
      obtain ⟨ys, hys⟩ := ih fun x' hx => h x' (List.mem_cons_of_mem x hx)
      exact ⟨y :: ys, mapM_eq_ok_iff.2 (.cons hy (mapM_eq_ok_iff.1 hys))⟩

end ContainerClients
