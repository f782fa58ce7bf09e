import Mathlib.Data.List.Forall2

/-!
What must have gone well for a computation to give a result, and for a list of computations to give
a list of results.
-/

namespace SealedTree

universe u v

theorem Except.bind_eq_ok {ε : Type u} {α β : Type v} {x : Except ε α} {f : α → Except ε β}
    {b : β} : (x >>= f) = .ok b ↔ ∃ a, x = .ok a ∧ f a = .ok b := by
  cases x with
  | ok a =>
      constructor
      · exact fun h => ⟨a, rfl, h⟩
      · rintro ⟨_, same, h⟩
        cases same
        exact h
  | error e =>
      constructor
      · intro h
        cases h
      · rintro ⟨_, same, _⟩
        cases same

theorem Except.mapError_eq_ok {ε ε' : Type u} {α : Type v} {x : Except ε α} {f : ε → ε'} {a : α} :
    x.mapError f = .ok a ↔ x = .ok a := by
  cases x with
  | ok b =>
      constructor
      all_goals
        intro h
        cases h
        rfl
  | error e =>
      constructor
      all_goals
        intro h
        cases h

theorem Except.map_eq_ok {ε : Type u} {α β : Type v} {x : Except ε α} {f : α → β} {b : β} :
    x.map f = .ok b ↔ ∃ a, x = .ok a ∧ f a = b := by
  cases x with
  | ok a => simp [Except.map]
  | error e => simp [Except.map]

/-- A step that is only taken for what it refuses. -/
theorem Except.then_eq_ok {ε : Type u} {β : Type} {x : Except ε Unit} {y : Except ε β} {b : β} :
    (x >>= fun _ => y) = .ok b ↔ x = .ok () ∧ y = .ok b := by
  rw [bind_eq_ok]
  constructor
  · rintro ⟨_, done, rest⟩
    exact ⟨done, rest⟩
  · rintro ⟨done, rest⟩
    exact ⟨(), done, rest⟩

theorem Except.mapM_eq_ok {ε α β : Type} {f : α → Except ε β} {as : List α} {bs : List β} :
    as.mapM f = .ok bs ↔ List.Forall₂ (fun a b => f a = .ok b) as bs := by
  induction as generalizing bs with
  | nil =>
      rw [List.mapM_nil, List.forall₂_nil_left_iff]
      change Except.ok [] = .ok bs ↔ bs = []
      rw [Except.ok.injEq, eq_comm]
  | cons a rest ih =>
      rw [List.mapM_cons, bind_eq_ok, List.forall₂_cons_left_iff]
      simp only [bind_eq_ok, ih]
      constructor
      · rintro ⟨b, first, bs, each, made⟩
        cases made
        exact ⟨b, bs, first, each, rfl⟩
      · rintro ⟨b, bs, first, each, rfl⟩
        exact ⟨b, first, bs, each, rfl⟩

theorem forall₂_comp {α β γ : Type} {R : α → β → Prop} {S : β → γ → Prop} {as : List α}
    {cs : List γ} : (∃ bs, List.Forall₂ R as bs ∧ List.Forall₂ S bs cs) ↔
      List.Forall₂ (fun a c => ∃ b, R a b ∧ S b c) as cs := by
  induction as generalizing cs with
  | nil => simp
  | cons a rest ih =>
      simp only [List.forall₂_cons_left_iff, ← ih]
      constructor
      · rintro ⟨_, ⟨b, bs, first, each, rfl⟩, second⟩
        rw [List.forall₂_cons_left_iff] at second
        obtain ⟨c, cs, made, later, rfl⟩ := second
        exact ⟨c, cs, ⟨b, first, made⟩, ⟨bs, each, later⟩, rfl⟩
      · rintro ⟨c, cs, ⟨b, first, made⟩, ⟨bs, each, later⟩, rfl⟩
        exact ⟨b :: bs, ⟨b, bs, first, each, rfl⟩, .cons made later⟩

theorem forall₂_map_self {α β : Type} {R : β → α → Prop} {f : α → β} (h : ∀ a, R (f a) a)
    (as : List α) : List.Forall₂ R (as.map f) as :=
  List.forall₂_map_left_iff.mpr (List.forall₂_same.mpr fun a _ => h a)

end SealedTree
