import SealedTree.Frame
import SealedTree.SecretBits

/-!
What a reader takes. A reader reads some units as a value if it gives that value and leaves exactly
what follows them, whatever that is. Readers put together read what their parts read, one after
the other, so the layouts of secrets and of public frames need no reasoning about positions.
-/

namespace SealedTree.Reader

variable {τ α β : Type}

/-- The reader takes exactly `units` from the front, and they stand for `a`. -/
def Reads (r : Reader τ α) (units : List τ) (a : α) : Prop :=
  ∀ rest, r.run (units ++ rest) = .ok (a, rest)

theorem Reads.pure (a : α) : Reads (Pure.pure a : Reader τ α) [] a := fun _ => rfl

theorem Reads.bind {r : Reader τ α} {f : α → Reader τ β} {xs ys : List τ} {a : α} {b : β}
    (hr : Reads r xs a) (hf : Reads (f a) ys b) : Reads (r >>= f) (xs ++ ys) b := by
  intro rest
  rw [List.append_assoc, StateT.run_bind, hr (ys ++ rest)]
  exact hf rest

theorem Reads.map {r : Reader τ α} {xs : List τ} {a : α} (f : α → β) (hr : Reads r xs a) :
    Reads (f <$> r) xs (f a) := by
  intro rest
  rw [StateT.run_map, hr rest]
  rfl

theorem Reads.take (field : String) {n : Nat} {xs : List τ} (h : xs.length = n) :
    Reads (Reader.take field n) xs xs := by
  intro rest
  rw [← h]
  exact take_append field xs rest

/-- The units of a vector are the units of its items, the first ones first. -/
theorem Reads.vector {r : Reader τ α} {units : α → List τ} (hr : ∀ a, Reads r (units a) a)
    {n : Nat} (v : Vector α n) : Reads (r.vector n) (v.toList.flatMap units) v := by
  induction n with
  | zero =>
      have hv : v = #v[] := Vector.eq_empty
      subst hv
      exact Reads.pure _
  | succ n ih =>
      -- The last item is read last, so the vector is taken apart at its back.
      have hv : v.toList = v.pop.toList ++ [v.back] := by
        rw [← Vector.toList_push, Vector.push_pop_back]
      have read : Reads (r.vector (n + 1))
          (v.pop.toList.flatMap units ++ (units v.back ++ [])) (v.pop.push v.back) :=
        (ih v.pop).bind ((hr v.back).bind (Reads.pure _))
      rwa [List.append_nil, Vector.push_pop_back, ← List.flatMap_singleton units v.back,
        ← List.flatMap_append, ← hv] at read

theorem Reads.front {r : Reader τ α} {units : List τ} {a : α} (hr : Reads r units a)
    (rest : List τ) : r.front (units ++ rest) = .ok a := by
  rw [Reader.front, hr rest]
  rfl

end SealedTree.Reader
