import SealedTree.Error

/-!
Reading from the front of a sequence of units, bits or bytes. A read that wants more than is left
fails, names the field it was for, and takes nothing.
-/

namespace SealedTree

/-- Reads an `α` from the units that are left. -/
abbrev Reader (τ α : Type) := StateT (List τ) (Except PayloadError) α

namespace Reader

def take (field : String) (n : Nat) : Reader τ (List τ) := fun left =>
  if left.length < n then .error (.underrun field n left.length)
  else .ok (left.take n, left.drop n)

def vector (r : Reader τ α) : (n : Nat) → Reader τ (Vector α n)
  | 0 => pure #v[]
  | n + 1 => do
      let v ← vector r n
      let a ← r
      pure (v.push a)

/-- The value at the front of `units`, whatever follows it. -/
def front (r : Reader τ α) (units : List τ) : Except PayloadError α :=
  (r.run units).map (·.1)

theorem take_append (field : String) (xs rest : List τ) :
    (take field xs.length).run (xs ++ rest) = .ok (xs, rest) := by
  simp [take, StateT.run]

theorem take_eq_error_iff {field : String} {n : Nat} {left : List τ} {e : PayloadError} :
    (take field n).run left = .error e ↔
      left.length < n ∧ e = .underrun field n left.length := by
  by_cases h : left.length < n <;> simp [take, StateT.run, h, eq_comm]

end Reader

end SealedTree
