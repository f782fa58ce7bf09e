import SealedTree.Contract

/-!
One-hot results. A result counts as one-hot if exactly one entry is one, then it has a label, and
for a result made of bits that is the label at the place of the only bit that is set.
-/

namespace SealedTree

/-- Every class has its personality, at the same place of the table. -/
theorem Personality.ofIndex?_lt (c : Fin 8) : ∃ p, ofIndex? c = some p ∧ p.index = c := by
  have all : ∀ c : Fin 8, ∃ p ∈ Personality.all, ofIndex? c = some p ∧ p.index = c := by decide
  obtain ⟨p, -, found⟩ := all c
  exact ⟨p, found⟩

namespace OneHot

theorem count_true_eq_one_iff (bits : List Bool) :
    bits.count true = 1 ↔ ∃ i : Nat, ∀ j : Nat, bits[j]? = some true ↔ j = i := by
  induction bits with
  | nil => simp
  | cons b rest ih =>
      cases b with
      | false =>
          rw [List.count_cons_of_ne (by decide), ih]
          constructor
          · rintro ⟨i, only⟩
            refine ⟨i + 1, fun j => ?_⟩
            cases j with
            | zero => simp
            | succ j => simpa using only j
          · rintro ⟨i, only⟩
            have here : i ≠ 0 := fun zero => by simpa [zero] using only 0
            refine ⟨i - 1, fun j => ?_⟩
            rw [← List.getElem?_cons_succ (a := false), only]
            omega
      | true =>
          rw [List.count_cons_self, Nat.add_eq_right, List.count_eq_zero]
          constructor
          · intro none
            refine ⟨0, fun j => ?_⟩
            cases j with
            | zero => simp
            | succ j => simpa using fun set => none (List.mem_of_getElem? set)
          · rintro ⟨i, only⟩ set
            obtain ⟨j, there⟩ := List.getElem?_of_mem set
            have first : 0 = i := (only 0).mp rfl
            have later : j + 1 = i := (only (j + 1)).mp there
            omega

theorem setCount_ofBools (bits : Vector Bool 8) :
    (ofBools bits).setCount = bits.toList.count true := by
  rw [setCount, ofBools, Vector.toList_map, List.count_eq_countP, List.countP_map,
    List.count_eq_countP]
  congr 1
  funext b
  cases b <;> rfl

def OnlyAt (bits : Vector Bool 8) (c : Fin 8) : Prop := ∀ j : Fin 8, bits.get j = true ↔ j = c

theorem isOneHot_ofBools_iff (bits : Vector Bool 8) :
    (ofBools bits).isOneHot = true ↔ ∃ c, OnlyAt bits c := by
  rw [isOneHot, beq_iff_eq, setCount_ofBools, count_true_eq_one_iff]
  constructor
  · rintro ⟨i, only⟩
    have set := (only i).mpr rfl
    have small : i < 8 := by
      have := (List.getElem?_eq_some_iff.mp set).1
      rwa [Vector.length_toList] at this
    refine ⟨⟨i, small⟩, fun j => ?_⟩
    have there := only j
    rw [Vector.getElem?_toList, Vector.getElem?_eq_getElem j.isLt, Option.some.injEq] at there
    rw [Fin.ext_iff]
    exact there
  · rintro ⟨c, only⟩
    refine ⟨c, fun j => ?_⟩
    rw [Vector.getElem?_toList]
    by_cases small : j < 8
    · rw [Vector.getElem?_eq_getElem small, Option.some.injEq]
      exact (only ⟨j, small⟩).trans Fin.ext_iff
    · simp [small]
      omega

theorem index?_ofBools {bits : Vector Bool 8} {c : Fin 8} (only : OnlyAt bits c) :
    (ofBools bits).index? = some c.val := by
  rw [index?, if_pos ((isOneHot_ofBools_iff bits).mpr ⟨c, only⟩),
    List.findIdx?_eq_some_iff_getElem]
  refine ⟨by simp, ?_, ?_⟩
  · have set : bits[c.val] = true := (only c).mpr rfl
    simp [ofBools, set]
  · intro j before
    have small : j < 8 := Nat.lt_trans before c.isLt
    have clear : bits[j] = false := by
      rw [← Bool.not_eq_true]
      intro set
      have here : (⟨j, small⟩ : Fin 8) = c := (only ⟨j, small⟩).mp set
      exact Nat.ne_of_lt before (congrArg Fin.val here)
    simp [ofBools, clear]

/-- The label of a one-hot result stands in the table where its bit stands. -/
theorem interpret_ofBools {bits : Vector Bool 8} {c : Fin 8} (only : OnlyAt bits c) :
    ∃ p : Personality, p.index = c ∧ (ofBools bits).interpret = .label p := by
  obtain ⟨p, found, place⟩ := Personality.ofIndex?_lt c
  refine ⟨p, place, ?_⟩
  rw [interpret, index?_ofBools only, Option.bind_some, found]

/-- Whatever its other entries are, a one-hot result is determinate. -/
theorem interpret_ne_indeterminate {r : OneHot} (h : r.isOneHot = true) :
    r.interpret ≠ .indeterminate := by
  have set : (1 : UInt8) ∈ r.entries.toList := by
    rw [isOneHot, beq_iff_eq, setCount] at h
    exact List.count_pos_iff.mp (by omega)
  have some : (r.entries.toList.findIdx? (· == 1)).isSome := by
    rw [List.findIdx?_isSome, List.any_eq_true]
    exact ⟨1, set, rfl⟩
  obtain ⟨i, found⟩ := Option.isSome_iff_exists.mp some
  have small : i < 8 := by
    have := (List.findIdx?_eq_some_iff_getElem.mp found).1
    rwa [Vector.length_toList] at this
  obtain ⟨p, label, -⟩ := Personality.ofIndex?_lt ⟨i, small⟩
  rw [interpret, index?, if_pos h, found, Option.bind_some, label]
  intro indeterminate
  cases indeterminate

end OneHot

end SealedTree
