import SealedTree.Model.Evaluation
import SealedTree.Proofs.OneHotResult

/-!
The circuit and the walk. Whatever the comparisons say, exactly one of the eight paths is taken; it
is the one that the walk goes, and joining the classes of all taken leaves gives the classes of the
leaf at its end. So what the walk does not come across does not matter to the circuit either.
-/

namespace SealedTree

/-- The number of the leaf that is reached by going left at these vertices and right at others. -/
def leafIndex (left : Fin 7 → Bool) : Fin 8 :=
  if left 0 then
    if left 1 then (if left 2 then 0 else 1) else (if left 3 then 2 else 3)
  else
    if left 4 then (if left 5 then 4 else 5) else (if left 6 then 6 else 7)

theorem pathsTaken_ofFn (left : Fin 7 → Bool) :
    pathsTaken (Vector.ofFn left) = Vector.ofFn fun i => i == leafIndex left := by
  cases root : left 0 with
  | true =>
      cases child : left 1 with
      | true => cases last : left 2 <;> simp [pathsTaken, leafIndex, root, child, last] <;> rfl
      | false => cases last : left 3 <;> simp [pathsTaken, leafIndex, root, child, last] <;> rfl
  | false =>
      cases child : left 4 with
      | true => cases last : left 5 <;> simp [pathsTaken, leafIndex, root, child, last] <;> rfl
      | false => cases last : left 6 <;> simp [pathsTaken, leafIndex, root, child, last] <;> rfl

/-- The numbers of the vertices that the walk passes, from the root down. -/
def passed (left : Fin 7 → Bool) : Vector (Fin 7) 3 :=
  if left 0 then #v[0, 1, if left 1 then 2 else 3] else #v[0, 4, if left 4 then 5 else 6]

/-- Where the walk ends is decided at the vertices that it passes. -/
theorem leafIndex_congr {left left' : Fin 7 → Bool} (same : ∀ i ∈ passed left, left' i = left i) :
    leafIndex left' = leafIndex left := by
  cases root : left 0 with
  | true =>
      rw [passed, if_pos root] at same
      simp only [Vector.mem_mk, List.mem_toArray, List.forall_mem_cons] at same
      obtain ⟨first, second, third, -⟩ := same
      cases child : left 1 with
      | true => simp_all [leafIndex]
      | false => simp_all [leafIndex]
  | false =>
      rw [passed, if_neg (by simp [root])] at same
      simp only [Vector.mem_mk, List.mem_toArray, List.forall_mem_cons] at same
      obtain ⟨first, second, third, -⟩ := same
      cases child : left 4 with
      | true => simp_all [leafIndex]
      | false => simp_all [leafIndex]

theorem Sample.feature_eq (s : Sample) (i : UInt8) :
    s.feature i = if h : i.toNat < 10 then s.answers[i.toNat] else 0 := by
  rw [feature, List.getD_eq_getElem?_getD, Vector.getElem?_toList]
  split
  · next inside => rw [Vector.getElem?_eq_getElem inside, Option.getD_some]
  · next outside => rw [Vector.getElem?_eq_none (Nat.le_of_not_lt outside), Option.getD_none]

namespace Model

def goesLeft (m : Model) (s : Sample) (i : Fin 7) : Bool :=
  decide (s.feature (m.vertices.get i).feature ≤ (m.vertices.get i).threshold)

theorem comparisons_eq (m : Model) (s : Sample) :
    m.comparisons s = Vector.ofFn (m.goesLeft s) := by
  ext i hi
  rw [comparisons, Vector.getElem_map, Vector.getElem_ofFn]
  rfl

theorem reachedLeaf_eq (m : Model) (s : Sample) :
    m.reachedLeaf s = m.leaves.get (leafIndex (m.goesLeft s)) := by
  simp only [leafIndex, apply_ite m.leaves.get, goesLeft, decide_eq_true_eq]
  rfl

theorem joinedClasses_ofFn (m : Model) (i : Fin 8) :
    m.joinedClasses (Vector.ofFn fun j => j == i) = (m.leaves.get i).classes := by
  ext c hc
  rw [joinedClasses, Vector.getElem_ofFn, Bool.eq_iff_iff, Vector.any_eq_true]
  simp only [Vector.getElem_zip, Vector.getElem_ofFn, Bool.and_eq_true, beq_iff_eq]
  constructor
  · rintro ⟨j, hj, rfl, set⟩
    exact set
  · intro set
    exact ⟨i, i.isLt, rfl, set⟩

/-- The circuit gives the classes of the leaf that the walk reaches. -/
theorem evaluate_eq (m : Model) (s : Sample) :
    m.evaluate s = .ofBools (m.reachedLeaf s).classes := by
  rw [evaluate, comparisons_eq, pathsTaken_ofFn, joinedClasses_ofFn, reachedLeaf_eq]

/-- What the walk comes across is the same for the second model and sample: the vertices it passes,
the answers these ask for, and the leaf at its end. -/
structure SameOnWalk (m m' : Model) (s s' : Sample) : Prop where
  vertices : ∀ i ∈ passed (m.goesLeft s), m'.vertices.get i = m.vertices.get i
  answers : ∀ k : Fin 10, (∃ i ∈ passed (m.goesLeft s), (m.vertices.get i).feature.toNat = k) →
    s'.answers.get k = s.answers.get k
  leaf : m'.leaves.get (leafIndex (m.goesLeft s)) = m.leaves.get (leafIndex (m.goesLeft s))

section SameOnWalk

variable {m m' : Model} {s s' : Sample}

theorem SameOnWalk.goesLeft (same : SameOnWalk m m' s s') {i : Fin 7}
    (onWalk : i ∈ passed (m.goesLeft s)) : m'.goesLeft s' i = m.goesLeft s i := by
  have answer : s'.feature (m.vertices.get i).feature = s.feature (m.vertices.get i).feature := by
    rw [Sample.feature_eq, Sample.feature_eq]
    split
    · next inside => exact same.answers ⟨_, inside⟩ ⟨i, onWalk, rfl⟩
    · rfl
  rw [Model.goesLeft, same.vertices i onWalk, answer, Model.goesLeft]

theorem SameOnWalk.reachedLeaf (same : SameOnWalk m m' s s') :
    m'.reachedLeaf s' = m.reachedLeaf s := by
  have place : leafIndex (m'.goesLeft s') = leafIndex (m.goesLeft s) :=
    leafIndex_congr fun _ onWalk => same.goesLeft onWalk
  rw [reachedLeaf_eq, reachedLeaf_eq, place, same.leaf]

end SameOnWalk

/-- The circuit says what the leaf says that the walk ends at, and nothing else has a say in it. -/
theorem circuit_computes_walk (m : Model) (s : Sample) :
    (∀ i, m.goesLeft s i = true ↔
      (if h : (m.vertices.get i).feature.toNat < 10 then
        s.answers[(m.vertices.get i).feature.toNat] else 0) ≤ (m.vertices.get i).threshold) ∧
    m.reachedLeaf s = m.leaves.get (leafIndex (m.goesLeft s)) ∧
    m.evaluate s = .ofBools (m.reachedLeaf s).classes ∧
    ((m.evaluate s).isOneHot = true ↔ ∃ c, OneHot.OnlyAt (m.reachedLeaf s).classes c) ∧
    ∀ m' s', SameOnWalk m m' s s' → m'.evaluate s' = m.evaluate s := by
  refine ⟨fun i => ?_, m.reachedLeaf_eq s, m.evaluate_eq s, ?_, fun m' s' same => ?_⟩
  · rw [goesLeft, decide_eq_true_eq, Sample.feature_eq]
  · rw [evaluate_eq, OneHot.isOneHot_ofBools_iff]
  · rw [evaluate_eq, evaluate_eq, same.reachedLeaf]

/-- All zeros go left three times: the other vertices, leaves and answers may be anything. -/
theorem circuit_computes_walk_reference :
    let other : Vertex := ⟨200, -5⟩
    let all : Leaf := ⟨.replicate 8 true⟩
    let m' : Model :=
      { vertices := #v[⟨0, 1⟩, ⟨1, 0⟩, ⟨2, 1⟩, other, other, other, other]
        leaves := #v[.oneHot 1, all, all, all, all, all, all, all] }
    let s : Sample := ⟨.replicate 10 0⟩
    let s' : Sample := ⟨#v[0, 0, 0, 7, -7, 7, -7, 7, -7, 7]⟩
    SameOnWalk reference m' s s' ∧ m'.evaluate s' = reference.evaluate s := by
  intro other all m' s s'
  have same : SameOnWalk reference m' s s' := ⟨by decide +kernel, by decide +kernel, by decide⟩
  exact ⟨same, (circuit_computes_walk reference s).2.2.2.2 m' s' same⟩

end Model

end SealedTree
