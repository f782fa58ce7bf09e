import SealedTree.Proofs.Candidate

/-!
The precedence among the variables of a snapshot, and what follows from it for an attempt. A
transaction that has variables of its own is read from them alone, whatever else the snapshot holds;
and as soon as one of them has its payload, nothing that comes behind it is looked at.
-/

namespace SealedTree

namespace Snapshot

variable {vs : Snapshot} {tx : TransactionId}

theorem found_of_owned (owned : ∃ v ∈ vs, v.transaction = some tx) :
    (vs.select? tx).map (·.found) =
      (vs.find? fun v => v.isFor tx && v.hasPayload).or (vs.find? (·.isFor tx)) := by
  obtain ⟨v, hv, own⟩ := owned
  cases chosen : vs.select? tx with
  | none =>
      rw [select?_eq_none_iff.mp chosen] at hv
      cases hv
  | some c =>
      rw [select?_eq_some_iff, Chooses] at chosen
      cases rank : c.rank with
      | exact =>
          rw [rank] at chosen
          rw [chosen.find? fun u _ => exact_iff u]
          rfl
      | transaction =>
          rw [rank] at chosen
          have none : vs.find? (fun v => v.isFor tx && v.hasPayload) = none := by
            rw [List.find?_eq_none]
            exact fun u hu exact => chosen.1 ⟨u, hu, (exact_iff u).mp exact⟩
          rw [none, chosen.2.find? fun _ _ => Variable.isFor_iff]
          rfl
      | latestPayload | last =>
          rw [rank] at chosen
          exact absurd ⟨v, hv, own⟩ chosen.1

/-- Only the variables for the transaction matter, if there are any. -/
theorem found_filter (owned : ∃ v ∈ vs, v.transaction = some tx) :
    (select? (vs.filter (·.transaction = some tx)) tx).map (·.found) =
      (vs.select? tx).map (·.found) := by
  have isFor : (fun v : Variable => decide (v.transaction = some tx)) = (·.isFor tx) := by
    funext v
    rw [Bool.eq_iff_iff, decide_eq_true_iff, Variable.isFor_iff]
  obtain ⟨v, hv, own⟩ := owned
  have left : v ∈ vs.filter (·.transaction = some tx) :=
    List.mem_filter.mpr ⟨hv, decide_eq_true own⟩
  rw [found_of_owned ⟨v, left, own⟩, found_of_owned ⟨v, hv, own⟩, isFor, List.find?_filter,
    List.find?_filter]
  simp

/-- What is appended does not matter, if the transaction has a variable with a payload. -/
theorem found_append (exact : ∃ v ∈ vs, v.transaction = some tx ∧ v.Filled) (more : Snapshot) :
    (select? (vs ++ more) tx).map (·.found) = (vs.select? tx).map (·.found) := by
  obtain ⟨v, hv, own, filled⟩ := exact
  have found : (vs.find? fun v => v.isFor tx && v.hasPayload).isSome = true :=
    List.find?_isSome.mpr ⟨v, hv, (exact_iff v).mpr ⟨own, filled⟩⟩
  obtain ⟨first, here⟩ := Option.isSome_iff_exists.mp found
  rw [found_of_owned ⟨v, List.mem_append_left more hv, own⟩, found_of_owned ⟨v, hv, own⟩,
    List.find?_append, here]
  rfl

end Snapshot

namespace Poll.Outcome

theorem ofSnapshot_eq (vs : Snapshot) (tx : TransactionId) :
    ofSnapshot vs tx =
      ((vs.select? tx).map (·.found)).elim (.pending .noVariables) (ofReading ·.reading) := by
  rw [ofSnapshot]
  cases vs.select? tx <;> rfl

/-- What is chosen from a snapshot is the best that the precedence knows, and nothing is chosen from
an empty one. A transaction that has variables is not concerned with those of others, and one that
has its payload is not concerned with what is appended. -/
theorem ranked_selection (vs : Snapshot) (tx : TransactionId) :
    (vs.select? tx = none ↔ vs = []) ∧
    (∀ c, vs.select? tx = some c ↔ vs.Chooses tx c) ∧
    ((∃ v ∈ vs, v.transaction = some tx) →
      ofSnapshot vs tx = ofSnapshot (vs.filter (·.transaction = some tx)) tx) ∧
    ((∃ v ∈ vs, v.transaction = some tx ∧ v.Filled) →
      ∀ more, ofSnapshot (vs ++ more) tx = ofSnapshot vs tx) := by
  refine ⟨Snapshot.select?_eq_none_iff, fun _ => Snapshot.select?_eq_some_iff, ?_, ?_⟩
  · intro owned
    rw [ofSnapshot_eq, ofSnapshot_eq, Snapshot.found_filter owned]
  · intro exact more
    rw [ofSnapshot_eq, ofSnapshot_eq, Snapshot.found_append exact more]

/-- Of two variables with the same highest key the earlier one is taken, and keys do not matter as
soon as there is a variable for the transaction. -/
example :
    let others : Snapshot :=
      [⟨3, some ⟨"a"⟩, some [1]⟩, ⟨9, none, some [2]⟩, ⟨9, some ⟨"b"⟩, some [3]⟩]
    (Snapshot.select? others ⟨"mine"⟩).map (fun c => (c.rank, c.position)) =
        some (.latestPayload, 1) ∧
      (Snapshot.select? (others ++ [⟨1, some ⟨"mine"⟩, some []⟩]) ⟨"mine"⟩).map
        (fun c => (c.rank, c.position)) = some (.transaction, 3) := by
  decide +kernel

end Poll.Outcome

end SealedTree
