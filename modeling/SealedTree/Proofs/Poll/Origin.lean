import SealedTree.Proofs.Candidate
import SealedTree.Proofs.Poll.Events

/-!
Where a result comes from. A result for a transaction is read off a variable of the snapshot; that
is one for the transaction itself, unless the snapshot holds none, and then it is the latest one
with a payload, whoever it belongs to. A machine that is only told what was read for a transaction
gets its label from such a variable.
-/

namespace SealedTree

/-- The variable may answer for the transaction: it is for it, or the snapshot holds none that is,
and it is the latest of the others. -/
def Snapshot.Answers (vs : Snapshot) (tx : TransactionId) (v : Variable) : Prop :=
  v ∈ vs ∧
    (v.transaction = some tx ∨
      (∀ u ∈ vs, u.transaction ≠ some tx) ∧ v.transaction ≠ none ∧
        ∀ u ∈ vs, u.hasPayload = true → u.key ≤ v.key)

namespace Poll

namespace Outcome

theorem ofReading_eq_ready {reading : Variable.Reading} {r : OneHot}
    (h : ofReading reading = .ready r) : reading = .ready r := by
  cases reading with
  | ready result =>
      cases h
      rfl
  | processing | awaitingPayload | notOneHot _ | malformed _ => cases h

theorem ofSnapshot_eq_ready {vs : Snapshot} {tx : TransactionId} {r : OneHot}
    (h : ofSnapshot vs tx = .ready r) : ∃ v, vs.Answers tx v ∧ v.Holds r := by
  cases chosen : vs.select? tx with
  | none => simp [ofSnapshot, chosen] at h
  | some c =>
      obtain ⟨rank, i, v⟩ := c
      have held : v ∈ vs := Snapshot.mem_of_select? chosen
      have choice := Snapshot.select?_eq_some_iff.mp chosen
      have read : v.reading = .ready r := by
        rw [ofSnapshot, chosen] at h
        exact ofReading_eq_ready h
      obtain ⟨owned, filled, decoded, -⟩ := Variable.reading_eq_ready read
      refine ⟨v, ⟨held, ?_⟩, decoded⟩
      cases rank with
      | exact => exact .inl choice.2.1.1
      | transaction => exact .inl choice.2.2.1
      | latestPayload =>
          obtain ⟨none, -, latest, -⟩ := choice
          refine .inr ⟨fun u hu own => none ⟨u, hu, own⟩, ?_, fun u hu other => ?_⟩
          · exact Option.ne_none_iff_exists'.mpr owned
          · exact latest.2 u hu (Variable.filled_iff.mp other)
      | last => exact absurd ⟨v, held, Variable.filled_iff.mp filled⟩ choice.2.1

theorem ofAnswer_eq_ready {answer : Except NetworkError Snapshot} {tx : TransactionId}
    {r : OneHot} (h : ofAnswer answer tx = .ready r) :
    ∃ vs, answer = .ok vs ∧ ofSnapshot vs tx = .ready r := by
  cases answer with
  | ok vs => exact ⟨vs, rfl, h⟩
  | error cause => cases h

/-- A result for another transaction is taken if there is no variable for one's own. -/
theorem ready_without_own_variable :
    ¬∀ (vs : Snapshot) (tx : TransactionId) (r : OneHot), ofSnapshot vs tx = .ready r →
      ∃ v ∈ vs, v.transaction = some tx ∧ v.Holds r := by
  intro own
  obtain ⟨v, held, owner, -⟩ := own
    [⟨9, some ⟨"theirs"⟩, some (List.replicate 33 0 ++ 1 :: List.replicate 6 0)⟩] ⟨"mine"⟩
    ⟨#v[0, 1, 0, 0, 0, 0, 0, 0]⟩ (by decide +kernel)
  rw [List.mem_singleton] at held
  subst held
  exact absurd owner (by decide)

end Outcome

/-- A result comes from a variable for the transaction, and from another one only if the snapshot
holds none; what a machine resolves with is the label of such a result. -/
theorem result_from_answer (tx : TransactionId) :
    (∀ (vs : Snapshot) (r : OneHot), Outcome.ofSnapshot vs tx = .ready r →
      ∃ v, vs.Answers tx v ∧ v.Holds r) ∧
    (∀ (m : Machine) (events : List Event) (c : Classification),
      (∀ c, m.phase ≠ .resolved c) →
      (∀ o jitter, .record o jitter ∈ events → ∃ answer, o = .ofAnswer answer tx) →
      (m.after events).phase = .resolved c →
      ∃ vs jitter v r, .record (.ofAnswer (.ok vs) tx) jitter ∈ events ∧ vs.Answers tx v ∧
        v.Holds r ∧ r.interpret = c ∧ c ≠ .indeterminate) := by
  refine ⟨fun vs r h => Outcome.ofSnapshot_eq_ready h, ?_⟩
  intro m events c unresolved reads resolved
  rcases Machine.resolved_after events resolved with before | ⟨r, jitter, told, oneHot, rfl⟩
  · exact absurd before (unresolved c)
  · obtain ⟨answer, read⟩ := reads _ _ told
    obtain ⟨vs, rfl, ready⟩ := Outcome.ofAnswer_eq_ready read.symm
    obtain ⟨v, answers, decoded⟩ := Outcome.ofSnapshot_eq_ready ready
    rw [read] at told
    exact ⟨vs, jitter, v, r, told, answers, decoded, rfl, OneHot.interpret_ne_indeterminate oneHot⟩

/-- The latest variable belongs to somebody else, and the label is still one's own. -/
theorem result_from_answer_among_others :
    let theirs : Variable :=
      ⟨9, some ⟨"theirs"⟩, some (List.replicate 33 0 ++ 1 :: List.replicate 6 0)⟩
    let mine : Variable := ⟨4, some ⟨"mine"⟩, some (List.replicate 32 0 ++ 1 :: List.replicate 7 0)⟩
    let m : Machine := ⟨{}, .polling, some ⟨"mine"⟩, 3, 0⟩
    let events : List Event := [.record (.ofAnswer (.ok [theirs, mine]) ⟨"mine"⟩) 0]
    Outcome.ofSnapshot [theirs, mine] ⟨"mine"⟩ = .ready ⟨#v[1, 0, 0, 0, 0, 0, 0, 0]⟩ ∧
      (∃ v, Snapshot.Answers [theirs, mine] ⟨"mine"⟩ v ∧ v.Holds ⟨#v[1, 0, 0, 0, 0, 0, 0, 0]⟩) ∧
      (m.after events).phase = .resolved (.label .degen) ∧
      (∃ vs jitter v r, .record (.ofAnswer (.ok vs) ⟨"mine"⟩) jitter ∈ events ∧
        Snapshot.Answers vs ⟨"mine"⟩ v ∧ v.Holds r ∧ r.interpret = .label .degen) := by
  intro theirs mine m events
  have ready : Outcome.ofSnapshot [theirs, mine] ⟨"mine"⟩ =
      .ready ⟨#v[1, 0, 0, 0, 0, 0, 0, 0]⟩ := by decide +kernel
  have resolved : (m.after events).phase = .resolved (.label .degen) := by
    have recorded := Machine.record_of_stop (m := m) rfl
      (o := .ready ⟨#v[1, 0, 0, 0, 0, 0, 0, 0]⟩) (.inl (by decide)) 0
    change (m.record (Outcome.ofSnapshot [theirs, mine] ⟨"mine"⟩) 0).1.phase = _
    rw [ready, recorded]
    decide
  have reads (o : Outcome) (jitter : Duration) (told : .record o jitter ∈ events) :
      ∃ answer, o = .ofAnswer answer ⟨"mine"⟩ := by
    cases List.mem_singleton.mp told
    exact ⟨_, rfl⟩
  obtain ⟨snapshots, runs⟩ := result_from_answer ⟨"mine"⟩
  obtain ⟨vs, jitter, v, r, told, answers, decoded, label, -⟩ :=
    runs m events (.label .degen) nofun reads resolved
  exact ⟨ready, snapshots _ _ ready, resolved, vs, jitter, v, r, told, answers, decoded, label⟩

end Poll

end SealedTree
