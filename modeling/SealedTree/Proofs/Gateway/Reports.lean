import SealedTree.Gateway.Document
import SealedTree.Proofs.Poll.Events
import SealedTree.Proofs.WireDocuments

/-!
What users are told. A machine never ends with a result that names nothing, and of all other
statuses the report of a search says which it is. Reports are read as they were written, so this
goes for their texts too.
-/

namespace SealedTree

theorem Personality.name_ne_empty (p : Personality) : p.name ≠ "" := by
  cases p <;> decide

/-- A machine can have this status. -/
def Poll.Status.Occurs (s : Poll.Status) : Prop :=
  ∃ (schedule : Schedule) (history : List Poll.Event),
    ((Poll.Machine.new schedule).after history).status = s

theorem Poll.Status.Occurs.ne_indeterminate {s : Poll.Status} (h : s.Occurs) :
    s ≠ .resolved .indeterminate := by
  obtain ⟨schedule, history, rfl⟩ := h
  have consistent := Poll.Machine.consistent_after (Poll.Machine.consistent_new schedule) history
  intro unnamed
  rw [Poll.Machine.Consistent] at consistent
  rw [Poll.Machine.status] at unnamed
  split at unnamed
  · next resolved =>
      rw [resolved] at consistent
      exact consistent.2.2.2 (Poll.Status.resolved.inj unnamed)
  all_goals cases unnamed

namespace Gateway.Report

variable {tx tx' : TransactionId} {s s' : Poll.Status}

/-- The status that can be made out from a report. -/
def told (r : Report) : Poll.Status :=
  match r.error with
  | some error => if r.exhausted then .exhausted else .fatal error
  | none =>
      match Personality.ofName? r.label with
      | some p => .resolved (.label p)
      | none => .pending

theorem told_of (h : s ≠ .resolved .indeterminate) : (of tx s).told = s := by
  have unnamed : Personality.ofName? "" = none := by decide
  cases s with
  | pending => simp only [of, told, unnamed]
  | resolved c =>
      cases c with
      | label p => simp only [of, told, Personality.ofName?_name]
      | indeterminate => exact absurd rfl h
  | exhausted | fatal error => rfl

theorem transaction_of : (of tx s).transaction = tx := by
  cases s with
  | resolved c => cases c <;> rfl
  | pending | exhausted | fatal error => rfl

theorem of_inj (h : s.Occurs) (h' : s'.Occurs) (same : of tx s = of tx' s') :
    tx = tx' ∧ s = s' := by
  have transactions := congrArg transaction same
  have statuses := congrArg told same
  rw [transaction_of, transaction_of] at transactions
  rw [told_of h.ne_indeterminate, told_of h'.ne_indeterminate] at statuses
  exact ⟨transactions, statuses⟩

/-- The three ways in which a report says how a search stands. -/
def signs (r : Report) : List Bool := [r.pending, r.label != "", r.error.isSome]

theorem count_signs_of : (of tx s).signs.count true = 1 := by
  cases s with
  | resolved c =>
      cases c with
      | label p => simp [of, signs, p.name_ne_empty]
      | indeterminate => rfl
  | pending | exhausted | fatal error => rfl

theorem exhausted_of_iff : (of tx s).exhausted = true ↔ s = .exhausted := by
  cases s with
  | resolved c => cases c <;> simp [of]
  | pending | exhausted | fatal error => simp [of]

theorem decodes_json (r : Report) : Json.Decodes decoder r.json r := by
  intro site
  obtain ⟨tx, label, pending, exhausted, error⟩ := r
  -- The error is a member of its own or none, and the document is read differently with it.
  cases error with
  | none | some error => rfl

theorem plain_json (r : Report) : r.json.Plain := by
  obtain ⟨tx, label, pending, exhausted, error⟩ := r
  have known : ∀ m ∈ [("transactionId", tx.json), ("label", .string label),
      ("pending", .bool pending), ("exhausted", .bool exhausted)], Json.Plain m.2 := by
    simp only [List.forall_mem_cons]
    exact ⟨.string tx.text, .string label, .bool pending, .bool exhausted, nofun⟩
  cases error with
  | none =>
      have distinct : ["transactionId", "label", "pending", "exhausted"].Nodup := by decide
      exact .ofMembers distinct known
  | some error =>
      have distinct : ["transactionId", "label", "pending", "exhausted", "error"].Nodup := by decide
      refine .ofMembers distinct (List.forall_mem_append.mpr ⟨known, ?_⟩)
      exact List.forall_mem_singleton.mpr (.string error)

theorem decode_compact (r : Report) : Json.decode decoder r.json.compact = .ok r :=
  (r.decodes_json.text r.plain_json).1

/-- Reports of searches tell transactions and statuses apart, and so do their texts. Each says in
exactly one way how its search stands. -/
theorem statuses_told_apart (h : s.Occurs) (h' : s'.Occurs) :
    (of tx s = of tx' s' → tx = tx' ∧ s = s') ∧
      (∀ r r', Json.decode decoder (of tx s).json.compact = .ok r →
        Json.decode decoder (of tx' s').json.compact = .ok r' → r = r' → tx = tx' ∧ s = s') ∧
      Json.decode decoder (of tx s).json.compact = .ok (of tx s) ∧
      (of tx s).signs.count true = 1 ∧ ((of tx s).exhausted = true ↔ s = .exhausted) := by
  refine ⟨of_inj h h', ?_, decode_compact _, count_signs_of, exhausted_of_iff⟩
  intro r r' read read' same
  rw [decode_compact, Except.ok.injEq] at read read'
  exact of_inj h h' (by rw [read, read', same])

/-- A search that is over at its only attempt, and one that a node refuses in like words. -/
theorem statuses_told_apart_refused :
    let refusal := "Request rejected (404): result not available yet, retry later"
    Poll.Status.exhausted.Occurs ∧ (Poll.Status.fatal refusal).Occurs ∧
      of ⟨"c0ffee"⟩ .exhausted ≠ of ⟨"c0ffee"⟩ (.fatal refusal) := by
  intro refusal
  let answer : NetworkError := .rejected 404 "result not available yet, retry later"
  have once : Poll.Status.exhausted.Occurs :=
    ⟨{ maxRetries := 1 }, [.track ⟨"c0ffee"⟩, .record (.pending .noVariables) 0], rfl⟩
  have refused : (Poll.Status.fatal refusal).Occurs :=
    ⟨{}, [.track ⟨"c0ffee"⟩, .record (.readError answer) 0], rfl⟩
  refine ⟨once, refused, fun same => ?_⟩
  cases ((statuses_told_apart once refused).1 same).2

/-- A result that names nothing would be told as an error is. -/
example : of tx (.resolved .indeterminate) = of tx (.fatal "indeterminate result") := rfl

end Gateway.Report

end SealedTree
