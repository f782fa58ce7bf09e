import SealedTree.Proofs.Poll.Events

/-!
What a machine refuses. Every event has phases that it belongs to. In any other phase it is refused
or passed over: the machine stays as it is, and if it says why, it names the phase that it is in. In
those phases the event always has an effect. Going back to polling leaves nothing of the search that
was before: the machine is the one that a new one becomes when it begins to track the transaction.
-/

namespace SealedTree.Poll

namespace Phase

variable {p : Phase}

theorem isActive_iff :
    p.isActive = true ↔ p = .submitting ∨ p = .awaitingFirstPoll ∨ p = .polling := by
  cases p <;> simp [isActive]

theorem isPolling_iff : p.isPolling = true ↔ p = .awaitingFirstPoll ∨ p = .polling := by
  cases p <;> simp [isPolling]

theorem isRetryable_iff :
    p.isRetryable = true ↔ p = .exhausted ∨ ∃ reason, p = .failed reason := by
  cases p <;> simp [isRetryable]

end Phase

namespace Machine

/-- The event does not belong to the phase that the machine is in. -/
def Refuses (m : Machine) : Event → Prop
  | .beginSubmit | .track _ =>
      m.phase = .submitting ∨ m.phase = .awaitingFirstPoll ∨ m.phase = .polling
  | .submitted _ | .submitFailed _ => m.phase ≠ .submitting
  | .record _ _ => m.phase ≠ .awaitingFirstPoll ∧ m.phase ≠ .polling
  | .manualRetry =>
      (m.phase ≠ .exhausted ∧ ∀ reason, m.phase ≠ .failed reason) ∨ m.tx = none

variable {m : Machine}

theorem refuses_record_iff {o : Outcome} {jitter : Duration} :
    m.Refuses (.record o jitter) ↔ m.phase.isPolling = false := by
  rw [Refuses, ← Bool.not_eq_true, Phase.isPolling_iff, not_or]

theorem refuses_manualRetry_iff :
    m.Refuses .manualRetry ↔ ¬(m.phase.isRetryable && m.tx.isSome) = true := by
  rw [Refuses, Bool.and_eq_true, Phase.isRetryable_iff, Option.isSome_iff_ne_none]
  grind

theorem on_of_refuses {e : Event} (h : m.Refuses e) : m.on e = m := by
  cases e with
  | beginSubmit => rw [on_beginSubmit, if_pos (Phase.isActive_iff.mpr h)]
  | submitted tx => rw [on_submitted, if_neg h]
  | submitFailed cause => rw [on_submitFailed, if_neg h]
  | track tx => rw [on_track, if_pos (Phase.isActive_iff.mpr h)]
  | record o jitter =>
      exact congrArg Prod.fst (record_of_not_polling (refuses_record_iff.mp h) o jitter)
  | manualRetry => rw [on_manualRetry, if_neg (refuses_manualRetry_iff.mp h)]

/-- What was accepted leads to a phase that it does not belong to; only outcomes may come one after
the other, and they are counted. -/
theorem refuses_again {e : Event} (h : ¬m.Refuses e) :
    (m.on e).Refuses e ∨ (m.on e).attempts = m.attempts + 1 := by
  cases e with
  | beginSubmit =>
      rw [on_beginSubmit, if_neg (mt Phase.isActive_iff.mp h)]
      exact .inl (.inl rfl)
  | submitted tx =>
      rw [on_submitted, if_pos (Decidable.not_not.mp h)]
      exact .inl nofun
  | submitFailed cause =>
      rw [on_submitFailed, if_pos (Decidable.not_not.mp h)]
      exact .inl nofun
  | track tx =>
      rw [on_track, if_neg (mt Phase.isActive_iff.mp h)]
      exact .inl (.inr (.inr rfl))
  | record o jitter =>
      rcases m.on_record o jitter with ⟨other, -⟩ | ⟨-, -, stop⟩ | ⟨-, -, -, wait⟩
      · exact absurd (refuses_record_iff.mpr other) h
      · rw [stop]
        exact .inr rfl
      · rw [wait]
        exact .inr rfl
  | manualRetry =>
      rw [on_manualRetry, if_pos (Decidable.not_not.mp (mt refuses_manualRetry_iff.mpr h))]
      exact .inl (.inl ⟨nofun, nofun⟩)

/-- An event leaves a machine as it is just if it is refused. -/
theorem on_eq_self_iff (m : Machine) (e : Event) : m.on e = m ↔ m.Refuses e := by
  refine ⟨fun same => Classical.byContradiction fun accepted => ?_, on_of_refuses⟩
  have again := refuses_again accepted
  rw [same] at again
  rcases again with refused | counted
  · exact accepted refused
  · exact Nat.succ_ne_self _ counted.symm

section Error

variable {α : Type} {p : Prop} [Decidable p] {event : String} {a : α} {err : ClientError}

theorem refuse_if_eq_error_iff :
    (if p then m.refuse event else .ok a) = .error err ↔
      p ∧ err = .invalidTransition event m.phase.name := by
  by_cases refused : p
  · rw [if_pos refused, refuse, Except.error.injEq, eq_comm, and_iff_right refused]
  · rw [if_neg refused]
    refine iff_of_false (fun failed => ?_) fun h => refused h.1
    cases failed

theorem refuse_unless_eq_error_iff :
    (if p then .ok a else m.refuse event) = .error err ↔
      ¬p ∧ err = .invalidTransition event m.phase.name := by
  rw [← ite_not, refuse_if_eq_error_iff]

theorem beginSubmit_eq_error_iff :
    m.beginSubmit = .error err ↔
      m.Refuses .beginSubmit ∧ err = .invalidTransition "submit" m.phase.name := by
  rw [beginSubmit, refuse_if_eq_error_iff, Phase.isActive_iff, Refuses]

theorem submitted_eq_error_iff {tx : TransactionId} :
    m.submitted tx = .error err ↔
      m.Refuses (.submitted tx) ∧
        err = .invalidTransition "accept a transaction" m.phase.name := by
  rw [submitted, refuse_unless_eq_error_iff, Refuses]

theorem track_eq_error_iff {tx : TransactionId} :
    m.track tx = .error err ↔
      m.Refuses (.track tx) ∧ err = .invalidTransition "track" m.phase.name := by
  rw [track, refuse_if_eq_error_iff, Phase.isActive_iff, Refuses]

theorem manualRetry_eq_error_iff :
    m.manualRetry = .error err ↔
      m.Refuses .manualRetry ∧ err = .invalidTransition "retry" m.phase.name := by
  rw [manualRetry, refuse_unless_eq_error_iff, ← refuses_manualRetry_iff]

end Error

theorem record_eq_self_iff {o : Outcome} {jitter : Duration} :
    m.record o jitter = (m, .stop) ↔ m.Refuses (.record o jitter) :=
  ⟨fun ignored => (m.on_eq_self_iff _).mp (congrArg Prod.fst ignored),
    fun refused => record_of_not_polling (refuses_record_iff.mp refused) o jitter⟩

theorem submitFailed_eq (m : Machine) (cause : NetworkError) :
    m.submitFailed cause = (m.on (.submitFailed cause), .stop) := by
  rw [on, submitFailed]
  split <;> rfl

/-- What tracking leads to does not depend on the search before. -/
theorem track_anew {m' : Machine} {tx : TransactionId} {step : Step}
    (h : m.track tx = .ok (m', step)) : (new m.schedule).track tx = .ok (m', step) := by
  rw [track] at h
  split at h
  · cases h
  · cases h
    rfl

theorem manualRetry_anew {m' : Machine} {step : Step} (h : m.manualRetry = .ok (m', step)) :
    ∃ tx, m.tx = some tx ∧ (new m.schedule).track tx = .ok (m', step) := by
  rw [manualRetry] at h
  split at h
  · next retryable =>
      rw [Bool.and_eq_true, Option.isSome_iff_exists] at retryable
      obtain ⟨-, tx, tracked⟩ := retryable
      obtain ⟨schedule, phase, _, attempts, backoff⟩ := m
      cases tracked
      cases h
      exact ⟨tx, rfl, rfl⟩
  · cases h

/-- What does not belong to the phase changes nothing, and only that; an error names the phase. A
machine that goes back to polling is the very machine that a new one becomes when it begins to track
the transaction, so whatever comes later is answered as if nothing had been before. -/
theorem refused_unchanged (m : Machine) :
    (∀ e, m.on e = m ↔ m.Refuses e) ∧
    (∀ err, m.beginSubmit = .error err ↔
      m.Refuses .beginSubmit ∧ err = .invalidTransition "submit" m.phase.name) ∧
    (∀ tx err, m.submitted tx = .error err ↔
      m.Refuses (.submitted tx) ∧ err = .invalidTransition "accept a transaction" m.phase.name) ∧
    (∀ tx err, m.track tx = .error err ↔
      m.Refuses (.track tx) ∧ err = .invalidTransition "track" m.phase.name) ∧
    (∀ err, m.manualRetry = .error err ↔
      m.Refuses .manualRetry ∧ err = .invalidTransition "retry" m.phase.name) ∧
    (∀ o jitter, m.record o jitter = (m, .stop) ↔ m.Refuses (.record o jitter)) ∧
    (∀ cause, m.submitFailed cause = (m.on (.submitFailed cause), .stop)) ∧
    (∀ tx m' step, m.track tx = .ok (m', step) →
      (new m.schedule).track tx = .ok (m', step)) ∧
    (∀ m' step, m.manualRetry = .ok (m', step) →
      ∃ tx, m.tx = some tx ∧ (new m.schedule).track tx = .ok (m', step)) :=
  ⟨m.on_eq_self_iff, fun _ => beginSubmit_eq_error_iff, fun _ _ => submitted_eq_error_iff,
    fun _ _ => track_eq_error_iff, fun _ => manualRetry_eq_error_iff,
    fun _ _ => record_eq_self_iff, m.submitFailed_eq, fun _ _ _ => track_anew,
    fun _ _ => manualRetry_anew⟩

end Machine

end SealedTree.Poll
