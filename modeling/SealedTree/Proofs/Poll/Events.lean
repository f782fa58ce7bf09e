import SealedTree.Proofs.OneHotResult
import SealedTree.Proofs.Poll.Attempt

/-!
Machines and everything that can be told to them, in any order. A refused event leaves a machine as
it was. The invariant says what each phase means for the transaction and the number of attempts; it
holds of a new machine and survives every event, so it holds of every machine that there can be.
-/

namespace SealedTree.Poll

/-- A result was found, or all attempts were used up. -/
def Phase.isConcluded : Phase → Bool
  | .resolved _ | .exhausted => true
  | _ => false

/-- What can be told to a machine. -/
inductive Event
  | beginSubmit
  | submitted (tx : TransactionId)
  | submitFailed (cause : NetworkError)
  | track (tx : TransactionId)
  | record (outcome : Outcome) (jitter : Duration)
  | manualRetry

namespace Machine

/-- The machine after an event that it may refuse. -/
def afterReply (m : Machine) : Except ClientError Machine → Machine
  | .ok m' => m'
  | .error _ => m

def on (m : Machine) : Event → Machine
  | .beginSubmit => m.afterReply m.beginSubmit
  | .submitted tx => m.afterReply ((m.submitted tx).map Prod.fst)
  | .submitFailed cause => (m.submitFailed cause).1
  | .track tx => m.afterReply ((m.track tx).map Prod.fst)
  | .record outcome jitter => (m.record outcome jitter).1
  | .manualRetry => m.afterReply (m.manualRetry.map Prod.fst)

def after (m : Machine) (events : List Event) : Machine := events.foldl on m

variable (m : Machine)

theorem on_beginSubmit :
    m.on .beginSubmit =
      if m.phase.isActive then m else { m.reset with tx := none, phase := .submitting } := by
  simp only [on, beginSubmit]
  split <;> rfl

theorem on_submitted (tx : TransactionId) :
    m.on (.submitted tx) =
      if m.phase = .submitting then { m with tx := some tx, phase := .awaitingFirstPoll }
      else m := by
  simp only [on, submitted]
  split <;> rfl

theorem on_submitFailed (cause : NetworkError) :
    m.on (.submitFailed cause) =
      if m.phase = .submitting then
        { m with phase := .failed ("submission failed: " ++ cause.message) }
      else m := by
  simp only [on, submitFailed]
  split <;> rfl

theorem on_track (tx : TransactionId) :
    m.on (.track tx) =
      if m.phase.isActive then m else { m.reset with tx := some tx, phase := .polling } := by
  simp only [on, track]
  split <;> rfl

theorem on_manualRetry :
    m.on .manualRetry =
      if m.phase.isRetryable && m.tx.isSome then { m.reset with phase := .polling }
      else m := by
  simp only [on, manualRetry]
  split <;> rfl

/-- An outcome is ignored, or ends the round, or lets it go on. -/
theorem on_record (o : Outcome) (jitter : Duration) :
    m.phase.isPolling = false ∧ m.on (.record o jitter) = m ∨
    m.phase.isPolling = true ∧ (o.isDecisive = true ∨ m.OnLastAttempt) ∧
      m.on (.record o jitter) =
        { m with phase := o.verdict, attempts := m.attempts + 1, backoff := o.lastBackoff m } ∨
    m.phase.isPolling = true ∧ o.isDecisive = false ∧ ¬m.OnLastAttempt ∧
      m.on (.record o jitter) =
        { m with
            phase := .polling, attempts := m.attempts + 1
            backoff := m.schedule.grown m.backoff (o.multiplier m.schedule) jitter } := by
  cases polling : m.phase.isPolling with
  | false => exact .inl ⟨rfl, congrArg Prod.fst (record_of_not_polling polling o jitter)⟩
  | true =>
      by_cases stop : o.isDecisive = true ∨ m.OnLastAttempt
      · exact .inr (.inl ⟨rfl, stop, congrArg Prod.fst (record_of_stop polling stop jitter)⟩)
      · obtain ⟨undecided, early⟩ := not_or.mp stop
        rw [Bool.not_eq_true] at undecided
        exact .inr (.inr ⟨rfl, undecided, early,
          congrArg Prod.fst (record_of_wait polling undecided early jitter)⟩)

@[simp] theorem schedule_on (e : Event) : (m.on e).schedule = m.schedule := by
  cases e with
  | beginSubmit => rw [on_beginSubmit]; split <;> rfl
  | submitted tx => rw [on_submitted]; split <;> rfl
  | submitFailed cause => rw [on_submitFailed]; split <;> rfl
  | track tx => rw [on_track]; split <;> rfl
  | record o jitter =>
      rcases m.on_record o jitter with ⟨-, same⟩ | ⟨-, -, stop⟩ | ⟨-, -, -, wait⟩
      · rw [same]
      · rw [stop]
      · rw [wait]
  | manualRetry => rw [on_manualRetry]; split <;> rfl

@[simp] theorem schedule_after (events : List Event) :
    (m.after events).schedule = m.schedule := by
  induction events generalizing m with
  | nil => rfl
  | cons e rest ih => exact (ih (m.on e)).trans (m.schedule_on e)

/-- What the phase says about the transaction and about how many attempts were made. -/
def Consistent (m : Machine) : Prop :=
  match m.phase with
  | .idle | .submitting => m.tx = none ∧ m.attempts = 0
  | .awaitingFirstPoll => m.tx.isSome ∧ m.attempts = 0
  | .polling => m.tx.isSome ∧ m.attempts < m.schedule.attemptLimit
  | .resolved c =>
      m.tx.isSome ∧ 1 ≤ m.attempts ∧ m.attempts ≤ m.schedule.attemptLimit ∧ c ≠ .indeterminate
  | .exhausted => m.tx.isSome ∧ m.attempts = m.schedule.attemptLimit
  | .failed _ =>
      m.tx = none ∧ m.attempts = 0 ∨
        m.tx.isSome ∧ 1 ≤ m.attempts ∧ m.attempts ≤ m.schedule.attemptLimit

theorem consistent_new (s : Schedule) : (new s).Consistent := ⟨rfl, rfl⟩

variable {m}

theorem Consistent.of_polling (h : m.Consistent) (polling : m.phase.isPolling = true) :
    m.tx.isSome ∧ m.attempts < m.schedule.attemptLimit := by
  have positive := m.schedule.one_le_attemptLimit
  rw [Consistent] at h
  cases phase : m.phase with
  | awaitingFirstPoll =>
      simp only [phase] at h
      exact ⟨h.1, by omega⟩
  | polling =>
      simp only [phase] at h
      exact h
  | idle | submitting | resolved _ | failed _ | exhausted =>
      rw [phase] at polling
      cases polling

theorem Consistent.stop (h : m.Consistent) (polling : m.phase.isPolling = true) (o : Outcome)
    (stop : o.isDecisive = true ∨ m.OnLastAttempt) (backoff : Duration) :
    Consistent { m with phase := o.verdict, attempts := m.attempts + 1, backoff } := by
  obtain ⟨known, left⟩ := h.of_polling polling
  rw [OnLastAttempt] at stop
  cases o with
  | ready result =>
      cases oneHot : result.isOneHot with
      | true =>
          have label := OneHot.interpret_ne_indeterminate oneHot
          simp only [Consistent, Outcome.verdict, oneHot, if_true]
          exact ⟨known, by omega, by omega, label⟩
      | false =>
          simp only [Outcome.isDecisive, oneHot, Bool.false_eq_true, false_or] at stop
          simp only [Consistent, Outcome.verdict, oneHot, Bool.false_eq_true, if_false]
          exact ⟨known, by omega⟩
  | pending reason =>
      simp only [Outcome.isDecisive, Bool.false_eq_true, false_or] at stop
      exact ⟨known, by dsimp only; omega⟩
  | malformed cause => exact .inr ⟨known, by dsimp only; omega, by dsimp only; omega⟩
  | readError cause => exact .inr ⟨known, by dsimp only; omega, by dsimp only; omega⟩

theorem consistent_on (h : m.Consistent) (e : Event) : (m.on e).Consistent := by
  have positive := m.schedule.one_le_attemptLimit
  cases e with
  | beginSubmit =>
      rw [on_beginSubmit]
      split
      · exact h
      · exact ⟨rfl, rfl⟩
  | submitted tx =>
      rw [on_submitted]
      split
      · next submitting =>
          rw [Consistent, submitting] at h
          exact ⟨rfl, h.2⟩
      · exact h
  | submitFailed cause =>
      rw [on_submitFailed]
      split
      · next submitting =>
          rw [Consistent, submitting] at h
          exact .inl h
      · exact h
  | track tx =>
      rw [on_track]
      split
      · exact h
      · exact ⟨rfl, positive⟩
  | record o jitter =>
      rcases m.on_record o jitter with ⟨-, same⟩ | ⟨polling, stop, ended⟩ | ⟨polling, -, early, on⟩
      · rwa [same]
      · rw [ended]
        exact h.stop polling o stop _
      · rw [on]
        exact ⟨(h.of_polling polling).1, Nat.lt_of_not_le early⟩
  | manualRetry =>
      rw [on_manualRetry]
      split
      · next retryable =>
          rw [Bool.and_eq_true] at retryable
          exact ⟨retryable.2, positive⟩
      · exact h

theorem consistent_after (h : m.Consistent) (events : List Event) :
    (m.after events).Consistent := by
  induction events generalizing m with
  | nil => exact h
  | cons e rest ih => exact ih (consistent_on h e)

/-- What one event resolves was resolved before, or is the result that was just recorded. -/
theorem resolved_on {c : Classification} (e : Event) (h : (m.on e).phase = .resolved c) :
    m.phase = .resolved c ∨
      ∃ result jitter, e = .record (.ready result) jitter ∧ result.isOneHot = true ∧
        result.interpret = c := by
  cases e with
  | beginSubmit => rw [on_beginSubmit] at h; split at h <;> simp_all
  | submitted tx => rw [on_submitted] at h; split at h <;> simp_all
  | submitFailed cause => rw [on_submitFailed] at h; split at h <;> simp_all
  | track tx => rw [on_track] at h; split at h <;> simp_all
  | record o jitter =>
      rcases m.on_record o jitter with ⟨-, same⟩ | ⟨-, -, stop⟩ | ⟨-, -, -, wait⟩
      · rw [same] at h
        exact .inl h
      · rw [stop] at h
        obtain ⟨result, rfl, oneHot, label⟩ := Outcome.verdict_eq_resolved h
        exact .inr ⟨result, jitter, rfl, oneHot, label⟩
      · rw [wait] at h
        cases h
  | manualRetry => rw [on_manualRetry] at h; split at h <;> simp_all

/-- A resolution comes from a one-hot result that was recorded on the way. -/
theorem resolved_after {c : Classification} (events : List Event)
    (h : (m.after events).phase = .resolved c) :
    m.phase = .resolved c ∨
      ∃ result jitter, .record (.ready result) jitter ∈ events ∧ result.isOneHot = true ∧
        result.interpret = c := by
  induction events generalizing m with
  | nil => exact .inl h
  | cons e rest ih =>
      rcases ih h with now | ⟨result, jitter, later, label⟩
      · rcases resolved_on e now with before | ⟨result, jitter, rfl, label⟩
        · exact .inl before
        · exact .inr ⟨result, jitter, List.mem_cons_self, label⟩
      · exact .inr ⟨result, jitter, List.mem_cons_of_mem e later, label⟩

theorem tx_on_record (o : Outcome) (jitter : Duration) : (m.on (.record o jitter)).tx = m.tx := by
  rcases m.on_record o jitter with ⟨-, same⟩ | ⟨-, -, stop⟩ | ⟨-, -, -, wait⟩
  · rw [same]
  · rw [stop]
  · rw [wait]

theorem tx_on_manualRetry : (m.on .manualRetry).tx = m.tx := by
  rw [on_manualRetry]
  split <;> rfl

/-- Only an outcome concludes a search: an event of another kind after which a machine is found
resolved or exhausted was refused. -/
theorem on_of_concluded {e : Event} (h : (m.on e).phase.isConcluded = true) :
    m.on e = m ∨ ∃ o jitter, e = .record o jitter := by
  cases e with
  | beginSubmit =>
      rw [on_beginSubmit] at h ⊢
      split
      · exact .inl rfl
      · next idle => simp [idle, Phase.isConcluded] at h
  | submitted tx =>
      rw [on_submitted] at h ⊢
      split
      · next submitting => simp [submitting, Phase.isConcluded] at h
      · exact .inl rfl
  | submitFailed cause =>
      rw [on_submitFailed] at h ⊢
      split
      · next submitting => simp [submitting, Phase.isConcluded] at h
      · exact .inl rfl
  | track tx =>
      rw [on_track] at h ⊢
      split
      · exact .inl rfl
      · next idle => simp [idle, Phase.isConcluded] at h
  | record o jitter => exact .inr ⟨o, jitter, rfl⟩
  | manualRetry =>
      rw [on_manualRetry] at h ⊢
      split
      · next retryable => simp [retryable, Phase.isConcluded] at h
      · exact .inl rfl

/-- A counter of 32 bits has room for every attempt that is made. -/
theorem Consistent.attempts_lt (h : m.Consistent) (polling : m.phase.isPolling = true) :
    m.attempts + 1 < UInt32.size := by
  have left := (h.of_polling polling).2
  have small := m.schedule.attemptLimit_lt
  omega

/-- What is true of every machine that there can be, whatever it was told and whatever of that it
refused. -/
theorem reachable_consistent (s : Schedule) (history : List Event) :
    let m := (new s).after history
    m.schedule = s ∧ m.Consistent ∧ (m.phase.isPolling = true → m.attempts + 1 < UInt32.size) ∧
      (∀ e, (m.on e).phase.isConcluded = true →
        m.on e = m ∨ ∃ o jitter, e = .record o jitter) ∧
      (∀ o jitter, (m.on (.record o jitter)).tx = m.tx) ∧ (m.on .manualRetry).tx = m.tx := by
  intro m
  have consistent : m.Consistent := consistent_after (consistent_new s) history
  exact ⟨schedule_after _ history, consistent, consistent.attempts_lt,
    fun _ concluded => on_of_concluded concluded, tx_on_record, tx_on_manualRetry⟩

end Machine

end SealedTree.Poll
