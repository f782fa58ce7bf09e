import SealedTree.Poll.Machine

/-!
What one attempt does to a machine. An attempt ends the round if its outcome decides it or if it is
the last one that is allowed, and how the round ends is a matter of that outcome alone; after any
other attempt the machine goes on polling and waits for as long as its backoff says.
-/

namespace SealedTree

/-- How many attempts a round has at most. Even a schedule without any allows the first one. -/
def Schedule.attemptLimit (s : Schedule) : Nat := max 1 s.maxRetries.toNat

theorem Schedule.one_le_attemptLimit (s : Schedule) : 1 ≤ s.attemptLimit := Nat.le_max_left ..

theorem Schedule.attemptLimit_lt (s : Schedule) : s.attemptLimit < UInt32.size :=
  Nat.max_lt.mpr ⟨by decide, s.maxRetries.toNat_lt_size⟩

namespace Poll

namespace Outcome

/-- A result, or an error that no further attempt can mend: the round is over, however many
attempts are left. -/
def isDecisive : Outcome → Bool
  | .ready result => result.isOneHot
  | .readError cause => !cause.isTransient
  | .pending _ | .malformed _ => false

/-- How a round ends whose last outcome this is. -/
def verdict : Outcome → Phase
  | .ready result => if result.isOneHot then .resolved result.interpret else .exhausted
  | .pending _ => .exhausted
  | .malformed cause => .failed ("undecodable result: " ++ cause.message)
  | .readError cause => .failed cause.message

/-- The factor by which the backoff grows if the round goes on. -/
def multiplier (s : Schedule) : Outcome → Float
  | .readError _ => s.errorMultiplier
  | _ => s.pendingMultiplier

/-- The backoff that a round leaves behind; a resolution puts it back to the floor. -/
def lastBackoff (m : Machine) (o : Outcome) : Duration :=
  match o.verdict with
  | .resolved _ => m.schedule.floor
  | _ => m.backoff

theorem isPolling_verdict (o : Outcome) : o.verdict.isPolling = false := by
  cases o with
  | ready result => cases h : result.isOneHot <;> simp [verdict, h, Phase.isPolling]
  | pending _ | malformed _ | readError _ => rfl

theorem verdict_eq_resolved {o : Outcome} {c : Classification} (h : o.verdict = .resolved c) :
    ∃ result, o = .ready result ∧ result.isOneHot = true ∧ result.interpret = c := by
  cases o with
  | ready result =>
      cases oneHot : result.isOneHot with
      | true =>
          simp only [verdict, oneHot, if_true, Phase.resolved.injEq] at h
          exact ⟨result, rfl, oneHot, h⟩
      | false => simp [verdict, oneHot] at h
  | pending _ | malformed _ | readError _ => cases h

end Outcome

namespace Machine

variable {m : Machine} {o : Outcome}

/-- The attempt that comes next is the last one. -/
def OnLastAttempt (m : Machine) : Prop := m.schedule.attemptLimit ≤ m.attempts + 1

theorem atCeiling_counted (m : Machine) :
    atCeiling { m with phase := .polling, attempts := m.attempts + 1 } = true ↔
      m.OnLastAttempt := by
  simp only [atCeiling, OnLastAttempt, Schedule.attemptLimit, decide_eq_true_eq]
  omega

theorem record_of_stop (polling : m.phase.isPolling) (stop : o.isDecisive ∨ m.OnLastAttempt)
    (jitter : Duration) :
    m.record o jitter =
      ({ m with phase := o.verdict, attempts := m.attempts + 1, backoff := o.lastBackoff m },
        .stop) := by
  rw [← atCeiling_counted] at stop
  rw [record, if_pos polling, conclude.eq_def]
  cases o with
  | ready result =>
      cases h : result.isOneHot <;> simp_all [Outcome.isDecisive, Outcome.verdict,
        Outcome.lastBackoff]
  | pending reason => simp_all [Outcome.isDecisive, Outcome.verdict, Outcome.lastBackoff]
  | malformed cause => simp_all [Outcome.isDecisive, Outcome.verdict, Outcome.lastBackoff]
  | readError cause => simp_all [Outcome.isDecisive, Outcome.verdict, Outcome.lastBackoff]

theorem record_of_wait (polling : m.phase.isPolling) (undecided : o.isDecisive = false)
    (early : ¬m.OnLastAttempt) (jitter : Duration) :
    m.record o jitter =
      ({ m with
          phase := .polling, attempts := m.attempts + 1
          backoff := m.schedule.grown m.backoff (o.multiplier m.schedule) jitter },
        .wait m.backoff) := by
  rw [← atCeiling_counted] at early
  rw [record, if_pos polling, conclude.eq_def]
  cases o with
  | ready result =>
      simp_all [Outcome.isDecisive, Outcome.multiplier, waitThenGrow]
  | pending reason => simp_all [Outcome.multiplier, waitThenGrow]
  | malformed cause => simp_all [Outcome.multiplier, waitThenGrow]
  | readError cause => simp_all [Outcome.isDecisive, Outcome.multiplier, waitThenGrow]

theorem record_of_not_polling (h : m.phase.isPolling = false) (o : Outcome) (jitter : Duration) :
    m.record o jitter = (m, .stop) := by
  rw [record, h]
  rfl

end Machine

end Poll

end SealedTree
