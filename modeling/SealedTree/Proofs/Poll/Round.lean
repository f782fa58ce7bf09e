import Mathlib.Order.Bounds.Defs
import SealedTree.Proofs.Poll.Events

/-!
A whole round. The attempts of a round are counted from one; the round ends at the first of them
whose outcome decides it, and at the last one that is allowed if there is none. Until then the
machine waits after every attempt, and from then on nothing changes it. How long the waits are
depends on the jitter, and nothing else does.
-/

namespace SealedTree.Poll

namespace Machine

/-- The machine that has got several outcomes, and the steps that they led to. -/
def recordAll (m : Machine) : List (Outcome × Duration) → Machine × List Step
  | [] => (m, [])
  | (o, jitter) :: rest =>
      let (m, step) := m.record o jitter
      let (m, steps) := m.recordAll rest
      (m, step :: steps)

/-- The second machine is the first one when it has just entered a round. -/
inductive Enters (m : Machine) : Machine → Prop
  | submitted {m' : Machine} {tx : TransactionId} {step : Step} :
      m.submitted tx = .ok (m', step) → Enters m m'
  | track {m' : Machine} {tx : TransactionId} {step : Step} :
      m.track tx = .ok (m', step) → Enters m m'
  | manualRetry {m' : Machine} {step : Step} :
      m.manualRetry = .ok (m', step) → Enters m m'

/-- The attempt with this number ends the round, unless an earlier one does. -/
def EndsAt (limit : Nat) (outcomes : List Outcome) (i : Nat) : Prop :=
  1 ≤ i ∧ (i = limit ∨ ∃ o, outcomes[i - 1]? = some o ∧ o.isDecisive = true)

theorem recordAll_cons (m : Machine) (o : Outcome) (jitter : Duration)
    (rest : List (Outcome × Duration)) :
    m.recordAll ((o, jitter) :: rest) =
      (((m.record o jitter).1.recordAll rest).1,
        (m.record o jitter).2 :: ((m.record o jitter).1.recordAll rest).2) := rfl

theorem recordAll_append (m : Machine) (xs ys : List (Outcome × Duration)) :
    m.recordAll (xs ++ ys) =
      (((m.recordAll xs).1.recordAll ys).1,
        (m.recordAll xs).2 ++ ((m.recordAll xs).1.recordAll ys).2) := by
  induction xs generalizing m with
  | nil => rfl
  | cons x rest ih =>
      obtain ⟨o, jitter⟩ := x
      simp only [List.cons_append, recordAll_cons, ih]

@[simp] theorem length_steps (m : Machine) (fed : List (Outcome × Duration)) :
    (m.recordAll fed).2.length = fed.length := by
  induction fed generalizing m with
  | nil => rfl
  | cons x rest ih =>
      obtain ⟨o, jitter⟩ := x
      rw [recordAll_cons, List.length_cons, List.length_cons, ih]

variable {m : Machine}

theorem Enters.expects {m' : Machine} (h : m.Enters m') (consistent : m.Consistent) :
    m'.phase.isPolling = true ∧ m'.attempts = 0 ∧ m'.schedule = m.schedule := by
  cases h with
  | submitted accepted =>
      rw [Machine.submitted] at accepted
      split at accepted
      · next submitting =>
          cases accepted
          rw [Consistent, submitting] at consistent
          exact ⟨rfl, consistent.2, rfl⟩
      · cases accepted
  | track accepted =>
      rw [Machine.track] at accepted
      split at accepted
      · cases accepted
      · cases accepted
        exact ⟨rfl, rfl, rfl⟩
  | manualRetry accepted =>
      rw [Machine.manualRetry] at accepted
      split at accepted
      · cases accepted
        exact ⟨rfl, rfl, rfl⟩
      · cases accepted

/-- As long as no outcome decides and attempts are left, the machine waits and counts. -/
theorem recordAll_of_undecided (fed : List (Outcome × Duration))
    (polling : m.phase.isPolling = true)
    (undecided : ∀ o ∈ fed.map Prod.fst, o.isDecisive = false)
    (early : m.attempts + fed.length < m.schedule.attemptLimit) :
    (m.recordAll fed).1.phase.isPolling = true ∧
      (m.recordAll fed).1.attempts = m.attempts + fed.length ∧
      (m.recordAll fed).1.schedule = m.schedule ∧
      ∀ step ∈ (m.recordAll fed).2, ∃ delay, step = .wait delay := by
  induction fed generalizing m with
  | nil => exact ⟨polling, rfl, rfl, by simp [recordAll]⟩
  | cons x rest ih =>
      obtain ⟨o, jitter⟩ := x
      rw [List.length_cons] at early
      have notLast : ¬m.OnLastAttempt := by
        rw [OnLastAttempt]
        omega
      have first := record_of_wait polling (undecided o List.mem_cons_self) notLast jitter
      have counted : m.attempts + 1 + rest.length < m.schedule.attemptLimit := by omega
      rw [recordAll_cons, first]
      obtain ⟨polling', attempts', schedule', waits⟩ := ih (m := { m with
          phase := .polling, attempts := m.attempts + 1
          backoff := m.schedule.grown m.backoff (o.multiplier m.schedule) jitter })
        rfl (fun o ho => undecided o (List.mem_cons_of_mem _ ho)) counted
      refine ⟨polling', attempts'.trans ?_, schedule', ?_⟩
      · rw [List.length_cons, Nat.add_right_comm, Nat.add_assoc]
      · intro step hstep
        rcases List.mem_cons.mp hstep with rfl | later
        · exact ⟨_, rfl⟩
        · exact waits step later

theorem recordAll_of_not_polling (h : m.phase.isPolling = false)
    (fed : List (Outcome × Duration)) :
    m.recordAll fed = (m, List.replicate fed.length .stop) := by
  induction fed with
  | nil => rfl
  | cons x rest ih =>
      obtain ⟨o, jitter⟩ := x
      rw [recordAll_cons, record_of_not_polling h, ih]
      rfl

/-- Machines that differ in their backoff only. -/
def SameButBackoff (m m' : Machine) : Prop := ∃ backoff, m' = { m with backoff }

/-- Neither the backoff nor the jitter has a say in what becomes of a machine. -/
theorem SameButBackoff.record {m' : Machine} (h : m.SameButBackoff m') (o : Outcome)
    (jitter jitter' : Duration) :
    (m.record o jitter).1.SameButBackoff (m'.record o jitter').1 ∧
      ((m.record o jitter).2 = .stop ↔ (m'.record o jitter').2 = .stop) := by
  obtain ⟨backoff, rfl⟩ := h
  cases polling : m.phase.isPolling with
  | false =>
      have second := record_of_not_polling (m := { m with backoff }) polling o jitter'
      rw [record_of_not_polling polling, second]
      exact ⟨⟨backoff, rfl⟩, Iff.rfl⟩
  | true =>
      by_cases stop : o.isDecisive = true ∨ m.OnLastAttempt
      · have second := record_of_stop (m := { m with backoff }) polling stop jitter'
        rw [record_of_stop polling stop, second]
        exact ⟨⟨_, rfl⟩, Iff.rfl⟩
      · obtain ⟨undecided, early⟩ := not_or.mp stop
        rw [Bool.not_eq_true] at undecided
        have second := record_of_wait (m := { m with backoff }) polling undecided early jitter'
        rw [record_of_wait polling undecided early, second]
        exact ⟨⟨_, rfl⟩, by simp⟩

theorem SameButBackoff.recordAll {m' : Machine} (h : m.SameButBackoff m')
    {fed other : List (Outcome × Duration)} (same : fed.map Prod.fst = other.map Prod.fst) :
    (m.recordAll fed).1.SameButBackoff (m'.recordAll other).1 ∧
      ∀ i : Nat, (m.recordAll fed).2[i]? = some .stop ↔
        (m'.recordAll other).2[i]? = some .stop := by
  induction fed generalizing m m' other with
  | nil =>
      obtain rfl : other = [] := List.map_eq_nil_iff.mp same.symm
      exact ⟨h, fun i => Iff.rfl⟩
  | cons x rest ih =>
      obtain ⟨o, jitter⟩ := x
      cases other with
      | nil => cases same
      | cons x' rest' =>
          obtain ⟨o', jitter'⟩ := x'
          rw [List.map_cons, List.map_cons, List.cons.injEq] at same
          obtain ⟨rfl, same⟩ := same
          obtain ⟨alike, stops⟩ := h.record o jitter jitter'
          obtain ⟨alike', stops'⟩ := ih alike same
          rw [recordAll_cons, recordAll_cons]
          refine ⟨alike', fun i => ?_⟩
          cases i with
          | zero => simpa using stops
          | succ i => simpa using stops' i

/-- Before the attempt that ends a round none decides it, and there are fewer than the limit. -/
theorem undecided_before {limit k : Nat} {outcomes : List Outcome} (positive : 1 ≤ limit)
    (least : IsLeast {i | EndsAt limit outcomes i} k) :
    k - 1 < limit ∧ ∀ o ∈ outcomes.take (k - 1), o.isDecisive = false := by
  have within : k ≤ limit := least.2 ⟨positive, .inl rfl⟩
  have counted : 1 ≤ k := least.1.1
  refine ⟨by omega, fun o ho => ?_⟩
  obtain ⟨i, early, here⟩ := List.mem_take_iff_getElem.mp ho
  rw [← Bool.not_eq_true]
  intro decisive
  have sooner : k ≤ i + 1 := least.2 ⟨by omega, .inr ⟨o, by
    rw [Nat.add_sub_cancel, List.getElem?_eq_some_iff]
    exact ⟨_, here⟩, decisive⟩⟩
  omega

/-- The attempt that ends a round, after those that did not. -/
theorem recordAll_of_least {k : Nat} {fed : List (Outcome × Duration)}
    (polling : m.phase.isPolling = true) (fresh : m.attempts = 0)
    (least : IsLeast {i | EndsAt m.schedule.attemptLimit (fed.map Prod.fst) i} k)
    (enough : k ≤ fed.length) :
    (∃ o, (fed.map Prod.fst)[k - 1]? = some o ∧
      (m.recordAll (fed.take k)).1.phase = o.verdict) ∧
    (m.recordAll (fed.take k)).1.attempts = k ∧
    (m.recordAll (fed.take k)).2 = (m.recordAll (fed.take (k - 1))).2 ++ [.stop] ∧
    ∀ step ∈ (m.recordAll (fed.take (k - 1))).2, ∃ delay, step = .wait delay := by
  obtain ⟨early, undecided⟩ := undecided_before m.schedule.one_le_attemptLimit least
  have counted : 1 ≤ k := least.1.1
  have last : k - 1 < fed.length := by omega
  rcases hx : fed[k - 1] with ⟨o, jitter⟩
  have here : (fed.map Prod.fst)[k - 1]? = some o := by
    rw [List.getElem?_map, List.getElem?_eq_getElem last, hx]
    rfl
  have split : fed.take k = fed.take (k - 1) ++ [(o, jitter)] := by
    rw [← hx, List.take_append_getElem, Nat.sub_add_cancel counted]
  have length : (fed.take (k - 1)).length = k - 1 := List.length_take_of_le (by omega)
  obtain ⟨polling', attempts', schedule', waits⟩ :=
    recordAll_of_undecided (fed.take (k - 1)) polling
      (by rwa [List.map_take]) (by omega)
  have stop : o.isDecisive = true ∨ (m.recordAll (fed.take (k - 1))).1.OnLastAttempt := by
    rcases least.1.2 with limit | ⟨o', here', decisive⟩
    · refine .inr ?_
      rw [OnLastAttempt, schedule', attempts', fresh, length, ← limit]
      omega
    · rw [Option.some.inj (here.symm.trans here')]
      exact .inl decisive
  rw [split, recordAll_append, recordAll_cons, record_of_stop polling' stop jitter]
  refine ⟨⟨o, here, rfl⟩, ?_, rfl, waits⟩
  simp only [recordAll, attempts', fresh, length]
  omega

theorem recordAll_of_ended {k : Nat} {fed : List (Outcome × Duration)}
    (ended : (m.recordAll (fed.take k)).1.phase.isPolling = false) :
    m.recordAll fed = ((m.recordAll (fed.take k)).1,
      (m.recordAll (fed.take k)).2 ++ List.replicate (fed.drop k).length .stop) := by
  have parts := recordAll_append m (fed.take k) (fed.drop k)
  rwa [List.take_append_drop, recordAll_of_not_polling ended] at parts

/-- A round has an end, and both where it is and what becomes of the machine there are settled by
the outcomes. -/
theorem round_outcome (schedule : Schedule) (history : List Event)
    (entered : ((new schedule).after history).Enters m) (fed : List (Outcome × Duration)) :
    (∀ k, IsLeast {i | EndsAt (max 1 schedule.maxRetries.toNat) (fed.map Prod.fst) i} k →
      k ≤ fed.length →
      ∃ o, (fed.map Prod.fst)[k - 1]? = some o ∧
        (∀ i, i < k - 1 → ∃ delay, (m.recordAll fed).2[i]? = some (.wait delay)) ∧
        (m.recordAll fed).2[k - 1]? = some .stop ∧
        (m.recordAll (fed.take k)).1.attempts = k ∧
        (m.recordAll (fed.take k)).1.phase = o.verdict ∧
        (∀ o' jitter, (m.recordAll (fed.take k)).1.record o' jitter =
          ((m.recordAll (fed.take k)).1, .stop)) ∧
        (m.recordAll fed).1 = (m.recordAll (fed.take k)).1) ∧
    (∀ other : List (Outcome × Duration), fed.map Prod.fst = other.map Prod.fst → ∀ i : Nat,
      (m.recordAll (fed.take i)).1.phase = (m.recordAll (other.take i)).1.phase ∧
      (m.recordAll (fed.take i)).1.attempts = (m.recordAll (other.take i)).1.attempts ∧
      ((m.recordAll fed).2[i]? = some .stop ↔ (m.recordAll other).2[i]? = some .stop)) := by
  -- A submission does not touch the counter: that it starts at zero is the invariant's doing.
  obtain ⟨polling, fresh, same⟩ := entered.expects (consistent_after (consistent_new schedule) _)
  have limit : m.schedule.attemptLimit = max 1 schedule.maxRetries.toNat := by
    rw [same, schedule_after]
    rfl
  refine ⟨?_, ?_⟩
  · intro k least enough
    rw [← limit] at least
    obtain ⟨⟨o, here, phase⟩, attempts, steps, waiting⟩ :=
      recordAll_of_least polling fresh least enough
    have ended : (m.recordAll (fed.take k)).1.phase.isPolling = false := by
      rw [phase, Outcome.isPolling_verdict]
    have whole := recordAll_of_ended ended
    have number : (m.recordAll (fed.take (k - 1))).2.length = k - 1 := by
      rw [length_steps, List.length_take_of_le (by omega)]
    rw [steps, List.append_assoc] at whole
    refine ⟨o, here, ?_, ?_, attempts, phase,
      fun o' jitter => record_of_not_polling ended o' jitter, by rw [whole]⟩
    · intro i early
      have inside : i < (m.recordAll (fed.take (k - 1))).2.length := by omega
      rw [whole, List.getElem?_append_left inside, List.getElem?_eq_getElem inside]
      obtain ⟨delay, wait⟩ := waiting _ (List.getElem_mem inside)
      exact ⟨delay, congrArg some wait⟩
    · rw [whole, List.getElem?_append_right (Nat.le_of_eq number), number, Nat.sub_self]
      rfl
  · intro other outcomes i
    have alike : m.SameButBackoff m := ⟨m.backoff, rfl⟩
    have taken : (fed.take i).map Prod.fst = (other.take i).map Prod.fst := by
      rw [List.map_take, outcomes, List.map_take]
    obtain ⟨⟨backoff, differs⟩, -⟩ := alike.recordAll taken
    rw [differs]
    exact ⟨rfl, rfl, (alike.recordAll outcomes).2 i⟩

/-- A read that fails, and then the result on the last attempt: the round is resolved, not
exhausted. -/
theorem round_outcome_last_attempt :
    let schedule : Schedule := { maxRetries := 2 }
    let m : Machine := { (new schedule).reset with tx := some ⟨"7f"⟩, phase := .polling }
    let fed : List (Outcome × Duration) :=
      [(.readError (.transient "timeout"), 5), (.ready ⟨#v[0, 0, 1, 0, 0, 0, 0, 0]⟩, 0),
        (.pending .processing, 9)]
    ((new schedule).after []).Enters m ∧
      IsLeast {i | EndsAt (max 1 schedule.maxRetries.toNat) (fed.map Prod.fst) i} 2 ∧
      2 ≤ fed.length ∧
      (m.recordAll fed).2[1]? = some .stop ∧ (m.recordAll (fed.take 2)).1.attempts = 2 ∧
      (m.recordAll (fed.take 2)).1.phase = .resolved (.label .influencer) := by
  intro schedule m fed
  have tracked : (new schedule).track ⟨"7f"⟩ = .ok (m, .wait 0) := rfl
  have entered : ((new schedule).after []).Enters m := .track tracked
  have least : IsLeast {i | EndsAt (max 1 schedule.maxRetries.toNat) (fed.map Prod.fst) i} 2 := by
    refine ⟨⟨by decide, .inl rfl⟩, ?_⟩
    rintro i ⟨counted, rfl | ⟨o, here, decisive⟩⟩
    · exact Nat.le_refl 2
    · rcases Nat.lt_or_ge i 2 with early | late
      · obtain rfl : i = 1 := by omega
        obtain rfl : Outcome.readError (.transient "timeout") = o := Option.some.inj here
        cases decisive
      · exact late
  obtain ⟨o, here, -, stop, attempts, phase, -⟩ :=
    (round_outcome schedule [] entered fed).1 2 least (by decide)
  obtain rfl : Outcome.ready ⟨#v[0, 0, 1, 0, 0, 0, 0, 0]⟩ = o := Option.some.inj here
  exact ⟨entered, least, by decide, stop, attempts, phase⟩

end Machine

end SealedTree.Poll
