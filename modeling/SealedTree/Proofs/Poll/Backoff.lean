import Mathlib.Data.List.Nodup
import SealedTree.Proofs.Doubles
import SealedTree.Proofs.Poll.Round

/-!
How the backoff moves. An event leaves it alone, puts it back to the floor, or lets it grow after a
wait of that length; a search that starts anew or that is resolved does the second, an attempt
after which the round goes on the third. The cap holds of every backoff. That a backoff does not
shrink when it grows, and so is never below the floor, is as true as the same is of its product
with a factor that is no less than one; of backoffs of less than three days it is.
-/

namespace SealedTree

namespace Schedule

/-- No backoff within the bounds has a smaller product. -/
def Grows (s : Schedule) : Prop :=
  ∀ factor, factor = s.pendingMultiplier ∨ factor = s.errorMultiplier →
    ∀ backoff product : Duration, s.floor ≤ backoff → backoff ≤ s.cap →
      backoff.times? factor = some product → backoff ≤ product

variable {s : Schedule} {backoff : Duration} {factor : Float}

theorem floor_le_cap (valid : s.validate = .ok ()) : s.floor ≤ s.cap :=
  Nat.mul_le_mul_right 1000000 (UInt64.le_iff_toNat_le.mp (validate_eq_ok.mp valid).1)

/-- Backoffs of less than three days have no smaller products. -/
theorem grows_of_short (valid : s.validate = .ok ()) (short : s.cap < 2 ^ 48) : s.Grows := by
  obtain ⟨-, -, pending, error⟩ := validate_eq_ok.mp valid
  rintro factor (rfl | rfl) backoff product - below multiplied
  · exact Doubles.le_of_times? (below.trans_lt short) pending multiplied
  · exact Doubles.le_of_times? (below.trans_lt short) error multiplied

theorem Grows.le_grown (grows : s.Grows)
    (own : factor = s.pendingMultiplier ∨ factor = s.errorMultiplier)
    (above : s.floor ≤ backoff) (below : backoff ≤ s.cap) (jitter : Duration) :
    backoff ≤ s.grown backoff factor jitter := by
  refine Nat.le_min.mpr ⟨Nat.le_add_right_of_le ?_, below⟩
  cases product : backoff.times? factor with
  | none => exact below
  | some product' => exact grows factor own backoff product' above below product

theorem grown_le (s : Schedule) (backoff : Duration) (factor : Float) (jitter : Duration) :
    s.grown backoff factor jitter ≤ (backoff.times? factor).getD s.cap + s.maxJitter :=
  calc
    s.grown backoff factor jitter ≤ (backoff.times? factor).getD s.cap + min jitter s.maxJitter :=
      Nat.min_le_left ..
    _ ≤ (backoff.times? factor).getD s.cap + s.maxJitter :=
      Nat.add_le_add_left (Nat.min_le_right ..) _

end Schedule

namespace Poll

theorem Outcome.multiplier_eq (o : Outcome) (s : Schedule) :
    o.multiplier s = s.pendingMultiplier ∨ o.multiplier s = s.errorMultiplier := by
  cases o with
  | ready _ | pending _ | malformed _ => exact .inl rfl
  | readError _ => exact .inr rfl

/-- No attempt has been made since the search was set up. -/
def Phase.isUntried : Phase → Bool
  | .idle | .submitting | .awaitingFirstPoll => true
  | _ => false

theorem Outcome.isUntried_verdict (o : Outcome) : o.verdict.isUntried = false := by
  cases o with
  | ready result => cases h : result.isOneHot <;> simp [verdict, h, Phase.isUntried]
  | pending _ | malformed _ | readError _ => rfl

namespace Machine

/-- The event starts a new round, or resolves the one that is under way. -/
def Restarts (m : Machine) : Event → Prop
  | .beginSubmit => ∃ m', m.beginSubmit = .ok m'
  | .track tx => ∃ reply, m.track tx = .ok reply
  | .manualRetry => ∃ reply, m.manualRetry = .ok reply
  | .record o jitter =>
      m.phase.isPolling = true ∧ ∃ c, (m.record o jitter).1.phase = .resolved c
  | _ => False

/-- The wait that the event is answered with, if it is an outcome. -/
def wait? (m : Machine) : Event → Option Duration
  | .record o jitter =>
      match (m.record o jitter).2 with
      | .wait delay => some delay
      | .stop => none
  | _ => none

/-- The waits between the attempts of the round that is under way. -/
def waits (m : Machine) : List Event → List Duration
  | [] => []
  | e :: rest =>
      if m.phase.isPolling then (m.wait? e).toList ++ (m.on e).waits rest else []

variable {m : Machine} {e : Event}

theorem backoff_of_restarts (restart : m.Restarts e) :
    (m.on e).backoff = m.schedule.floor := by
  cases e with
  | beginSubmit =>
      obtain ⟨m', accepted⟩ := restart
      rw [on, accepted, afterReply]
      rw [beginSubmit] at accepted
      split at accepted
      · cases accepted
      · cases accepted
        rfl
  | track tx =>
      obtain ⟨reply, accepted⟩ := restart
      rw [on, accepted]
      rw [track] at accepted
      split at accepted
      · cases accepted
      · cases accepted
        rfl
  | manualRetry =>
      obtain ⟨reply, accepted⟩ := restart
      rw [on, accepted]
      rw [manualRetry] at accepted
      split at accepted
      · cases accepted
        rfl
      · cases accepted
  | record o jitter =>
      obtain ⟨polling, c, resolved⟩ := restart
      by_cases stop : o.isDecisive = true ∨ m.OnLastAttempt
      · rw [record_of_stop polling stop] at resolved
        rw [on, record_of_stop polling stop]
        simp only at resolved
        simp only [Outcome.lastBackoff, resolved]
      · obtain ⟨undecided, early⟩ := not_or.mp stop
        rw [Bool.not_eq_true] at undecided
        rw [record_of_wait polling undecided early] at resolved
        cases resolved
  | submitted _ | submitFailed _ => cases restart

/-- How an event moves the backoff. -/
inductive Moves (m : Machine) (e : Event) : Prop
  | stays (quiet : m.wait? e = none) (same : (m.on e).backoff = m.backoff)
  | restarts (quiet : m.wait? e = none) (restart : m.Restarts e)
  | grows (o : Outcome) (jitter : Duration) (outcome : e = .record o jitter)
      (waited : m.wait? e = some m.backoff)
      (grown : (m.on e).backoff = m.schedule.grown m.backoff (o.multiplier m.schedule) jitter)

theorem moves_record (m : Machine) (o : Outcome) (jitter : Duration) :
    m.Moves (.record o jitter) := by
  cases polling : m.phase.isPolling with
  | false =>
      have ignored := record_of_not_polling polling o jitter
      exact .stays (by rw [wait?, ignored]) (by rw [on, ignored])
  | true =>
      by_cases stop : o.isDecisive = true ∨ m.OnLastAttempt
      · have stopped := record_of_stop polling stop jitter
        have quiet : m.wait? (.record o jitter) = none := by rw [wait?, stopped]
        cases verdict : o.verdict with
        | resolved c =>
            have resolved : (m.record o jitter).1.phase = .resolved c := by rw [stopped, verdict]
            exact .restarts quiet ⟨polling, c, resolved⟩
        | idle | submitting | awaitingFirstPoll | polling | failed _ | exhausted =>
            refine .stays quiet ?_
            rw [on, stopped]
            simp only [Outcome.lastBackoff, verdict]
      · obtain ⟨undecided, early⟩ := not_or.mp stop
        rw [Bool.not_eq_true] at undecided
        have waited := record_of_wait polling undecided early jitter
        exact .grows o jitter rfl (by rw [wait?, waited]) (by rw [on, waited])

theorem moves (m : Machine) (e : Event) : m.Moves e := by
  cases e with
  | beginSubmit =>
      cases reply : m.beginSubmit with
      | error refusal => exact .stays rfl (by rw [on, reply, afterReply])
      | ok m' => exact .restarts rfl ⟨m', reply⟩
  | submitted tx =>
      refine .stays rfl ?_
      rw [on_submitted]
      split <;> rfl
  | submitFailed cause =>
      refine .stays rfl ?_
      rw [on_submitFailed]
      split <;> rfl
  | track tx =>
      cases reply : m.track tx with
      | error refusal => exact .stays rfl (by rw [on, reply]; rfl)
      | ok accepted => exact .restarts rfl ⟨accepted, reply⟩
  | record o jitter => exact m.moves_record o jitter
  | manualRetry =>
      cases reply : m.manualRetry with
      | error refusal => exact .stays rfl (by rw [on, reply]; rfl)
      | ok accepted => exact .restarts rfl ⟨accepted, reply⟩

/-- A wait is as long as the backoff was, which then grows. -/
theorem grown_of_wait {o : Outcome} {jitter delay : Duration}
    (step : (m.record o jitter).2 = .wait delay) :
    delay = m.backoff ∧
      (m.record o jitter).1.backoff =
        m.schedule.grown m.backoff (o.multiplier m.schedule) jitter := by
  have waited : m.wait? (.record o jitter) = some delay := by rw [wait?, step]
  cases m.moves_record o jitter with
  | stays quiet _ | restarts quiet _ => rw [quiet] at waited; cases waited
  | grows _ _ same waited' grown =>
      cases same
      exact ⟨Option.some.inj (waited.symm.trans waited'), grown⟩

/-- In a round nothing starts another one, so what restarts there is a resolution. -/
theorem Restarts.ends (restart : m.Restarts e) (polling : m.phase.isPolling = true) :
    (m.on e).phase.isPolling = false := by
  cases phase : m.phase with
  | awaitingFirstPoll | polling =>
      cases e with
      | beginSubmit =>
          obtain ⟨m', accepted⟩ := restart
          simp [beginSubmit, phase, Phase.isActive, refuse] at accepted
      | track tx =>
          obtain ⟨reply, accepted⟩ := restart
          simp [track, phase, Phase.isActive, refuse] at accepted
      | manualRetry =>
          obtain ⟨reply, accepted⟩ := restart
          simp [manualRetry, phase, Phase.isRetryable, refuse] at accepted
      | record o jitter =>
          obtain ⟨-, c, resolved⟩ := restart
          rw [on, resolved]
          rfl
      | submitted _ | submitFailed _ => cases restart
  | idle | submitting | resolved _ | failed _ | exhausted =>
      rw [phase] at polling
      cases polling

/-- An attempt is not forgotten until the search starts anew. -/
theorem untried_on (untried : (m.on e).phase.isUntried = true) :
    m.Restarts e ∨ m.phase.isUntried = true ∧ (m.on e).backoff = m.backoff := by
  cases e with
  | beginSubmit =>
      cases reply : m.beginSubmit with
      | error refusal =>
          rw [on, reply, afterReply] at untried ⊢
          exact .inr ⟨untried, rfl⟩
      | ok m' => exact .inl ⟨m', reply⟩
  | submitted tx =>
      rw [on_submitted] at untried ⊢
      split
      · next submitting => exact .inr ⟨by rw [submitting]; rfl, rfl⟩
      · next other => exact .inr ⟨by rwa [if_neg other] at untried, rfl⟩
  | submitFailed cause =>
      rw [on_submitFailed] at untried ⊢
      split at untried
      · cases untried
      · next other => exact .inr ⟨untried, by rw [if_neg other]⟩
  | track tx =>
      rw [on_track] at untried ⊢
      split at untried
      · next active => exact .inr ⟨untried, by rw [if_pos active]⟩
      · cases untried
  | record o jitter =>
      rcases m.on_record o jitter with ⟨-, same⟩ | ⟨-, -, ended⟩ | ⟨-, -, -, waited⟩
      · rw [same] at untried ⊢
        exact .inr ⟨untried, rfl⟩
      · rw [ended] at untried
        rw [o.isUntried_verdict] at untried
        cases untried
      · rw [waited] at untried
        cases untried
  | manualRetry =>
      rw [on_manualRetry] at untried ⊢
      split at untried
      · cases untried
      · next refused => exact .inr ⟨untried, by rw [if_neg refused]⟩

/-- What holds of a machine and survives every event holds of every later machine. -/
theorem after_of_on {P : Machine → Prop} (survives : ∀ m e, P m → P (m.on e)) (h : P m)
    (events : List Event) : P (m.after events) := by
  induction events generalizing m with
  | nil => exact h
  | cons e rest ih => exact ih (survives m e h)

/-- The cap holds, and the floor is kept until there is an attempt. -/
structure Capped (m : Machine) : Prop where
  ordered : m.schedule.floor ≤ m.schedule.cap
  le_cap : m.backoff ≤ m.schedule.cap
  untried : m.phase.isUntried = true → m.backoff = m.schedule.floor

theorem capped_new {s : Schedule} (valid : s.validate = .ok ()) : (new s).Capped :=
  ⟨Schedule.floor_le_cap valid, Schedule.floor_le_cap valid, fun _ => rfl⟩

theorem Capped.on (h : m.Capped) (e : Event) : (m.on e).Capped := by
  refine ⟨?_, ?_, fun untried => ?_⟩ <;> rw [schedule_on]
  · exact h.ordered
  · cases m.moves e with
    | stays _ same => exact same ▸ h.le_cap
    | restarts _ restart => exact backoff_of_restarts restart ▸ h.ordered
    | grows o jitter _ _ grown => exact grown ▸ m.schedule.grown_le_cap ..
  · rcases untried_on untried with restart | ⟨before, same⟩
    · exact backoff_of_restarts restart
    · exact same.trans (h.untried before)

theorem Enters.exists_on {m' : Machine} (h : m.Enters m') :
    ∃ e, m' = m.on e ∧ (m.Restarts e ∨ (m.on e).phase.isUntried = true) := by
  cases h with
  | @submitted tx step accepted =>
      refine ⟨.submitted tx, by rw [Machine.on, accepted]; rfl, .inr ?_⟩
      rw [Machine.submitted] at accepted
      split at accepted
      · next submitting => rw [on_submitted, if_pos submitting]; rfl
      · cases accepted
  | @track tx step accepted =>
      exact ⟨.track tx, by rw [Machine.on, accepted]; rfl, .inl ⟨_, accepted⟩⟩
  | manualRetry accepted =>
      exact ⟨.manualRetry, by rw [Machine.on, accepted]; rfl, .inl ⟨_, accepted⟩⟩

/-- A round begins with the floor. -/
theorem Enters.backoff {m' : Machine} (h : m.Enters m') (capped : m.Capped) :
    m'.backoff = m.schedule.floor := by
  obtain ⟨e, rfl, restart | untried⟩ := h.exists_on
  · exact backoff_of_restarts restart
  · rw [(capped.on e).untried untried, schedule_on]

theorem waits_of_not_polling (ended : m.phase.isPolling = false) (events : List Event) :
    m.waits events = [] := by
  cases events with
  | nil => rfl
  | cons e rest => rw [waits, ended, if_neg Bool.false_ne_true]

/-- The first wait of what is left of a round is the backoff. -/
theorem head_waits (events : List Event) : ∀ delay ∈ (m.waits events).head?, delay = m.backoff := by
  induction events generalizing m with
  | nil => simp [waits]
  | cons e rest ih =>
      rw [waits]
      split
      · next polling =>
          cases m.moves e with
          | stays quiet same =>
              rw [quiet, ← same]
              exact ih
          | restarts quiet restart =>
              rw [quiet, waits_of_not_polling (restart.ends polling)]
              simp
          | grows o jitter _ waited _ =>
              rw [waited]
              simp
      · simp

/-- Floor and cap hold, and no product is smaller than the backoff. -/
structure Growing (m : Machine) : Prop where
  capped : m.Capped
  grows : m.schedule.Grows
  floor_le : m.schedule.floor ≤ m.backoff

theorem Growing.le_grown (h : m.Growing) (o : Outcome) (jitter : Duration) :
    m.backoff ≤ m.schedule.grown m.backoff (o.multiplier m.schedule) jitter :=
  h.grows.le_grown (o.multiplier_eq _) h.floor_le h.capped.le_cap jitter

theorem Growing.on (h : m.Growing) (e : Event) : (m.on e).Growing := by
  refine ⟨h.capped.on e, ?_, ?_⟩ <;> rw [schedule_on]
  · exact h.grows
  · cases m.moves e with
    | stays _ same => exact same ▸ h.floor_le
    | restarts _ restart => exact Nat.le_of_eq (backoff_of_restarts restart).symm
    | grows o jitter _ _ grown => exact grown ▸ Nat.le_trans h.floor_le (h.le_grown o jitter)

/-- The waits of what is left of a round are in order, and none is shorter than the backoff. -/
theorem Growing.waits (h : m.Growing) (events : List Event) :
    (m.backoff :: m.waits events).Pairwise (· ≤ ·) := by
  induction events generalizing m with
  | nil => exact List.pairwise_singleton ..
  | cons e rest ih =>
      rw [Machine.waits]
      split
      · next polling =>
          cases m.moves e with
          | stays quiet same =>
              rw [quiet, ← same]
              exact ih (h.on e)
          | restarts quiet restart =>
              rw [quiet, waits_of_not_polling (restart.ends polling)]
              exact List.pairwise_singleton ..
          | grows o jitter _ waited grown =>
              have step : m.backoff ≤ (m.on e).backoff := grown ▸ h.le_grown o jitter
              obtain ⟨longer, ordered⟩ := List.pairwise_cons.mp (ih (h.on e))
              have later : ∀ delay ∈ (m.on e).waits rest, m.backoff ≤ delay :=
                fun delay inside => Nat.le_trans step (longer delay inside)
              rw [waited]
              exact .cons (List.forall_mem_cons.mpr ⟨Nat.le_refl _, later⟩) (.cons later ordered)
      · exact List.pairwise_singleton ..

/-- Only a search that starts anew or is resolved puts a backoff down. -/
theorem Growing.restarts (h : m.Growing) (less : (m.on e).backoff < m.backoff) :
    m.Restarts e := by
  cases m.moves e with
  | stays _ same => exact absurd same (Nat.ne_of_lt less)
  | restarts _ restart => exact restart
  | grows o jitter _ _ grown => exact absurd (grown ▸ h.le_grown o jitter) (Nat.not_le_of_lt less)

/-- A backoff is between floor and cap, grows by its factor and a jitter within bounds, and does
not shrink in a round. -/
theorem backoff_course (s : Schedule) (valid : s.validate = .ok ()) (history : List Event) :
    let m := (new s).after history
    m.backoff ≤ s.cap ∧
      (∀ o jitter delay, (m.record o jitter).2 = .wait delay →
        delay ≤ s.cap ∧ delay = m.backoff ∧
          (m.record o jitter).1.backoff ≤
            (delay.times? (o.multiplier s)).getD s.cap + s.maxJitter) ∧
      (∀ e, m.Restarts e → (m.on e).backoff = s.floor) ∧
      (∀ m', m.Enters m' → ∀ events, ∀ delay ∈ (m'.waits events).head?, delay = s.floor) ∧
      (s.Grows →
        s.floor ≤ m.backoff ∧
        (∀ o jitter delay, (m.record o jitter).2 = .wait delay →
          delay ≤ (m.record o jitter).1.backoff) ∧
        (∀ m', m.Enters m' → ∀ events, (m'.waits events).Pairwise (· ≤ ·)) ∧
        ∀ e, (m.on e).backoff < m.backoff → m.Restarts e) := by
  intro m
  have schedule : m.schedule = s := schedule_after (new s) history
  have capped : m.Capped := after_of_on (fun _ e h => h.on e) (capped_new valid) history
  refine ⟨schedule ▸ capped.le_cap, ?_, ?_, ?_, fun grows => ⟨?_, ?_, ?_, ?_⟩⟩
  · intro o jitter delay step
    obtain ⟨rfl, grown⟩ := grown_of_wait step
    rw [grown, schedule]
    exact ⟨schedule ▸ capped.le_cap, rfl, s.grown_le ..⟩
  · intro e restart
    rw [backoff_of_restarts restart, schedule]
  · intro m' entered events delay first
    rw [head_waits events delay first, entered.backoff capped, schedule]
  all_goals
    have growing : m.Growing :=
      after_of_on (fun _ e h => h.on e)
        ⟨capped_new valid, grows, Nat.le_refl _⟩ history
  · exact schedule ▸ growing.floor_le
  · intro o jitter delay step
    obtain ⟨rfl, grown⟩ := grown_of_wait step
    exact grown ▸ growing.le_grown o jitter
  · intro m' entered events
    obtain ⟨e, rfl, -⟩ := entered.exists_on
    exact ((growing.on e).waits events).of_cons
  · exact fun e => growing.restarts

theorem backoff_course_usual :
    let s : Schedule := {}
    let m : Machine := { (new s).reset with tx := some ⟨"7f"⟩, phase := .polling }
    let events : List Event :=
      [.record (.pending .processing) 5, .record (.readError (.transient "timeout")) 0,
        .record (.pending .processing) 2000000000, .manualRetry]
    s.validate = .ok () ∧ s.Grows ∧ (new s).Enters m ∧
      m.waits events = [3000000000, 4500000005, 9000000010] ∧
      (m.waits events).Pairwise (· ≤ ·) := by
  intro s m events
  have valid : s.validate = .ok () := by decide +kernel
  have grows : s.Grows := Schedule.grows_of_short valid (by decide)
  have tracked : (new s).track ⟨"7f"⟩ = .ok (m, .wait 0) := rfl
  have ordered := ((backoff_course s valid []).2.2.2.2 grows).2.2.1 m (.track tracked) events
  exact ⟨valid, grows, .track tracked, by decide +kernel, ordered⟩

end Machine

end Poll

end SealedTree
