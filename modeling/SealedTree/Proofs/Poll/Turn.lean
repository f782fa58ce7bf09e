import SealedTree.Poll.Desk
import SealedTree.Proofs.Poll.Events

/-!
What a move at a desk comes to. A task keeps step with its machine: while it sleeps or asks, the
machine is polling; while it is idle, the machine may be retried; it has ended when the machine is
resolved. Where that holds every move is one of a few turns, and no turn breaks it, so it holds at
every desk that a task which was just started can come to.
-/

namespace SealedTree.Poll

namespace Machine

variable {m m' : Machine} {o : Outcome} {jitter delay : Duration}

theorem status_of_polling (h : m.phase.isPolling = true) : m.status = .pending := by
  rw [status]
  cases phase : m.phase <;> simp_all [Phase.isPolling]

theorem isRetryable_status (m : Machine) : m.status.isRetryable = m.phase.isRetryable := by
  rw [status]
  cases m.phase <;> rfl

theorem phase_of_wait (h : m.record o jitter = (m', .wait delay)) : m'.phase = .polling := by
  cases polling : m.phase.isPolling with
  | false =>
      rw [record_of_not_polling polling] at h
      cases h
  | true =>
      by_cases stop : o.isDecisive = true ∨ m.OnLastAttempt
      · rw [record_of_stop polling stop] at h
        cases h
      · obtain ⟨undecided, early⟩ := not_or.mp stop
        rw [record_of_wait polling (by simpa using undecided) early] at h
        cases h
        rfl

theorem phase_of_stop (polling : m.phase.isPolling = true)
    (h : m.record o jitter = (m', .stop)) : m'.phase = o.verdict := by
  by_cases stop : o.isDecisive = true ∨ m.OnLastAttempt
  · rw [record_of_stop polling stop] at h
    cases h
    rfl
  · obtain ⟨undecided, early⟩ := not_or.mp stop
    rw [record_of_wait polling (by simpa using undecided) early] at h
    cases h

theorem phase_of_manualRetry {step : Step} (h : m.manualRetry = .ok (m', step)) :
    m'.phase = .polling := by
  rw [manualRetry] at h
  split at h
  · cases h
    rfl
  · cases h

theorem manualRetry_of_retryable (retryable : m.phase.isRetryable = true)
    (tracked : m.tx.isSome = true) : m.manualRetry = .ok (m.on .manualRetry, .wait 0) := by
  rw [on_manualRetry, manualRetry, retryable, tracked]
  rfl

end Machine

theorem Outcome.isRetryable_verdict (o : Outcome) :
    o.verdict.isRetryable = true ∨ ∃ c, o.verdict = .resolved c := by
  cases o with
  | ready result => cases h : result.isOneHot <;> simp [verdict, h, Phase.isRetryable]
  | pending _ | malformed _ | readError _ => exact .inl rfl

/-- The stages that go with a phase of the machine. -/
def Stage.Fits (phase : Phase) : Stage → Prop
  | .launching _ | .sleeping | .querying => phase.isPolling = true
  | .idle => phase.isRetryable = true
  | .ended => ∃ c, phase = .resolved c

structure Task.InStep (t : Task) : Prop where
  consistent : t.machine.Consistent
  tracked : t.machine.tx = some t.tx
  fits : t.stage.Fits t.machine.phase

namespace Task

theorem follow_of_retryable {m : Machine} (h : m.phase.isRetryable = true) :
    follow m .stop = (.idle, []) := by
  rw [follow]
  cases phase : m.phase <;> simp_all [Phase.isRetryable]

theorem tx_on (t : Task) (s : Signal) : (t.on s).1.tx = t.tx := by
  cases s with
  | go | woke => simp only [on]; split <;> rfl
  | answered answer jitter => simp only [on]; split <;> rfl
  | command =>
      simp only [on]
      split
      · split <;> rfl
      · rfl

variable {t : Task}

theorem InStep.restaged (h : t.InStep) {stage : Stage} (fits : stage.Fits t.machine.phase) :
    InStep { t with stage } :=
  ⟨h.consistent, h.tracked, fits⟩

theorem InStep.recorded (h : t.InStep) {o : Outcome} {jitter : Duration} {m : Machine} {step : Step}
    (r : t.machine.record o jitter = (m, step)) {stage : Stage} (fits : stage.Fits m.phase) :
    InStep ⟨t.tx, m, stage⟩ := by
  have told : t.machine.on (.record o jitter) = m := congrArg Prod.fst r
  rw [← told] at fits ⊢
  exact ⟨Machine.consistent_on h.consistent _, (Machine.tx_on_record o jitter).trans h.tracked,
    fits⟩

theorem InStep.manualRetry (h : t.InStep) (idle : t.stage = .idle) :
    t.machine.manualRetry = .ok (t.machine.on .manualRetry, .wait 0) := by
  have retryable := h.fits
  rw [idle] at retryable
  exact Machine.manualRetry_of_retryable retryable (by rw [h.tracked, Option.isSome_some])

theorem InStep.retried (h : t.InStep) (idle : t.stage = .idle) :
    InStep ⟨t.tx, t.machine.on .manualRetry, .sleeping⟩ := by
  have polling : (t.machine.on .manualRetry).phase.isPolling = true := by
    rw [Machine.phase_of_manualRetry (h.manualRetry idle)]
    rfl
  exact ⟨Machine.consistent_on h.consistent .manualRetry,
    Machine.tx_on_manualRetry.trans h.tracked, polling⟩

end Task

namespace Desk

/-- What the machine hears of a move. -/
def told (d : Desk) : Move → Option Event
  | .take =>
      match d.task.stage, d.queue with
      | .idle, _ :: _ => some .manualRetry
      | _, _ => none
  | .task (.answered answer jitter) =>
      match d.task.stage with
      | .querying => some (.record (.ofAnswer answer d.task.tx) jitter)
      | _ => none
  | _ => none

/-- What a move comes to: what the machine hears, what becomes of the desk, and what is done. -/
inductive Turn (d : Desk) : Move → Option Event → Desk → List Act → Prop
  | passed (m : Move) : d.Turn m none d []
  | looked {caller : Nat} :
      d.callers caller ≠ .queued → d.published.isRetryable = true →
      d.Turn (.look caller) none (d.setCaller caller .looked) []
  | refused {caller : Nat} :
      d.callers caller ≠ .queued → d.published.isRetryable = false →
      d.Turn (.look caller) none
        (d.reply caller (.error (.invalidTransition "retry" d.published.name))) []
  | joined {caller : Nat} :
      d.callers caller = .looked →
      d.Turn (.queue caller) none
        ({ d with queue := d.queue ++ [caller] }.setCaller caller .queued).dismiss []
  | served {caller : Nat} {rest : List Nat} :
      d.task.stage = .idle → d.queue = caller :: rest →
      d.Turn .take (some .manualRetry)
        ({ d with
            task := ⟨d.task.tx, d.task.machine.on .manualRetry, .sleeping⟩
            published := .pending, queue := rest }.reply caller (.ok ()))
        [.publish .pending, .accept, .sleep 0]
  | launched {delay : Duration} :
      d.task.stage = .launching delay →
      d.Turn (.task .go) none { d with task := { d.task with stage := .sleeping } } [.sleep delay]
  | woken :
      d.task.stage = .sleeping →
      d.Turn (.task .woke) none { d with task := { d.task with stage := .querying } } [.query]
  | continued {answer : Except NetworkError Snapshot} {jitter delay : Duration} {m : Machine} :
      d.task.stage = .querying →
      d.task.machine.record (.ofAnswer answer d.task.tx) jitter = (m, .wait delay) →
      d.Turn (.task (.answered answer jitter))
        (some (.record (.ofAnswer answer d.task.tx) jitter))
        { d with task := ⟨d.task.tx, m, .sleeping⟩, published := .pending }
        [.publish .pending, .sleep delay]
  | stopped {answer : Except NetworkError Snapshot} {jitter : Duration} {m : Machine} :
      d.task.stage = .querying →
      d.task.machine.record (.ofAnswer answer d.task.tx) jitter = (m, .stop) →
      m.phase.isRetryable = true →
      d.Turn (.task (.answered answer jitter))
        (some (.record (.ofAnswer answer d.task.tx) jitter))
        { d with task := ⟨d.task.tx, m, .idle⟩, published := m.status } [.publish m.status]
  | resolved {answer : Except NetworkError Snapshot} {jitter : Duration} {m : Machine}
      {c : Classification} :
      d.task.stage = .querying →
      d.task.machine.record (.ofAnswer answer d.task.tx) jitter = (m, .stop) →
      m.phase = .resolved c →
      d.Turn (.task (.answered answer jitter))
        (some (.record (.ofAnswer answer d.task.tx) jitter))
        { d with task := ⟨d.task.tx, m, .ended⟩, published := .resolved c }.dismiss
        [.publish (.resolved c)]

variable {d d' : Desk} {move : Move} {e : Option Event} {acts : List Act}

theorem dismiss_of_not_ended (h : d.task.stage ≠ .ended) : d.dismiss = d := by
  rw [dismiss]
  split
  · next ended => exact absurd ended h
  · rfl

theorem foldl_reply (r : Except ClientError Unit) (queue : List Nat) (d : Desk) :
    queue.foldl (fun d c => d.reply c r) d =
      { d with callers := fun i => if i ∈ queue then .replied r else d.callers i } := by
  induction queue generalizing d with
  | nil => simp
  | cons c rest ih =>
      rw [List.foldl_cons, ih]
      simp only [reply, setCaller, List.mem_cons]
      congr 1
      funext i
      by_cases here : i = c <;> by_cases later : i ∈ rest <;> simp [here, later]

theorem dismiss_of_ended (h : d.task.stage = .ended) :
    d.dismiss =
      { d with
          queue := []
          callers := fun i =>
            if i ∈ d.queue then .replied (.error .taskGone) else d.callers i } := by
  rw [dismiss, h, foldl_reply]

@[simp] theorem task_dismiss (d : Desk) : d.dismiss.task = d.task := by
  by_cases h : d.task.stage = .ended
  · rw [dismiss_of_ended h]
  · rw [dismiss_of_not_ended h]

@[simp] theorem published_dismiss (d : Desk) : d.dismiss.published = d.published := by
  by_cases h : d.task.stage = .ended
  · rw [dismiss_of_ended h]
  · rw [dismiss_of_not_ended h]

theorem turn_look (d : Desk) (caller : Nat) :
    d.Turn (.look caller) none (d.move (.look caller)).1 (d.move (.look caller)).2 := by
  simp only [Desk.move]
  cases place : d.callers caller with
  | looked | queued => exact .passed _
  | absent | replied _ =>
      have away : d.callers caller ≠ .queued := by simp [place]
      cases retryable : d.published.isRetryable with
      | true => exact .looked away retryable
      | false => exact .refused away retryable

theorem turn_queue (d : Desk) (caller : Nat) :
    d.Turn (.queue caller) none (d.move (.queue caller)).1 (d.move (.queue caller)).2 := by
  simp only [Desk.move]
  cases place : d.callers caller with
  | looked => exact .joined place
  | absent | queued | replied _ => exact .passed _

theorem turn_take (h : d.task.InStep) :
    d.Turn .take (d.told .take) (d.move .take).1 (d.move .take).2 := by
  simp only [Desk.move, told]
  cases stage : d.task.stage with
  | launching _ | sleeping | querying | ended => exact .passed _
  | idle =>
      cases queue : d.queue with
      | nil => exact .passed _
      | cons caller rest =>
          have pending := Machine.status_of_polling (h.retried stage).fits
          have turn := Turn.served stage queue
          simpa [signal, Task.on, stage, h.manualRetry stage, Task.follow, perform, pending,
            dismiss, reply, setCaller] using turn

theorem signal_of_passed {s : Signal} (passed : d.task.on s = (d.task, []))
    (emptied : d.task.stage = .ended → d.queue = []) : d.signal none s = (d, []) := by
  simp only [signal, passed, List.foldl_nil]
  by_cases ended : d.task.stage = .ended
  · rw [dismiss_of_ended ended]
    cases d
    simp_all
  · rw [dismiss_of_not_ended ended]

theorem turn_go (emptied : d.task.stage = .ended → d.queue = []) :
    d.Turn (.task .go) none (d.move (.task .go)).1 (d.move (.task .go)).2 := by
  simp only [Desk.move]
  cases stage : d.task.stage with
  | launching delay =>
      have turn := Turn.launched stage
      simpa [signal, Task.on, stage, perform, dismiss] using turn
  | sleeping | querying | idle | ended =>
      rw [signal_of_passed (by simp [Task.on, stage]) emptied]
      exact .passed _

theorem turn_woke (emptied : d.task.stage = .ended → d.queue = []) :
    d.Turn (.task .woke) none (d.move (.task .woke)).1 (d.move (.task .woke)).2 := by
  simp only [Desk.move]
  cases stage : d.task.stage with
  | sleeping =>
      have turn := Turn.woken stage
      simpa [signal, Task.on, stage, perform, dismiss] using turn
  | launching _ | querying | idle | ended =>
      rw [signal_of_passed (by simp [Task.on, stage]) emptied]
      exact .passed _

theorem turn_answered (h : d.task.InStep) (emptied : d.task.stage = .ended → d.queue = [])
    (answer : Except NetworkError Snapshot) (jitter : Duration) :
    d.Turn (.task (.answered answer jitter)) (d.told (.task (.answered answer jitter)))
      (d.move (.task (.answered answer jitter))).1
      (d.move (.task (.answered answer jitter))).2 := by
  simp only [Desk.move, told]
  cases stage : d.task.stage with
  | launching _ | sleeping | idle | ended =>
      rw [signal_of_passed (by simp [Task.on, stage]) emptied]
      exact .passed _
  | querying =>
      have polling := h.fits
      rw [stage] at polling
      rcases step : d.task.machine.record (.ofAnswer answer d.task.tx) jitter with ⟨m, _ | _⟩
      · have turn := Turn.continued stage step
        have pending : m.status = .pending :=
          Machine.status_of_polling (by rw [Machine.phase_of_wait step]; rfl)
        simpa [signal, Task.on, stage, step, Task.follow, perform, dismiss, pending] using turn
      · have phase := Machine.phase_of_stop polling step
        rcases (Outcome.ofAnswer answer d.task.tx).isRetryable_verdict with
          retryable | ⟨c, resolved⟩
        · rw [← phase] at retryable
          have turn := Turn.stopped stage step retryable
          simpa [signal, Task.on, stage, step, Task.follow_of_retryable retryable, perform,
            dismiss] using turn
        · rw [← phase] at resolved
          have turn := Turn.resolved stage step resolved
          simpa [signal, Task.on, stage, step, Task.follow, resolved, perform, Machine.status]
            using turn

/-- A desk whose task keeps step with its machine, where those wait who are in the queue. -/
structure Orderly (d : Desk) : Prop where
  inStep : d.task.InStep
  published : d.published = d.task.machine.status
  waiting (caller : Nat) : caller ∈ d.queue ↔ d.callers caller = .queued
  nodup : d.queue.Nodup
  emptied : d.task.stage = .ended → d.queue = []

theorem callers_of_dismiss {caller : Nat} (h : d.dismiss.callers caller = .replied (.ok ())) :
    d.callers caller = .replied (.ok ()) := by
  by_cases ended : d.task.stage = .ended
  · rw [dismiss_of_ended ended] at h
    by_cases here : caller ∈ d.queue
    · simp [here] at h
    · simpa [here] using h
  · rwa [dismiss_of_not_ended ended] at h

@[simp] theorem task_perform (caller : Option Nat) (d : Desk) (a : Act) :
    (d.perform caller a).task = d.task := by
  cases a <;> cases caller <;> rfl

@[simp] theorem task_foldl_perform (caller : Option Nat) (acts : List Act) (d : Desk) :
    (acts.foldl (perform caller) d).task = d.task := by
  induction acts generalizing d with
  | nil => rfl
  | cons a rest ih => rw [List.foldl_cons, ih, task_perform]

@[simp] theorem task_signal (d : Desk) (caller : Option Nat) (s : Signal) :
    (d.signal caller s).1.task = (d.task.on s).1 := by
  simp [signal]

theorem tx_move (d : Desk) (m : Move) : (d.move m).1.task.tx = d.task.tx := by
  cases m with
  | look caller =>
      simp only [Desk.move]
      cases d.callers caller with
      | looked | queued => rfl
      | absent | replied _ => dsimp only; split <;> rfl
  | queue caller => simp only [Desk.move]; split <;> simp [setCaller]
  | take => simp only [Desk.move]; split <;> simp [Task.tx_on]
  | task s => cases s <;> simp [Desk.move, Task.tx_on]

/-- Every move is a turn. -/
theorem turn_move (h : d.Orderly) (m : Move) :
    d.Turn m (d.told m) (d.move m).1 (d.move m).2 := by
  cases m with
  | look caller => exact d.turn_look caller
  | queue caller => exact d.turn_queue caller
  | take => exact turn_take h.inStep
  | task s =>
      cases s with
      | go => exact turn_go h.emptied
      | woke => exact turn_woke h.emptied
      | answered answer jitter => exact turn_answered h.inStep h.emptied answer jitter
      | command => exact .passed _

/-- Nobody is left waiting at a task that has ended. -/
theorem orderly_dismiss (inStep : d.task.InStep) (published : d.published = d.task.machine.status)
    (waiting : ∀ caller, caller ∈ d.queue ↔ d.callers caller = .queued) (nodup : d.queue.Nodup) :
    d.dismiss.Orderly := by
  by_cases ended : d.task.stage = .ended
  · rw [dismiss_of_ended ended]
    refine ⟨inStep, published, fun i => ?_, List.nodup_nil, fun _ => rfl⟩
    by_cases here : i ∈ d.queue
    · simp [here]
    · simpa [here] using mt (waiting i).mpr here
  · rw [dismiss_of_not_ended ended]
    exact ⟨inStep, published, waiting, nodup, fun stage => absurd stage ended⟩

theorem Orderly.setCaller (h : d.Orderly) {caller : Nat} {c : Caller}
    (away : d.callers caller ≠ .queued) (stays : c ≠ .queued) : (d.setCaller caller c).Orderly where
  inStep := h.inStep
  published := h.published
  waiting i := by
    rw [Desk.setCaller]
    by_cases here : i = caller
    · simp [here, stays, h.waiting, away]
    · simpa [here] using h.waiting i
  nodup := h.nodup
  emptied := h.emptied

theorem Orderly.withTask (h : d.Orderly) {t : Task} {status : Status} (inStep : t.InStep)
    (published : status = t.machine.status) (going : t.stage ≠ .ended) :
    Orderly { d with task := t, published := status } :=
  ⟨inStep, published, h.waiting, h.nodup, fun stage => absurd stage going⟩

theorem Turn.orderly (h : d.Orderly) (turn : d.Turn move e d' acts) : d'.Orderly := by
  have inStep := h.inStep
  cases turn with
  | passed => exact h
  | looked away retryable => exact h.setCaller away (by simp)
  | refused away final => exact h.setCaller away (by simp)
  | @joined caller place =>
      have absent : caller ∉ d.queue := by simp [h.waiting, place]
      refine orderly_dismiss inStep h.published (fun i => ?_) ?_
      · by_cases here : i = caller
        · simp [Desk.setCaller, here]
        · simpa [Desk.setCaller, here] using h.waiting i
      · exact List.nodup_append.mpr ⟨h.nodup, by simp, by grind⟩
  | @served caller rest stage queue =>
      have inStep' := inStep.retried stage
      have pending := Machine.status_of_polling inStep'.fits
      have nodup := h.nodup
      rw [queue, List.nodup_cons] at nodup
      refine ⟨inStep', pending.symm, fun i => ?_, nodup.2, by simp [reply, Desk.setCaller]⟩
      have waiting := h.waiting i
      rw [queue, List.mem_cons] at waiting
      by_cases here : i = caller
      · simp [reply, Desk.setCaller, here, nodup.1]
      · simpa [reply, Desk.setCaller, here] using waiting
  | launched stage =>
      have polling := inStep.fits
      rw [stage] at polling
      exact h.withTask (inStep.restaged polling) h.published (by simp)
  | woken stage =>
      have polling := inStep.fits
      rw [stage] at polling
      exact h.withTask (inStep.restaged polling) h.published (by simp)
  | @continued _ _ _ m stage step =>
      have polling : m.phase.isPolling = true := by
        rw [Machine.phase_of_wait step]
        rfl
      exact h.withTask (inStep.recorded step polling) (Machine.status_of_polling polling).symm
        (by simp)
  | stopped stage step retryable =>
      exact h.withTask (inStep.recorded step retryable) rfl (by simp)
  | @resolved _ _ m c stage step phase =>
      have status : Status.resolved c = m.status := by rw [Machine.status, phase]
      exact orderly_dismiss (inStep.recorded step ⟨c, phase⟩) status h.waiting h.nodup

theorem orderly_move (h : d.Orderly) (m : Move) : (d.move m).1.Orderly :=
  (turn_move h m).orderly h

end Desk

end SealedTree.Poll
