import SealedTree.Poll.Session
import SealedTree.Proofs.Poll.Driver
import SealedTree.Proofs.Poll.Refusal

/-!
A search that is asked by one caller at a time. Between two such requests nobody waits at its desk
and its task goes on by itself, so whether a retry is accepted depends on the published status
alone: if that may be retried the task is idle and takes the command at once.
-/

namespace SealedTree.Poll

namespace Status

variable {s : Status}

end Status

namespace Desk

variable {d d' : Desk} {e : Option Event} {acts : List Act}

theorem Orderly.idle_of_retryable (h : d.Orderly) (retryable : d.published.isRetryable = true) :
    d.task.stage = .idle := by
  have fits := h.inStep.fits
  rw [h.published, Machine.isRetryable_status] at retryable
  cases stage : d.task.stage with
  | idle => rfl
  | launching _ | sleeping | querying =>
      rw [stage, Stage.Fits, Phase.isPolling_iff] at fits
      rcases fits with phase | phase <;> rw [phase] at retryable <;> cases retryable
  | ended =>
      rw [stage] at fits
      obtain ⟨c, phase⟩ := fits
      rw [phase] at retryable
      cases retryable

/-- Where nobody waits, the task does not concern the callers. -/
theorem Turn.of_task {s : Signal} (turn : d.Turn (.task s) e d' acts) (empty : d.queue = []) :
    d'.queue = [] ∧ d'.callers = d.callers := by
  cases turn with
  | passed | launched _ | woken _ | continued _ _ | stopped _ _ _ => exact ⟨empty, rfl⟩
  | resolved _ _ _ =>
      rw [dismiss_of_ended rfl]
      simp [empty]

section Steps

variable {caller : Nat}

theorem look_of_away (looked : d.callers caller ≠ .looked) (queued : d.callers caller ≠ .queued) :
    (d.move (.look caller)).1 =
      if d.published.isRetryable then d.setCaller caller .looked
      else d.reply caller (.error (.invalidTransition "retry" d.published.name)) := by
  simp only [Desk.move]
  cases place : d.callers caller with
  | looked => exact absurd place looked
  | queued => exact absurd place queued
  | absent | replied _ => dsimp only; split <;> rfl

theorem queue_of_not_looked (h : d.callers caller ≠ .looked) :
    (d.move (.queue caller)).1 = d := by
  rw [Desk.move]
  cases place : d.callers caller with
  | looked => exact absurd place h
  | absent | queued | replied _ => rfl

theorem queue_of_looked (h : d.callers caller = .looked) (going : d.task.stage ≠ .ended) :
    (d.move (.queue caller)).1 =
      { d with queue := d.queue ++ [caller] }.setCaller caller .queued := by
  simp only [Desk.move, h]
  exact dismiss_of_not_ended going

theorem take_of_empty (empty : d.queue = []) : (d.move .take).1 = d := by
  rw [Desk.move, empty]
  cases d.task.stage <;> rfl

theorem take_of_idle (h : d.task.InStep) (idle : d.task.stage = .idle) {rest : List Nat}
    (queue : d.queue = caller :: rest) :
    (d.move .take).1 =
      { d with
          task := ⟨d.task.tx, d.task.machine.on .manualRetry, .sleeping⟩
          published := .pending, queue := rest }.reply caller (.ok ()) := by
  have turn := turn_take h
  rw [told, idle, queue] at turn
  generalize (d.move .take).1 = after, (d.move .take).2 = acts at turn ⊢
  cases turn with
  | served _ same =>
      obtain ⟨rfl, rfl⟩ := List.cons.inj (queue.symm.trans same)
      rfl

end Steps

/-- A caller who is alone at the desk is turned down by a status that may not be retried. -/
theorem refuses_of_final (looked : d.callers 0 ≠ .looked) (queued : d.callers 0 ≠ .queued)
    (empty : d.queue = []) (final : d.published.isRetryable = false) :
    (((d.move (.look 0)).1.move (.queue 0)).1.move .take).1 =
      d.reply 0 (.error (.invalidTransition "retry" d.published.name)) := by
  rw [look_of_away looked queued, final, if_neg Bool.false_ne_true, queue_of_not_looked,
    take_of_empty]
  · exact empty
  · simp [reply, setCaller]

/-- A caller who is alone at the desk is served at once by a task whose status may be retried. -/
theorem serves_of_retryable (h : d.Orderly) (looked : d.callers 0 ≠ .looked)
    (empty : d.queue = []) (retryable : d.published.isRetryable = true) :
    (((d.move (.look 0)).1.move (.queue 0)).1.move .take).1 =
      { d with
          task := ⟨d.task.tx, d.task.machine.on .manualRetry, .sleeping⟩
          published := .pending }.reply 0 (.ok ()) := by
  have idle := h.idle_of_retryable retryable
  have queued : d.callers 0 ≠ .queued := by simp [← h.waiting, empty]
  have going : d.task.stage ≠ .ended := by simp [idle]
  let queueing := { d.setCaller 0 .looked with queue := [0] }.setCaller 0 .queued
  have joined : ((d.setCaller 0 .looked).move (.queue 0)).1 = queueing := by
    rw [queue_of_looked (d := d.setCaller 0 .looked) (if_pos rfl) going]
    simp only [setCaller, empty, List.nil_append, queueing]
  rw [look_of_away looked queued, if_pos retryable, joined,
    take_of_idle (d := queueing) h.inStep idle rfl]
  simp only [reply, setCaller, queueing, empty]
  congr 1
  funext i
  by_cases here : i = 0
  · rw [if_pos here, if_pos here]
  · simp only [if_neg here]

end Desk

namespace Session

@[simp] theorem desk_move (s : Session) (m : Desk.Move) : (s.move m).desk = (s.desk.move m).1 := by
  have noted (acts : List Act) (s : Session) : (acts.foldl note s).desk = s.desk := by
    induction acts generalizing s with
    | nil => rfl
    | cons a rest ih =>
        rw [List.foldl_cons, ih]
        cases a <;> rfl
  exact noted _ _

/-- Nobody is at the desk, and the task follows its machine under the schedule. -/
structure AtRest (schedule : Schedule) (s : Session) : Prop where
  orderly : s.desk.Orderly
  schedule : s.desk.task.machine.schedule = schedule
  empty : s.desk.queue = []
  away : s.desk.callers 0 ≠ .looked

variable {schedule : Schedule} {s : Session}

theorem atRest_of_started {tx : TransactionId} {t : Task} {opening : List Event} {first : Duration}
    (h : t.Started schedule tx opening first) : (ofTask t).AtRest schedule := by
  refine ⟨h.orderly, ?_, rfl, nofun⟩
  obtain ⟨machine, -⟩ := h.launched
  change t.machine.schedule = schedule
  rw [machine, Machine.schedule_after]
  rfl

theorem AtRest.signal (h : s.AtRest schedule) (x : Signal) :
    (s.move (.task x)).AtRest schedule := by
  have turn := Desk.turn_move h.orderly (.task x)
  obtain ⟨empty, callers⟩ := turn.of_task h.empty
  refine ⟨?_, ?_, ?_, ?_⟩
  · rw [desk_move]
    exact turn.orderly h.orderly
  · rw [desk_move, turn.machine_eq, Machine.schedule_after, h.schedule]
  · rw [desk_move, empty]
  · rw [desk_move, callers]
    exact h.away

theorem AtRest.not_queued (h : s.AtRest schedule) : s.desk.callers 0 ≠ .queued := by
  simp [← h.orderly.waiting, h.empty]

theorem retry_of_replied {d : Desk} {r : Except ClientError Unit}
    (served : (((s.desk.move (.look 0)).1.move (.queue 0)).1.move .take).1 = d.reply 0 r) :
    ∃ s' : Session, s.retry = (s', r) ∧ s'.desk = d.reply 0 r := by
  have replied : (d.reply 0 r).callers 0 = .replied r := by simp [Desk.reply, Desk.setCaller]
  refine ⟨((s.move (.look 0)).move (.queue 0)).move .take, ?_, by simpa using served⟩
  rw [retry]
  simp only [desk_move, served, replied]

theorem AtRest.retry_of_final (h : s.AtRest schedule) (final : s.status.isRetryable = false) :
    s.retry.2 = .error (.invalidTransition "retry" s.status.name) := by
  obtain ⟨s', refused, -⟩ :=
    retry_of_replied (Desk.refuses_of_final h.away h.not_queued h.empty final)
  rw [refused, status]

/-- The search of `s` in a new round: its first attempt comes without delay. -/
structure Renewed (schedule : Schedule) (s s' : Session) : Prop where
  atRest : s'.AtRest schedule
  status : s'.status = .pending
  task : s'.desk.task = ⟨s.tx, ⟨schedule, .polling, some s.tx, 0, schedule.floor⟩, .sleeping⟩

theorem AtRest.retry_of_retryable (h : s.AtRest schedule)
    (retryable : s.status.isRetryable = true) :
    ∃ s', s.retry = (s', .ok ()) ∧ s.Renewed schedule s' := by
  have served := Desk.serves_of_retryable h.orderly h.away h.empty retryable
  have orderly := Desk.orderly_move (Desk.orderly_move (Desk.orderly_move h.orderly (.look 0))
    (.queue 0)) .take
  have phase : s.desk.task.machine.phase.isRetryable = true := by
    rw [← Machine.isRetryable_status, ← h.orderly.published]
    exact retryable
  have machine : s.desk.task.machine.on .manualRetry =
      ⟨schedule, .polling, some s.tx, 0, schedule.floor⟩ := by
    have tracked := h.orderly.inStep.tracked
    rw [Machine.on_manualRetry, phase, tracked, Option.isSome_some, Bool.and_self, if_pos rfl,
      Machine.reset, tracked, h.schedule]
    rfl
  rw [machine] at served
  obtain ⟨s', accepted, desk⟩ := retry_of_replied served
  rw [served, ← desk] at orderly
  refine ⟨s', accepted, ⟨orderly, ?_, ?_, ?_⟩, ?_, ?_⟩
  · rw [desk]
    rfl
  · rw [desk]
    exact h.empty
  · rw [desk]
    exact nofun
  · rw [status, desk]
    rfl
  · rw [desk]
    rfl

theorem Renewed.tx_eq {s' : Session} (h : s.Renewed schedule s') : s'.tx = s.tx := by
  rw [tx, h.task]

/-- A retry that is accepted always renews the search. -/
theorem AtRest.renewed_of_retry (h : s.AtRest schedule) {s' : Session}
    (accepted : s.retry = (s', .ok ())) : s.status.isRetryable = true ∧ s.Renewed schedule s' := by
  cases retryable : s.status.isRetryable with
  | false =>
      have refused := h.retry_of_final retryable
      rw [accepted] at refused
      cases refused
  | true =>
      obtain ⟨s'', same, renewed⟩ := h.retry_of_retryable retryable
      rw [accepted] at same
      obtain ⟨rfl, -⟩ := Prod.mk.inj same
      exact ⟨rfl, renewed⟩

end Session
end SealedTree.Poll
