import SealedTree.Proofs.Poll.Turn

/-!
The course of a search. A task does what its machine asks for and nothing else: whatever the callers
do and however the moves are mixed, what was done is the log of a machine that was told the same
outcomes and retries, up to what the task has not come to yet.
-/

namespace SealedTree.Poll

/-- Sleeps and queries. -/
def Act.isPace : Act → Bool
  | .sleep _ | .query => true
  | .publish _ | .accept | .refuse _ => false

/-- A sleep comes first, and then a query and a sleep by turns. -/
def Alternates (acts : List Act) : Prop :=
  ∀ (i : Nat) (a : Act), acts[i]? = some a → (a = .query ↔ i % 2 = 1)

/-- A step asks for a sleep and a query after it, or for nothing. -/
def Step.acts : Step → List Act
  | .wait delay => [.sleep delay, .query]
  | .stop => []

/-- What the last step asks for and was not done yet. -/
def Stage.owed : Stage → List Act
  | .launching delay => (Step.wait delay).acts
  | .sleeping => [.query]
  | .querying | .idle | .ended => []

namespace Machine

/-- What is to be done when the machine has been told something. The new status is published before
a retry is answered, and both come before the next sleep. -/
def acts (m : Machine) : Event → List Act
  | .record o jitter => .publish (m.record o jitter).1.status :: (m.record o jitter).2.acts
  | .manualRetry =>
      match m.manualRetry with
      | .ok (m', step) => .publish m'.status :: .accept :: step.acts
      | .error e => [.refuse e]
  | .beginSubmit | .submitted _ | .submitFailed _ | .track _ => []

def log (m : Machine) : List Event → List Act
  | [] => []
  | e :: rest => m.acts e ++ (m.on e).log rest

theorem log_append (m : Machine) (xs ys : List Event) :
    m.log (xs ++ ys) = m.log xs ++ (m.after xs).log ys := by
  induction xs generalizing m with
  | nil => rfl
  | cons e rest ih => rw [List.cons_append, log, log, ih, List.append_assoc]; rfl

theorem after_append (m : Machine) (xs ys : List Event) :
    m.after (xs ++ ys) = (m.after xs).after ys := List.foldl_append

end Machine

theorem Alternates.of_append {xs ys : List Act} (h : Alternates (xs ++ ys)) : Alternates xs := by
  intro i a here
  have small : i < xs.length := (List.getElem?_eq_some_iff.mp here).1
  exact h i a (by rwa [List.getElem?_append_left small])

theorem Alternates.pair {rest : List Act} (h : Alternates rest) (delay : Duration) :
    Alternates (.sleep delay :: .query :: rest) := by
  intro i a here
  match i with
  | 0 =>
      obtain rfl : Act.sleep delay = a := Option.some.inj here
      simp
  | 1 =>
      obtain rfl : Act.query = a := Option.some.inj here
      simp
  | i + 2 =>
      rw [h i a here]
      omega

theorem Step.alternates_acts (step : Step) {rest : List Act} (h : Alternates rest) :
    Alternates (step.acts.filter Act.isPace ++ rest) := by
  cases step with
  | wait delay => exact h.pair delay
  | stop => exact h

theorem Machine.alternates_log (m : Machine) (history : List Event) :
    Alternates ((m.log history).filter Act.isPace) := by
  induction history generalizing m with
  | nil => simp [log, Alternates]
  | cons e rest ih =>
      rw [log, List.filter_append]
      cases e with
      | record o jitter => exact Step.alternates_acts _ (ih _)
      | manualRetry =>
          rw [acts]
          split
          · exact Step.alternates_acts _ (ih _)
          · exact ih _
      | beginSubmit | submitted _ | submitFailed _ | track _ => exact ih _

theorem Machine.alternates_of_log {m : Machine} {told : List Event} {first : Duration}
    {done owed : List Act} (h : done ++ owed = .sleep first :: .query :: m.log told) :
    Alternates (done.filter Act.isPace) := by
  have pace : done.filter Act.isPace ++ owed.filter Act.isPace =
      .sleep first :: .query :: (m.log told).filter Act.isPace := by
    rw [← List.filter_append, h]
    rfl
  have alternates := (m.alternates_log told).pair first
  rw [← pace] at alternates
  exact alternates.of_append

namespace Desk

def run (d : Desk) : List Move → Desk × List Act
  | [] => (d, [])
  | m :: rest => (((d.move m).1.run rest).1, (d.move m).2 ++ ((d.move m).1.run rest).2)

/-- What the machine hears in the course of some moves. -/
def history (d : Desk) : List Move → List Event
  | [] => []
  | m :: rest => (d.told m).toList ++ (d.move m).1.history rest

variable {d d' : Desk} {move : Move} {e : Option Event} {acts : List Act}

theorem orderly_run (h : d.Orderly) (moves : List Move) : (d.run moves).1.Orderly := by
  induction moves generalizing d with
  | nil => exact h
  | cons m rest ih => exact ih (orderly_move h m)

theorem tx_run (d : Desk) (moves : List Move) : (d.run moves).1.task.tx = d.task.tx := by
  induction moves generalizing d with
  | nil => rfl
  | cons m rest ih => exact (ih (d.move m).1).trans (d.tx_move m)

theorem Turn.machine_eq (turn : d.Turn move e d' acts) :
    d'.task.machine = d.task.machine.after e.toList := by
  cases turn with
  | passed | looked _ _ | refused _ _ | launched _ | woken _ => rfl
  | joined _ => rw [task_dismiss]; rfl
  | served _ _ => rfl
  | continued _ step | stopped _ step _ => exact (congrArg Prod.fst step).symm
  | resolved _ step _ => rw [task_dismiss]; exact (congrArg Prod.fst step).symm

/-- What a turn does and what it leaves to be done is what was left before and what the machine
asks for. -/
theorem Turn.acts_eq (h : d.Orderly) (turn : d.Turn move e d' acts) :
    acts ++ d'.task.stage.owed = d.task.stage.owed ++ d.task.machine.log e.toList := by
  cases turn with
  | passed | looked _ _ | refused _ _ => simp [Machine.log, reply, setCaller]
  | joined _ => simp [Machine.log, setCaller]
  | served stage _ =>
      have pending := Machine.status_of_polling (h.inStep.retried stage).fits
      simp [stage, Stage.owed, Machine.log, Machine.acts, h.inStep.manualRetry stage, pending,
        Step.acts, reply, setCaller]
  | launched stage => simp [stage, Stage.owed, Step.acts, Machine.log]
  | woken stage => simp [stage, Stage.owed, Machine.log]
  | @continued _ _ _ m stage step =>
      have pending : m.status = .pending :=
        Machine.status_of_polling (by rw [Machine.phase_of_wait step]; rfl)
      simp [stage, Stage.owed, Machine.log, Machine.acts, step, Step.acts, pending]
  | stopped stage step _ => simp [stage, Stage.owed, Machine.log, Machine.acts, step, Step.acts]
  | resolved stage step phase =>
      simp [stage, Stage.owed, Machine.log, Machine.acts, step, Step.acts, Machine.status, phase]

theorem machine_run (h : d.Orderly) (moves : List Move) :
    (d.run moves).1.task.machine = d.task.machine.after (d.history moves) := by
  induction moves generalizing d with
  | nil => rfl
  | cons m rest ih =>
      rw [run, history, Machine.after_append, ← (turn_move h m).machine_eq]
      exact ih (orderly_move h m)

theorem acts_run (h : d.Orderly) (moves : List Move) :
    (d.run moves).2 ++ (d.run moves).1.task.stage.owed =
      d.task.stage.owed ++ d.task.machine.log (d.history moves) := by
  induction moves generalizing d with
  | nil => simp [run, history, Machine.log]
  | cons m rest ih =>
      rw [run, history, Machine.log_append, List.append_assoc, ih (orderly_move h m),
        ← List.append_assoc, (turn_move h m).acts_eq h, (turn_move h m).machine_eq,
        List.append_assoc]

theorem told_eq_some {m : Move} {x : Event} (h : d.told m = some x) :
    x = .manualRetry ∨ ∃ answer jitter, x = .record (.ofAnswer answer d.task.tx) jitter := by
  cases m with
  | look _ | queue _ => cases h
  | take =>
      simp only [told] at h
      split at h
      · exact .inl (Option.some.inj h).symm
      · cases h
  | task s =>
      cases s with
      | go | woke | command => cases h
      | answered answer jitter =>
          simp only [told] at h
          split at h
          · exact .inr ⟨answer, jitter, (Option.some.inj h).symm⟩
          · cases h

theorem mem_history {moves : List Move} {x : Event} (h : x ∈ d.history moves) :
    x = .manualRetry ∨ ∃ answer jitter, x = .record (.ofAnswer answer d.task.tx) jitter := by
  induction moves generalizing d with
  | nil => cases h
  | cons m rest ih =>
      rcases List.mem_append.mp h with now | later
      · exact told_eq_some (Option.mem_toList.mp now)
      · rw [← tx_move d m]
        exact ih later

theorem Turn.of_ended (turn : d.Turn move e d' acts) (ended : d.task.stage = .ended) :
    acts = [] ∧ d'.task = d.task ∧ d'.published = d.published := by
  cases turn with
  | passed | looked _ _ | refused _ _ => exact ⟨rfl, rfl, rfl⟩
  | joined _ => exact ⟨rfl, task_dismiss _, published_dismiss _⟩
  | served stage _ | launched stage | woken stage | continued stage _ | stopped stage _ _
  | resolved stage _ _ => simp [ended] at stage

theorem run_of_ended (h : d.Orderly) (ended : d.task.stage = .ended) (moves : List Move) :
    (d.run moves).2 = [] ∧ (d.run moves).1.task = d.task ∧
      (d.run moves).1.published = d.published := by
  induction moves generalizing d with
  | nil => exact ⟨rfl, rfl, rfl⟩
  | cons m rest ih =>
      obtain ⟨still, task, published⟩ := (turn_move h m).of_ended ended
      obtain ⟨nothing, same, status⟩ := ih (orderly_move h m) (by rw [task, ended])
      exact ⟨by rw [run, still, nothing]; rfl, same.trans task, status.trans published⟩

theorem Orderly.stage_of_resolved (h : d.Orderly) {c : Classification}
    (resolved : d.published = .resolved c) : d.task.stage = .ended := by
  have fits := h.inStep.fits
  rw [h.published] at resolved
  cases stage : d.task.stage with
  | ended => rfl
  | launching _ | sleeping | querying =>
      rw [stage] at fits
      rw [Machine.status_of_polling fits] at resolved
      cases resolved
  | idle =>
      rw [stage] at fits
      have retryable := d.task.machine.isRetryable_status
      rw [resolved, show d.task.machine.phase.isRetryable = true from fits] at retryable
      cases retryable

theorem Orderly.pending_of_querying (h : d.Orderly) (querying : d.task.stage = .querying) :
    d.published = .pending := by
  have fits := h.inStep.fits
  rw [querying] at fits
  rw [h.published, Machine.status_of_polling fits]

/-- Only an accepted retry takes a final status back. -/
theorem Turn.of_terminal (turn : d.Turn move e d' acts) (h : d.Orderly)
    (terminal : d.published.isTerminal = true) (changed : d'.published ≠ d.published) :
    d'.published = .pending ∧ .accept ∈ acts := by
  cases turn with
  | passed | looked _ _ | refused _ _ | launched _ | woken _ => exact absurd rfl changed
  | joined _ => exact absurd (published_dismiss _) changed
  | served _ _ => exact ⟨rfl, by simp⟩
  | continued stage _ | stopped stage _ _ | resolved stage _ _ =>
      rw [h.pending_of_querying stage] at terminal
      cases terminal

theorem Turn.of_accept (turn : d.Turn move e d' acts) (accepted : .accept ∈ acts) :
    move = .take ∧ acts = [.publish .pending, .accept, .sleep 0] ∧ d'.task.stage = .sleeping ∧
      d'.published = .pending := by
  cases turn with
  | served _ _ => exact ⟨rfl, rfl, rfl, rfl⟩
  | passed | looked _ _ | refused _ _ | joined _ | launched _ | woken _ | continued _ _
  | stopped _ _ _ | resolved _ _ _ => simp at accepted

theorem Turn.not_refuse (turn : d.Turn move e d' acts) (r : ClientError) : .refuse r ∉ acts := by
  cases turn <;> simp

theorem not_refuse_run (h : d.Orderly) (moves : List Move) (r : ClientError) :
    .refuse r ∉ (d.run moves).2 := by
  induction moves generalizing d with
  | nil => simp [run]
  | cons m rest ih =>
      rw [run, List.mem_append, not_or]
      exact ⟨(turn_move h m).not_refuse r, ih (orderly_move h m)⟩

/-- Whoever is told that the retry was accepted is told so by a turn that has begun a new round. -/
theorem Turn.of_replied (turn : d.Turn move e d' acts) {caller : Nat}
    (before : d.callers caller ≠ .replied (.ok ()))
    (after : d'.callers caller = .replied (.ok ())) : .accept ∈ acts := by
  cases turn with
  | served _ _ => simp
  | passed | launched _ | woken _ | continued _ _ | stopped _ _ _ => exact absurd after before
  | @looked other _ _ | @refused other _ _ =>
      by_cases here : caller = other
      · simp [reply, setCaller, here] at after
      · exact absurd (by simpa [reply, setCaller, here] using after) before
  | @joined other _ =>
      have replied := callers_of_dismiss after
      by_cases here : caller = other
      · simp [setCaller, here] at replied
      · exact absurd (by simpa [setCaller, here] using replied) before
  | resolved _ _ _ => exact absurd (callers_of_dismiss after) before

theorem Turn.of_sleeping (turn : d.Turn move e d' acts) (sleeping : d.task.stage = .sleeping)
    (unasked : .query ∉ acts) : d'.task.stage = .sleeping ∧ d'.published = d.published := by
  cases turn with
  | passed | looked _ _ | refused _ _ => exact ⟨sleeping, rfl⟩
  | joined _ => exact ⟨(congrArg Task.stage (task_dismiss _)).trans sleeping, published_dismiss _⟩
  | woken _ => simp at unasked
  | served stage _ | launched stage | continued stage _ | stopped stage _ _
  | resolved stage _ _ => simp [sleeping] at stage

theorem published_run_of_sleeping (h : d.Orderly) (sleeping : d.task.stage = .sleeping)
    (moves : List Move) (unasked : .query ∉ (d.run moves).2) :
    (d.run moves).1.published = d.published := by
  induction moves generalizing d with
  | nil => rfl
  | cons m rest ih =>
      rw [run, List.mem_append, not_or] at unasked
      obtain ⟨still, same⟩ := (turn_move h m).of_sleeping sleeping unasked.1
      exact (ih (orderly_move h m) still unasked.2).trans same

end Desk

end SealedTree.Poll
