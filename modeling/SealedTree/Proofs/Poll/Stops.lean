import Mathlib.Data.List.Basic
import SealedTree.Proofs.Poll.Driver

/-!
Stops and retries. A search stops when its machine may be retried, and each stop is used up by one
accepted retry. A command is not bound to the stop that its caller has seen: when another one was
faster it is kept for the next stop, and callers are served in the order in which they came.
-/

namespace SealedTree.Poll

/-- The search stops, and nothing is done before a retry is accepted. -/
def Act.isStop : Act → Bool
  | .publish status => status.isRetryable
  | .sleep _ | .query | .accept | .refuse _ => false

def Act.isAccept : Act → Bool
  | .accept => true
  | .publish _ | .sleep _ | .query | .refuse _ => false

/-- The stops that no retry has used up. -/
def Stage.unusedStops : Stage → Nat
  | .idle => 1
  | .launching _ | .sleeping | .querying | .ended => 0

/-- What may become of a caller by a move. Only who looks is told that the status is not one to be
retried; who has a command in the queue is served or left alone by a task that has ended. -/
inductive Desk.Goes (d d' : Desk) : Desk.Move → Nat → Caller → Caller → Prop
  | stays (m : Desk.Move) (c : Nat) (place : Caller) : d.Goes d' m c place place
  | looks {c : Nat} {place : Caller} : place ≠ .queued → d.published.isRetryable = true →
      d.Goes d' (.look c) c place .looked
  | refused {c : Nat} {place : Caller} : place ≠ .queued → d.published.isRetryable = false →
      d.Goes d' (.look c) c place (.replied (.error (.invalidTransition "retry" d.published.name)))
  | joins {c : Nat} : d.task.stage ≠ .ended → d.Goes d' (.queue c) c .looked .queued
  | late {c : Nat} : d.task.stage = .ended →
      d.Goes d' (.queue c) c .looked (.replied (.error .taskGone))
  | served {c : Nat} : d.task.stage = .idle → d.queue.head? = some c →
      d.Goes d' .take c .queued (.replied (.ok ()))
  | left {c : Nat} {answer : Except NetworkError Snapshot} {jitter : Duration} :
      d.task.stage = .querying → d'.task.stage = .ended →
      d.Goes d' (.task (.answered answer jitter)) c .queued (.replied (.error .taskGone))

namespace Desk

variable {d d' : Desk} {move : Move} {e : Option Event} {acts : List Act}

theorem Turn.stops_eq (turn : d.Turn move e d' acts) :
    acts.countP Act.isStop + d.task.stage.unusedStops =
      acts.countP Act.isAccept + d'.task.stage.unusedStops := by
  cases turn with
  | passed | looked _ _ | refused _ _ => rfl
  | joined _ => rw [task_dismiss]; rfl
  | served stage _ | launched stage | woken stage => rw [stage]; rfl
  | continued stage _ => rw [stage]; rfl
  | stopped stage _ retryable =>
      rw [← Machine.isRetryable_status] at retryable
      simp [stage, Act.isStop, Act.isAccept, Stage.unusedStops, retryable]
  | resolved stage _ _ => rw [task_dismiss, stage]; rfl

theorem stops_run (h : d.Orderly) (moves : List Move) :
    (d.run moves).2.countP Act.isStop + d.task.stage.unusedStops =
      (d.run moves).2.countP Act.isAccept + (d.run moves).1.task.stage.unusedStops := by
  induction moves generalizing d with
  | nil => rfl
  | cons m rest ih =>
      have first := (turn_move h m).stops_eq
      have others := ih (orderly_move h m)
      simp only [run, List.countP_append]
      omega

theorem Turn.of_idle (turn : d.Turn move e d' acts) (idle : d.task.stage = .idle)
    (unaccepted : .accept ∉ acts) : acts = [] ∧ d'.task = d.task ∧ d'.published = d.published := by
  cases turn with
  | passed | looked _ _ | refused _ _ => exact ⟨rfl, rfl, rfl⟩
  | joined _ => exact ⟨rfl, task_dismiss _, published_dismiss _⟩
  | served _ _ => simp at unaccepted
  | launched stage | woken stage | continued stage _ | stopped stage _ _
  | resolved stage _ _ => simp [idle] at stage

/-- A stop stands until a retry is accepted. -/
theorem run_of_idle (h : d.Orderly) (idle : d.task.stage = .idle) (moves : List Move)
    (unaccepted : .accept ∉ (d.run moves).2) :
    (d.run moves).2 = [] ∧ (d.run moves).1.task = d.task ∧
      (d.run moves).1.published = d.published := by
  induction moves generalizing d with
  | nil => exact ⟨rfl, rfl, rfl⟩
  | cons m rest ih =>
      rw [run, List.mem_append, not_or] at unaccepted
      obtain ⟨still, task, published⟩ := (turn_move h m).of_idle idle unaccepted.1
      obtain ⟨nothing, same, status⟩ := ih (orderly_move h m) (by rw [task, idle]) unaccepted.2
      exact ⟨by rw [run, still, nothing]; rfl, same.trans task, status.trans published⟩

theorem callers_setCaller (d : Desk) (caller c : Nat) (place : Caller) :
    (d.setCaller caller place).callers c = if c = caller then place else d.callers c := rfl

theorem Turn.goes (h : d.Orderly) (turn : d.Turn move e d' acts) (c : Nat) :
    d.Goes d' move c (d.callers c) (d'.callers c) := by
  cases turn with
  | passed | launched _ | woken _ | continued _ _ | stopped _ _ _ => exact .stays _ _ _
  | @looked caller away retryable =>
      rw [callers_setCaller]
      split
      · next here => subst here; exact .looks away retryable
      · exact .stays _ _ _
  | @refused caller away final =>
      rw [reply, callers_setCaller]
      split
      · next here => subst here; exact .refused away final
      · exact .stays _ _ _
  | @served caller rest idle queue =>
      rw [reply, callers_setCaller]
      split
      · next here =>
          subst here
          rw [(h.waiting c).mp (by simp [queue])]
          exact .served idle (by rw [queue]; rfl)
      · exact .stays _ _ _
  | @joined caller place =>
      have same : ({ d with queue := d.queue ++ [caller] }.setCaller caller .queued).task.stage =
          d.task.stage := rfl
      by_cases ended : d.task.stage = .ended
      · rw [dismiss_of_ended (same.trans ended)]
        simp only [h.emptied ended, List.nil_append, setCaller, List.mem_singleton]
        by_cases here : c = caller
        · subst here
          rw [if_pos rfl, place]
          exact .late ended
        · rw [if_neg here, if_neg here]
          exact .stays _ _ _
      · rw [dismiss_of_not_ended (same ▸ ended), callers_setCaller]
        split
        · next here =>
            subst here
            rw [place]
            exact .joins ended
        · exact .stays _ _ _
  | resolved querying _ _ =>
      rw [dismiss_of_ended rfl]
      by_cases here : c ∈ d.queue
      · rw [(h.waiting c).mp here]
        simp only [here, if_true]
        exact .left querying rfl
      · simp only [here, if_false]
        exact .stays _ _ _

/-- Who waits in the queue moves up by one place with each retry that is accepted, until it is
served itself or the search has its result. -/
theorem Turn.waits (h : d.Orderly) (turn : d.Turn move e d' acts) {c : Nat}
    (waiting : c ∈ d.queue) :
    (c ∈ d'.queue ∧ d'.queue.idxOf c + acts.countP Act.isAccept = d.queue.idxOf c) ∨
      (d.queue.idxOf c = 0 ∧ acts.countP Act.isAccept = 1) ∨ d'.task.stage = .ended := by
  cases turn with
  | passed | looked _ _ | refused _ _ | launched _ | woken _ | continued _ _ | stopped _ _ _ =>
      exact .inl ⟨waiting, rfl⟩
  | @joined caller _ =>
      have going : ({ d with queue := d.queue ++ [caller] }.setCaller caller .queued).task.stage ≠
          .ended := fun ended => by simp [h.emptied ended] at waiting
      rw [dismiss_of_not_ended going]
      exact .inl ⟨List.mem_append_left _ waiting, List.idxOf_append_of_mem waiting⟩
  | @served caller rest _ queue =>
      rw [queue] at waiting ⊢
      rcases List.mem_cons.mp waiting with here | behind
      · exact .inr (.inl ⟨by rw [here, List.idxOf_cons_self], rfl⟩)
      · have nodup := h.nodup
        rw [queue, List.nodup_cons] at nodup
        have other : caller ≠ c := fun same => nodup.1 (same ▸ behind)
        exact .inl ⟨behind, (List.idxOf_cons_ne rest other).symm⟩
  | resolved _ _ _ => exact .inr (.inr (by rw [task_dismiss]))

theorem waits_run (h : d.Orderly) {c : Nat} (waiting : c ∈ d.queue) (moves : List Move)
    (early : (d.run moves).2.countP Act.isAccept ≤ d.queue.idxOf c) :
    (d.run moves).1.task.stage = .ended ∨
      (c ∈ (d.run moves).1.queue ∧
        (d.run moves).1.queue.idxOf c + (d.run moves).2.countP Act.isAccept =
          d.queue.idxOf c) := by
  induction moves generalizing d with
  | nil => exact .inr ⟨waiting, rfl⟩
  | cons m rest ih =>
      simp only [run, List.countP_append] at early ⊢
      rcases (turn_move h m).waits h waiting with ⟨still, ahead⟩ | ⟨front, accepted⟩ | ended
      · rcases ih (orderly_move h m) still (by omega) with ended | ⟨there, place⟩
        · exact .inl ended
        · exact .inr ⟨there, by omega⟩
      · omega
      · obtain ⟨-, task, -⟩ := run_of_ended (orderly_move h m) ended rest
        exact .inl (by rw [task, ended])

end Desk

/-- Retries follow the stops of a search one by one, whoever asks for them and whenever. -/
theorem retries_follow_stops {s : Schedule} {tx : TransactionId} {t : Task} {opening : List Event}
    {first : Duration} (started : t.Started s tx opening first) (moves : List Desk.Move) :
    let d := ((Desk.ofTask t).run moves).1
    let done := ((Desk.ofTask t).run moves).2
    done.countP Act.isStop = done.countP Act.isAccept + d.task.stage.unusedStops ∧
      (∀ m c, d.Goes (d.move m).1 m c (d.callers c) ((d.move m).1.callers c)) ∧
      (d.task.stage = .idle → ∀ more, .accept ∉ (d.run more).2 →
        (d.run more).2 = [] ∧ (d.run more).1.published = d.published) ∧
      ∀ c ∈ d.queue, ∀ more, (d.run more).2.countP Act.isAccept ≤ d.queue.idxOf c →
        (d.run more).1.task.stage = .ended ∨
          (c ∈ (d.run more).1.queue ∧
            (d.run more).1.queue.idxOf c + (d.run more).2.countP Act.isAccept =
              d.queue.idxOf c) := by
  intro d done
  have orderly := Desk.orderly_run started.orderly moves
  obtain ⟨-, -, launching, -⟩ := started.launched
  refine ⟨?_, fun m c => (Desk.turn_move orderly m).goes orderly c, fun idle more unaccepted => ?_,
    fun c waiting more => Desk.waits_run orderly waiting more⟩
  · have stops := Desk.stops_run started.orderly moves
    rwa [show (Desk.ofTask t).task.stage = .launching first from launching] at stops
  · obtain ⟨nothing, -, same⟩ := Desk.run_of_idle orderly idle more unaccepted
    exact ⟨nothing, same⟩

/-- Two callers see the same stop and ask for a retry. The second command is kept while the first
one has its round: it begins another round after the next stop, or is left alone by the result. -/
theorem second_command_of_one_stop :
    let tx : TransactionId := ⟨"7f"⟩
    let t := Task.launch tx ((Machine.new { maxRetries := 1 }).after [.track tx]) (.wait 0)
    let found : Snapshot := [⟨4, some tx, some (List.replicate 34 0 ++ 1 :: List.replicate 5 0)⟩]
    let fruitless : List Desk.Move := [.task .woke, .task (.answered (.ok []) 0)]
    let seen := ((Desk.ofTask t).run (.task .go :: fruitless ++ [.look 0, .look 1])).1
    let retried := (seen.run [.queue 0, .queue 1, .take]).1
    seen.published = .exhausted ∧
      (retried.callers 0 matches .replied (.ok ())) ∧ (retried.callers 1 matches .queued) ∧
      ((retried.run (fruitless ++ [.take])).1.callers 1 matches .replied (.ok ())) ∧
      (retried.run (fruitless ++ [.take])).2.countP Act.isAccept = 1 ∧
      ((retried.run [.task .woke, .task (.answered (.ok found) 0)]).1.callers 1
        matches .replied (.error .taskGone)) := by
  intro tx t found fruitless seen retried
  exact ⟨by decide +kernel, by decide +kernel, by decide +kernel, by decide +kernel,
    by decide +kernel, by decide +kernel⟩

end SealedTree.Poll
