import SealedTree.Proofs.Poll.Course

/-!
A task from its start on. Whatever the node answers, however the jitter falls and whenever callers
ask for a retry, the task and its machine agree at all times.
-/

namespace SealedTree.Poll

/-- A task as it is when a search begins, with what its machine has been told by then and the first
sleep that it asks for. -/
inductive Task.Started (s : Schedule) (tx : TransactionId) : Task → List Event → Duration → Prop
  | submit {t : Task} : Task.submit s (.ok tx) = .ok t →
      Started s tx t [.beginSubmit, .submitted tx] s.initialDelay
  | watch {t : Task} : Task.watch s tx = .ok t → Started s tx t [.track tx] 0

/-- How a desk stands after some moves: `told` is all that the machine has heard, `done` all that
the task has done. -/
structure Desk.Follows (s : Schedule) (tx : TransactionId) (first : Duration) (told : List Event)
    (done : List Act) (d : Desk) : Prop where
  machine : d.task.machine = (Machine.new s).after told
  /-- Nothing is done but what the machine asks for, in its order. -/
  log : done ++ d.task.stage.owed = .sleep first :: .query :: (Machine.new s).log told
  pace : Alternates (done.filter Act.isPace)
  published : d.published = d.task.machine.status
  leaves (m : Move) : d.published.isTerminal = true → (d.move m).1.published ≠ d.published →
    (d.move m).1.published = .pending ∧ .accept ∈ (d.move m).2
  final (c : Classification) : d.published = .resolved c → ∀ moves,
    (d.run moves).2 = [] ∧ (d.run moves).1.published = .resolved c
  /-- When a command is taken, it is one that the machine can follow. -/
  retryable (caller : Nat) (rest : List Nat) : d.task.stage = .idle → d.queue = caller :: rest →
    (d.task.machine.phase = .exhausted ∨ ∃ reason, d.task.machine.phase = .failed reason) ∧
      d.task.machine.tx = some tx ∧ ∃ m, d.task.machine.manualRetry = .ok (m, .wait 0)
  unrefused (e : ClientError) : .refuse e ∉ done
  accepts (m : Move) : .accept ∈ (d.move m).2 →
    m = .take ∧ (d.move m).2 = [.publish .pending, .accept, .sleep 0]
  /-- After the reply a status other than pending is one that the new round came to. -/
  fresh (caller : Nat) (m : Move) : d.callers caller ≠ .replied (.ok ()) →
    (d.move m).1.callers caller = .replied (.ok ()) → ∀ moves,
      .query ∉ ((d.move m).1.run moves).2 → ((d.move m).1.run moves).1.published = .pending

variable {s : Schedule} {tx : TransactionId} {t : Task} {opening : List Event} {first : Duration}

theorem Task.Started.launched (h : t.Started s tx opening first) :
    t.machine = (Machine.new s).after opening ∧ (Machine.new s).log opening = [] ∧
      t.stage = .launching first ∧ t.tx = tx ∧ t.machine.tx = some tx ∧
      t.machine.phase.isPolling = true := by
  cases h with
  | submit started =>
      have launched : Task.submit s (.ok tx) =
          .ok (launch tx ((Machine.new s).after [.beginSubmit, .submitted tx])
            (.wait s.initialDelay)) := rfl
      rw [launched] at started
      cases started
      exact ⟨rfl, rfl, rfl, rfl, rfl, rfl⟩
  | watch started =>
      have launched : Task.watch s tx =
          .ok (launch tx ((Machine.new s).after [.track tx]) (.wait 0)) := rfl
      rw [launched] at started
      cases started
      exact ⟨rfl, rfl, rfl, rfl, rfl, rfl⟩

theorem Task.Started.orderly (h : t.Started s tx opening first) : (Desk.ofTask t).Orderly := by
  obtain ⟨machine, -, stage, owner, tracked, polling⟩ := h.launched
  refine ⟨⟨?_, ?_, ?_⟩, rfl, by simp [Desk.ofTask], List.nodup_nil, fun _ => rfl⟩
  · rw [Desk.ofTask, machine]
    exact Machine.consistent_after (Machine.consistent_new s) opening
  · exact tracked.trans (congrArg some owner.symm)
  · rw [Desk.ofTask, stage]
    exact polling

namespace Desk

variable {d : Desk}

theorem Orderly.retryable (h : d.Orderly) (idle : d.task.stage = .idle) :
    (d.task.machine.phase = .exhausted ∨ ∃ reason, d.task.machine.phase = .failed reason) ∧
      d.task.machine.tx = some d.task.tx ∧
      ∃ m, d.task.machine.manualRetry = .ok (m, .wait 0) := by
  have fits := h.inStep.fits
  rw [idle, Stage.Fits] at fits
  refine ⟨?_, h.inStep.tracked, _, h.inStep.manualRetry idle⟩
  cases phase : d.task.machine.phase with
  | exhausted => exact .inl rfl
  | failed reason => exact .inr ⟨reason, rfl⟩
  | idle | submitting | awaitingFirstPoll | polling | resolved _ =>
      rw [phase] at fits
      cases fits

theorem Orderly.fresh (h : d.Orderly) {caller : Nat} {m : Move}
    (before : d.callers caller ≠ .replied (.ok ()))
    (after : (d.move m).1.callers caller = .replied (.ok ())) (moves : List Move)
    (unasked : .query ∉ ((d.move m).1.run moves).2) :
    ((d.move m).1.run moves).1.published = .pending := by
  have turn := turn_move h m
  obtain ⟨-, -, sleeping, pending⟩ := turn.of_accept (turn.of_replied before after)
  exact (published_run_of_sleeping (orderly_move h m) sleeping moves unasked).trans pending

end Desk

/-- A task follows its machine, which hears what was read for the transaction and the retries that
are accepted. -/
theorem driver_follows_machine (started : t.Started s tx opening first) (moves : List Desk.Move) :
    ((Desk.ofTask t).run moves).1.Follows s tx first
        (opening ++ (Desk.ofTask t).history moves) ((Desk.ofTask t).run moves).2 ∧
      ∀ e ∈ (Desk.ofTask t).history moves,
        e = .manualRetry ∨ ∃ answer jitter, e = .record (.ofAnswer answer tx) jitter := by
  obtain ⟨machine, silent, stage, owner, -, -⟩ := started.launched
  have orderly := Desk.orderly_run started.orderly moves
  have log : ((Desk.ofTask t).run moves).2 ++ ((Desk.ofTask t).run moves).1.task.stage.owed =
      .sleep first :: .query ::
        (Machine.new s).log (opening ++ (Desk.ofTask t).history moves) := by
    rw [Desk.acts_run started.orderly, Machine.log_append, silent, ← machine, Desk.ofTask, stage]
    rfl
  refine ⟨⟨?_, log, Machine.alternates_of_log log, orderly.published, fun m => ?_,
    fun c resolved more => ?_, fun _ _ idle _ => ?_, Desk.not_refuse_run started.orderly moves,
    fun m accepted => ?_, fun _ _ => orderly.fresh⟩, fun e heard => ?_⟩
  · rw [Machine.after_append, ← machine]
    exact Desk.machine_run started.orderly moves
  · exact (Desk.turn_move orderly m).of_terminal orderly
  · obtain ⟨nothing, -, same⟩ :=
      Desk.run_of_ended orderly (orderly.stage_of_resolved resolved) more
    exact ⟨nothing, same.trans resolved⟩
  · rw [← owner, ← show (Desk.ofTask t).task.tx = t.tx from rfl, ← Desk.tx_run _ moves]
    exact orderly.retryable idle
  · obtain ⟨taken, whole, -⟩ := (Desk.turn_move orderly m).of_accept accepted
    exact ⟨taken, whole⟩
  · rw [← owner]
    exact Desk.mem_history heard

/-- The only attempt finds nothing; after a retry the next one finds the result. -/
theorem driver_follows_machine_retried :
    let s : Schedule := { maxRetries := 1 }
    let tx : TransactionId := ⟨"7f"⟩
    let opening : List Event := [.beginSubmit, .submitted tx]
    let t := Task.launch tx ((Machine.new s).after opening) (.wait s.initialDelay)
    let found : Snapshot := [⟨4, some tx, some (List.replicate 34 0 ++ 1 :: List.replicate 5 0)⟩]
    let moves : List Desk.Move :=
      [.task .go, .task .woke, .task (.answered (.ok []) 0), .look 3, .queue 3, .take,
        .task .woke, .task (.answered (.ok found) 0)]
    t.Started s tx opening s.initialDelay ∧
      ((Desk.ofTask t).run (moves.take 3)).1.published = .exhausted ∧
      ((Desk.ofTask t).run moves).1.published = .resolved (.label .influencer) ∧
      ((Desk.ofTask t).run moves).1.Follows s tx s.initialDelay
        (opening ++ (Desk.ofTask t).history moves) ((Desk.ofTask t).run moves).2 := by
  intro s tx opening t found moves
  have started : t.Started s tx opening s.initialDelay := .submit rfl
  exact ⟨started, by decide +kernel, by decide +kernel, (driver_follows_machine started moves).1⟩

end SealedTree.Poll
