import SealedTree.Poll.Task

/-!
A task and those who ask it to retry. A caller looks at the published status; if that may be retried
it queues up with a command and waits for the reply, and does not look again before that. The queue
holds one command, those behind it wait for their place. The steps of the callers and of the task
may come in any order.
-/

namespace SealedTree.Poll

inductive Caller
  | absent
  /-- It has seen a status that may be retried. -/
  | looked
  | queued
  | replied (reply : Except ClientError Unit)

structure Desk where
  task : Task
  published : Status
  /-- The callers with a command, the first of them served next. -/
  queue : List Nat
  callers : Nat → Caller

inductive Desk.Move
  | look (caller : Nat)
  | queue (caller : Nat)
  | take
  | task (signal : Signal)

namespace Desk

def ofTask (t : Task) : Desk := ⟨t, t.machine.status, [], fun _ => .absent⟩

def setCaller (d : Desk) (caller : Nat) (c : Caller) : Desk :=
  { d with callers := fun i => if i = caller then c else d.callers i }

def reply (d : Desk) (caller : Nat) (r : Except ClientError Unit) : Desk :=
  d.setCaller caller (.replied r)

/-- What the task does, as far as it can be seen from here; `caller` is the one it serves. -/
def perform (caller : Option Nat) (d : Desk) : Act → Desk
  | .publish status => { d with published := status }
  | .accept => caller.elim d fun c => d.reply c (.ok ())
  | .refuse e => caller.elim d fun c => d.reply c (.error e)
  | .sleep _ | .query => d

/-- Whoever still waits when the task has ended is told so. -/
def dismiss (d : Desk) : Desk :=
  match d.task.stage with
  | .ended => { d.queue.foldl (fun d c => d.reply c (.error .taskGone)) d with queue := [] }
  | _ => d

def signal (d : Desk) (caller : Option Nat) (s : Signal) : Desk × List Act :=
  let (t, acts) := d.task.on s
  ((acts.foldl (perform caller) { d with task := t }).dismiss, acts)

def move (d : Desk) : Move → Desk × List Act
  | .look caller =>
      match d.callers caller with
      | .looked | .queued => (d, [])
      | .absent | .replied _ =>
          if d.published.isRetryable then (d.setCaller caller .looked, [])
          else (d.reply caller (.error (.invalidTransition "retry" d.published.name)), [])
  | .queue caller =>
      match d.callers caller with
      | .looked =>
          (({ d with queue := d.queue ++ [caller] }.setCaller caller .queued).dismiss, [])
      | _ => (d, [])
  | .take =>
      match d.task.stage, d.queue with
      | .idle, caller :: rest => { d with queue := rest }.signal (some caller) .command
      | _, _ => (d, [])
  | .task .command => (d, [])
  | .task s => d.signal none s

end Desk

end SealedTree.Poll
