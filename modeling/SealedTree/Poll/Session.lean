import SealedTree.Poll.Desk

/-!
Running a task to where it stops by itself, when sleeping takes no time and the answers to its
queries are known beforehand.
-/

namespace SealedTree.Poll

/-- The answers to the queries by their number; a query without one never ends. -/
abbrev Answers := Nat → Option (Except NetworkError Snapshot)

/-- A desk with a record of what its task has done. Others may query too; `asked` is the number of
the task's own last query. -/
structure Session where
  desk : Desk
  queries : Nat := 0
  asked : Nat := 0
  sleeps : List Duration := []

namespace Session

def ofTask (t : Task) : Session := { desk := .ofTask t }

def tx (s : Session) : TransactionId := s.desk.task.tx

def status (s : Session) : Status := s.desk.published

def note (s : Session) : Act → Session
  | .sleep delay => { s with sleeps := s.sleeps ++ [delay] }
  | .query => { s with queries := s.queries + 1, asked := s.queries }
  | _ => s

def move (s : Session) (m : Desk.Move) : Session :=
  let (desk, acts) := s.desk.move m
  acts.foldl note { s with desk := desk }

/-- The next signal for the task, if one comes by itself. -/
def next? (s : Session) (answers : Answers) (jitter : Duration) : Option Signal :=
  match s.desk.task.stage with
  | .launching _ => some .go
  | .sleeping => some .woke
  | .querying => (answers s.asked).map (.answered · jitter)
  | .idle | .ended => none

def settleWithin (answers : Answers) (jitter : Duration) : (fuel : Nat) → Session → Session
  | 0, s => s
  | fuel + 1, s =>
      match s.next? answers jitter with
      | some signal => settleWithin answers jitter fuel (s.move (.task signal))
      | none => s

/-- Lets the task run as far as it can. An attempt takes two signals, and a round has no more than
the allowed number of attempts. -/
def settle (s : Session) (answers : Answers) (jitter : Duration) : Session :=
  settleWithin answers jitter (2 * s.desk.task.machine.schedule.maxRetries.toNat + 4) s

/-- One caller asks for a retry while no other does. -/
def retry (s : Session) : Session × Except ClientError Unit :=
  let s := ((s.move (.look 0)).move (.queue 0)).move .take
  match s.desk.callers 0 with
  | .replied r => (s, r)
  | _ => (s, .error .taskGone)

end Session

end SealedTree.Poll
