import SealedTree.ClientError
import SealedTree.Poll.Outcome
import SealedTree.Poll.Status
import SealedTree.Schedule

/-!
The search for the result of one transaction, as a machine. It has no clock and reads nothing: what
happens is told to it, and it says how long to wait before the next attempt, or to stop.
-/

namespace SealedTree.Poll

inductive Phase
  | idle
  | submitting
  | awaitingFirstPoll
  | polling
  | resolved (classification : Classification)
  | failed (reason : String)
  | exhausted
  deriving DecidableEq

namespace Phase

def name : Phase → String
  | .idle => "idle"
  | .submitting => "submitting"
  | .awaitingFirstPoll => "awaiting first poll"
  | .polling => "polling"
  | .resolved _ => "resolved"
  | .failed _ => "failed"
  | .exhausted => "retries exhausted"

def isTerminal : Phase → Bool
  | .resolved _ | .failed _ | .exhausted => true
  | _ => false

def isActive : Phase → Bool
  | .submitting | .awaitingFirstPoll | .polling => true
  | _ => false

/-- Outcomes of attempts are expected. -/
def isPolling : Phase → Bool
  | .awaitingFirstPoll | .polling => true
  | _ => false

def isRetryable : Phase → Bool
  | .failed _ | .exhausted => true
  | _ => false

end Phase

inductive Step
  | wait (delay : Duration)
  | stop
  deriving DecidableEq

structure Machine where
  schedule : Schedule
  phase : Phase
  tx : Option TransactionId
  /-- The attempts since the last submission or retry. -/
  attempts : Nat
  /-- The wait after the next attempt that gives no result. -/
  backoff : Duration
  deriving DecidableEq

namespace Machine

def new (schedule : Schedule) : Machine := ⟨schedule, .idle, none, 0, schedule.floor⟩

def status (m : Machine) : Status :=
  match m.phase with
  | .resolved c => .resolved c
  | .exhausted => .exhausted
  | .failed reason => .fatal reason
  | _ => .pending

def reset (m : Machine) : Machine := { m with attempts := 0, backoff := m.schedule.floor }

def refuse (m : Machine) (event : String) : Except ClientError α :=
  .error (.invalidTransition event m.phase.name)

def beginSubmit (m : Machine) : Except ClientError Machine :=
  if m.phase.isActive then m.refuse "submit"
  else .ok { m.reset with tx := none, phase := .submitting }

def submitted (m : Machine) (tx : TransactionId) : Except ClientError (Machine × Step) :=
  if m.phase = .submitting then
    .ok ({ m with tx := some tx, phase := .awaitingFirstPoll }, .wait m.schedule.initialDelay)
  else m.refuse "accept a transaction"

/-- A submission is not tried again, for it may have been paid for. -/
def submitFailed (m : Machine) (e : NetworkError) : Machine × Step :=
  if m.phase = .submitting then
    ({ m with phase := .failed ("submission failed: " ++ e.message) }, .stop)
  else (m, .stop)

/-- Begins to search for a transaction that was submitted elsewhere. -/
def track (m : Machine) (tx : TransactionId) : Except ClientError (Machine × Step) :=
  if m.phase.isActive then m.refuse "track"
  else .ok ({ m.reset with tx := some tx, phase := .polling }, .wait 0)

def waitThenGrow (m : Machine) (multiplier : Float) (jitter : Duration) : Machine × Step :=
  ({ m with backoff := m.schedule.grown m.backoff multiplier jitter }, .wait m.backoff)

def atCeiling (m : Machine) : Bool := m.schedule.maxRetries.toNat ≤ m.attempts

/-- The outcome of an attempt that has been counted. -/
def conclude (m : Machine) (o : Outcome) (jitter : Duration) : Machine × Step :=
  match o with
  | .ready result =>
      if result.isOneHot then
        ({ m with phase := .resolved result.interpret, backoff := m.schedule.floor }, .stop)
      else if m.atCeiling then ({ m with phase := .exhausted }, .stop)
      else m.waitThenGrow m.schedule.pendingMultiplier jitter
  | .pending _ =>
      if m.atCeiling then ({ m with phase := .exhausted }, .stop)
      else m.waitThenGrow m.schedule.pendingMultiplier jitter
  | .malformed cause =>
      if m.atCeiling then
        ({ m with phase := .failed ("undecodable result: " ++ cause.message) }, .stop)
      else m.waitThenGrow m.schedule.pendingMultiplier jitter
  | .readError cause =>
      if !cause.isTransient || m.atCeiling then
        ({ m with phase := .failed cause.message }, .stop)
      else m.waitThenGrow m.schedule.errorMultiplier jitter

/-- Outcomes that come outside of a round are ignored. -/
def record (m : Machine) (o : Outcome) (jitter : Duration) : Machine × Step :=
  if m.phase.isPolling then
    { m with phase := .polling, attempts := m.attempts + 1 }.conclude o jitter
  else (m, .stop)

def manualRetry (m : Machine) : Except ClientError (Machine × Step) :=
  if m.phase.isRetryable && m.tx.isSome then
    .ok ({ m.reset with phase := .polling }, .wait 0)
  else m.refuse "retry"

end Machine

end SealedTree.Poll
