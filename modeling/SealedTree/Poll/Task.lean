import SealedTree.Poll.Machine

/-!
The task that drives a machine: it sleeps, asks the node, tells the machine the outcome, publishes
the status, and begins anew; when the machine stops it waits for the command to retry. A task takes
one signal at a time and answers with what it does, in order.
-/

namespace SealedTree.Poll

inductive Stage
  /-- It has not run yet; its first sleep will be as long as `delay`. -/
  | launching (delay : Duration)
  | sleeping
  | querying
  | idle
  | ended
  deriving DecidableEq

inductive Signal
  | go
  | woke
  | answered (answer : Except NetworkError Snapshot) (jitter : Duration)
  | command

inductive Act
  | sleep (delay : Duration)
  | query
  | publish (status : Status)
  | accept
  | refuse (error : ClientError)

structure Task where
  tx : TransactionId
  machine : Machine
  stage : Stage
  deriving DecidableEq

namespace Task

def launch (tx : TransactionId) (m : Machine) : Step → Task
  | .wait delay => ⟨tx, m, .launching delay⟩
  | .stop => ⟨tx, m, .idle⟩

/-- The task for a request that was handed in; a failed submission leaves none. -/
def submit (schedule : Schedule) (receipt : Except NetworkError TransactionId) :
    Except ClientError Task := do
  let m ← (Machine.new schedule).beginSubmit
  match receipt with
  | .ok tx =>
      let (m, step) ← m.submitted tx
      .ok (launch tx m step)
  | .error e => .error (.network e)

def watch (schedule : Schedule) (tx : TransactionId) : Except ClientError Task := do
  let (m, step) ← (Machine.new schedule).track tx
  .ok (launch tx m step)

/-- What follows a step of the machine. Nothing leads out of a resolution. -/
def follow (m : Machine) : Step → Stage × List Act
  | .wait delay => (.sleeping, [.sleep delay])
  | .stop =>
      match m.phase with
      | .resolved _ => (.ended, [])
      | _ => (.idle, [])

/-- Signals that do not fit the stage are passed over. -/
def on (t : Task) : Signal → Task × List Act
  | .go =>
      match t.stage with
      | .launching delay => ({ t with stage := .sleeping }, [.sleep delay])
      | _ => (t, [])
  | .woke =>
      match t.stage with
      | .sleeping => ({ t with stage := .querying }, [.query])
      | _ => (t, [])
  | .answered answer jitter =>
      match t.stage with
      | .querying =>
          let (m, step) := t.machine.record (.ofAnswer answer t.tx) jitter
          let (stage, acts) := follow m step
          ({ t with machine := m, stage := stage }, .publish m.status :: acts)
      | _ => (t, [])
  | .command =>
      match t.stage with
      | .idle =>
          match t.machine.manualRetry with
          | .ok (m, step) =>
              let (stage, acts) := follow m step
              ({ t with machine := m, stage := stage },
                .publish m.status :: .accept :: acts)
          | .error e => (t, [.refuse e])
      | _ => (t, [])

def run (t : Task) : List Signal → Task × List Act
  | [] => (t, [])
  | s :: rest =>
      let (t, acts) := t.on s
      let (t, more) := t.run rest
      (t, acts ++ more)

end Task

end SealedTree.Poll
