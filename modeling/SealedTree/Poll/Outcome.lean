import SealedTree.Network
import SealedTree.Snapshot

/-!
What one attempt to read a result gives.
-/

namespace SealedTree.Poll

inductive PendingReason
  | noVariables
  | processing
  | awaitingPayload
  | notOneHot
  deriving DecidableEq

def PendingReason.message : PendingReason → String
  | .noVariables => "no variables"
  | .processing => "still processing"
  | .awaitingPayload => "awaiting payload"
  | .notOneHot => "not one-hot"

inductive Outcome
  | ready (result : OneHot)
  | pending (reason : PendingReason)
  | malformed (cause : PayloadError)
  | readError (cause : NetworkError)
  deriving DecidableEq

namespace Outcome

def ofReading : Variable.Reading → Outcome
  | .processing => .pending .processing
  | .awaitingPayload => .pending .awaitingPayload
  | .ready result => .ready result
  | .notOneHot _ => .pending .notOneHot
  | .malformed cause => .malformed cause

def ofSnapshot (vs : Snapshot) (tx : TransactionId) : Outcome :=
  match vs.select? tx with
  | none => .pending .noVariables
  | some candidate => ofReading candidate.found.reading

def ofAnswer (answer : Except NetworkError Snapshot) (tx : TransactionId) : Outcome :=
  match answer with
  | .ok vs => ofSnapshot vs tx
  | .error cause => .readError cause

end Outcome

end SealedTree.Poll
