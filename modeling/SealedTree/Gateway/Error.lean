import SealedTree.ClientError
import SealedTree.Snapshot

/-!
Why the gateway turns a request down, and with which status.
-/

namespace SealedTree.Gateway

inductive Error
  | invalidRequest (reason : String)
  | unknownTransaction (tx : TransactionId)
  | conflict (reason : String)
  | refused (reason : String)
  | unavailable (reason : String)
  | metricsDisabled
  | io (reason : String)
  | internal (reason : String)
  deriving DecidableEq

namespace Error

def message : Error → String
  | .invalidRequest reason => "Invalid request: " ++ reason
  | .unknownTransaction tx => "Unknown transaction: " ++ tx.text
  | .conflict reason => "Conflict: " ++ reason
  | .refused reason => "Upstream rejected request: " ++ reason
  | .unavailable reason => "Upstream unavailable: " ++ reason
  | .metricsDisabled => "Metrics not enabled"
  | .io reason => "IO error: " ++ reason
  | .internal reason => "Internal error: " ++ reason

def status : Error → Nat
  | .invalidRequest _ => 400
  | .unknownTransaction _ | .metricsDisabled => 404
  | .conflict _ => 409
  | .refused _ => 502
  | .unavailable _ => 503
  | .io _ | .internal _ => 500

def ofClient : ClientError → Error
  | .shape e => .invalidRequest e.message
  | .payload e => .invalidRequest e.message
  | .network (.transient message) => .unavailable message
  | .network e => .refused e.message
  | .invalidTransition event phase =>
      .conflict (ClientError.invalidTransition event phase).message
  | .input e => .internal e.message
  | .taskGone => .internal ClientError.taskGone.message

def ofInput (e : InputError) : Error := .internal e.message

/-- A transaction is not searched for twice at a time. -/
def alreadyPolled (tx : TransactionId) : Error :=
  .conflict ("transaction " ++ tx.text ++ " is already being polled")

end Error

end SealedTree.Gateway
