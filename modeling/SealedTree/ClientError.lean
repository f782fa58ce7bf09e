import SealedTree.Input
import SealedTree.Network

/-!
Everything that can be in the way of a client.
-/

namespace SealedTree

inductive ClientError
  | input (error : InputError)
  | shape (error : ShapeError)
  | payload (error : PayloadError)
  | network (error : NetworkError)
  | invalidTransition (event phase : String)
  | taskGone

def ClientError.message : ClientError → String
  | .input e => e.message
  | .shape e => e.message
  | .payload e => e.message
  | .network e => e.message
  | .invalidTransition event phase => "Cannot " ++ event ++ " while " ++ phase
  | .taskGone => "Poll task has stopped"

end SealedTree
