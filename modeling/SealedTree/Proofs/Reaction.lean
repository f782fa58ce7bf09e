import SealedTree.Network.Relay
import SealedTree.Proofs.Json.Bytes

/-!
What a machine on the network may do with a request. It stays silent or asks for patience, or it
refuses, or it gives what was asked for; these three leave nothing out, and each of them is read in
its own way.
-/

namespace SealedTree

namespace Http.Outcome

variable {α : Type} {o : Outcome} {d : Json.Decoder α}

/-- Nothing came back, or it may go better later. -/
def Unavailable (o : Outcome) : Prop :=
  o = .unreachable ∨ ∃ status body, o = .answered status body ∧ (500 ≤ status ∨ status = 429)

/-- A success, whose body says `a`. -/
def Gives (o : Outcome) (d : Json.Decoder α) (a : α) : Prop :=
  ∃ status body, o = .answered status body ∧ 200 ≤ status ∧ status < 300 ∧
    Json.decodeBytes d body.bytes = .ok a

/-- An answer that no further attempt can mend: no success, or one whose body says nothing. -/
def Refuses (o : Outcome) (d : Json.Decoder α) : Prop :=
  ∃ status body, o = .answered status body ∧
    ((status < 200 ∨ 300 ≤ status) ∧ status < 500 ∧ status ≠ 429 ∨
      200 ≤ status ∧ status < 300 ∧ ∀ a, Json.decodeBytes d body.bytes ≠ .ok a)

end Http.Outcome

namespace Relay

variable {o : Http.Outcome}

end Relay

end SealedTree
