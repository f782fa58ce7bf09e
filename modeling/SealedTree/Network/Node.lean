import SealedTree.ClientError
import SealedTree.Contract
import SealedTree.Snapshot.Document

/-!
The nodes of the network tell what the contract holds.
-/

namespace SealedTree

structure Node where
  url : String

namespace Node

structure VariablesReply where
  snapshot : Snapshot
  deriving DecidableEq

/-- The public state, as hexadecimal text. -/
structure StateReply where
  state : String
  deriving DecidableEq

namespace VariablesReply

def json (r : VariablesReply) : Json :=
  .ofMembers [("variables", .ofList (r.snapshot.map Variable.json))]

def decoder : Json.Decoder VariablesReply := fun site j => do
  let fields ← Json.fields "struct VariablesResponse"
    [Json.slot "variables" (Json.list Variable.decoder)] site j
  let snapshot ← fields.get site "variables" (Json.list Variable.decoder)
  .ok ⟨snapshot⟩

end VariablesReply

namespace StateReply

def json (r : StateReply) : Json := .ofMembers [("state", .string r.state)]

def decoder : Json.Decoder StateReply := fun site j => do
  let fields ← Json.fields "struct StateResponse" [Json.slot "state" Json.text] site j
  let state ← fields.get site "state" Json.text
  .ok ⟨state⟩

end StateReply

def ofUrl (url : String) : Node := ⟨Http.baseUrl url⟩

def contractUrl (n : Node) (contract : Address) : String := n.url ++ "/contracts/" ++ contract.hex

def variablesUrl (n : Node) (contract : Address) : String := n.contractUrl contract ++ "/variables"

def stateUrl (n : Node) (contract : Address) : String := n.contractUrl contract ++ "/state"

def variablesRequest (n : Node) (contract : Address) : Http.Request :=
  ⟨.get, n.variablesUrl contract, none⟩

def stateRequest (n : Node) (contract : Address) : Http.Request :=
  ⟨.get, n.stateUrl contract, none⟩

def snapshot (n : Node) (contract : Address) (o : Http.Outcome) :
    Except NetworkError Snapshot :=
  (o.read (n.variablesUrl contract) VariablesReply.decoder).map VariablesReply.snapshot

def state (n : Node) (contract : Address) (o : Http.Outcome) :
    Except ClientError Contract.State := do
  let reply ← (o.read (n.stateUrl contract) StateReply.decoder).mapError ClientError.network
  let bytes ← (Hex.decodeChars (Hex.bare reply.state.toList)).mapError fun fault =>
    .network (.invalidResponse fault.message)
  (Contract.State.ofBytes bytes).mapError .payload

end Node

end SealedTree
