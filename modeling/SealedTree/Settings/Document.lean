import SealedTree.Request.Document
import SealedTree.Schedule.Document
import SealedTree.Settings

/-!
Settings as documents. Only the contract and the receiver have to be there.
-/

namespace SealedTree.Settings

def json (s : Settings) : Json :=
  .ofMembers
    [("node_url", .string s.nodeUrl),
     ("relay_url", .string s.relayUrl),
     ("contract", s.contract.json),
     ("receiver", s.receiver.json),
     ("model_id", s.model.json),
     ("sample_fee", .ofNat s.sampleFee.toNat),
     ("model_fee", .ofNat s.modelFee.toNat),
     ("scaling", .ofList (s.scaling.map fun n => .ofNat n.toNat)),
     ("request_timeout_ms", .ofNat s.requestTimeoutMs.toNat),
     ("poller", s.schedule.json)]

def decoder : Json.Decoder Settings := fun site j => do
  let fields ← Json.fields "struct ClientConfig"
    [Json.openSlot "node_url" Json.text,
     Json.openSlot "relay_url" Json.text,
     Json.slot "contract" Address.decoder,
     Json.slot "receiver" Address.decoder,
     Json.openSlot "model_id" SecretId.decoder,
     Json.openSlot "sample_fee" Json.uint64,
     Json.openSlot "model_fee" Json.uint64,
     Json.openSlot "scaling" (Json.list Json.uint16),
     Json.openSlot "request_timeout_ms" Json.uint64,
     Json.openSlot "poller" Schedule.decoder] site j
  let usual : Settings := {}
  let nodeUrl ← fields.getOr site "node_url" Json.text usual.nodeUrl
  let relayUrl ← fields.getOr site "relay_url" Json.text usual.relayUrl
  let contract ← fields.get site "contract" Address.decoder
  let receiver ← fields.get site "receiver" Address.decoder
  let model ← fields.getOr site "model_id" SecretId.decoder usual.model
  let sampleFee ← fields.getOr site "sample_fee" Json.uint64 usual.sampleFee
  let modelFee ← fields.getOr site "model_fee" Json.uint64 usual.modelFee
  let scaling ← fields.getOr site "scaling" (Json.list Json.uint16) usual.scaling
  let requestTimeoutMs ←
    fields.getOr site "request_timeout_ms" Json.uint64 usual.requestTimeoutMs
  let schedule ← fields.getOr site "poller" Schedule.decoder usual.schedule
  .ok { nodeUrl, relayUrl, contract, receiver, model, sampleFee, modelFee, scaling,
        requestTimeoutMs, schedule }

end SealedTree.Settings
