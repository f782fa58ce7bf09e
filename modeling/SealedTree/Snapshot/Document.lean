import SealedTree.Snapshot

/-!
Snapshots as documents. Payloads are hexadecimal text.
-/

namespace SealedTree

namespace TransactionId

def json (tx : TransactionId) : Json := .string tx.text

def decoder : Json.Decoder TransactionId := Json.text.map TransactionId.mk

end TransactionId

namespace Variable

/-- Digits that may stand behind `0x`. -/
def payloadDecoder : Json.Decoder (List UInt8) :=
  Json.text.refine fun s =>
    (Hex.decodeChars (Hex.bare s.toList)).mapError Hex.Fault.message

def json (v : Variable) : Json :=
  .ofMembers
    [("key", .ofNat v.key.toNat),
     ("transaction", .ofOption (v.transaction.map TransactionId.json)),
     ("payload", .ofOption (v.payload.map fun bytes => .string (Hex.encode bytes)))]

def decoder : Json.Decoder Variable := fun site j => do
  let fields ← Json.fields "struct ContractStateVariable"
    [Json.slot "key" Json.uint64,
     Json.openSlot "transaction" (Json.optional TransactionId.decoder),
     Json.openSlot "payload" (Json.optional payloadDecoder)] site j
  let key ← fields.get site "key" Json.uint64
  let transaction ← fields.getOr site "transaction" (Json.optional TransactionId.decoder) none
  let payload ← fields.getOr site "payload" (Json.optional payloadDecoder) none
  .ok ⟨key, transaction, payload⟩

end Variable

end SealedTree
