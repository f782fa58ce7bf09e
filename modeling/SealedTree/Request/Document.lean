import SealedTree.Json.Decoder
import SealedTree.Json.Printer
import SealedTree.Request

/-!
Requests as documents.
-/

namespace SealedTree

def bytesJson (bytes : List UInt8) : Json := .ofList (bytes.map fun b => .ofNat b.toNat)

namespace SecretBits

def json (s : SecretBits) : Json :=
  .ofMembers [("bytes", bytesJson s.bytes), ("len", .ofNat s.len)]

def partsDecoder : Json.Decoder (List UInt8 × Nat) := fun site j => do
  let fields ← Json.fields "struct RawSecretBits"
    [Json.slot "bytes" (Json.list Json.uint8), Json.slot "len" Json.count] site j
  let bytes ← fields.get site "bytes" (Json.list Json.uint8)
  let len ← fields.get site "len" Json.count
  .ok (bytes, len)

def decoder : Json.Decoder SecretBits :=
  partsDecoder.refine fun (bytes, len) => (ofBytes bytes len).mapError PayloadError.message

end SecretBits

namespace SecretId

def json (id : SecretId) : Json := .ofNat id.raw.toNat

def decoder : Json.Decoder SecretId := Json.uint32.map SecretId.mk

end SecretId

namespace Envelope

def json (e : Envelope) : Json :=
  .ofMembers [("public_rpc", bytesJson e.publicHalf), ("secret", e.secret.json)]

def decoder : Json.Decoder Envelope := fun site j => do
  let fields ← Json.fields "struct RequestEnvelope"
    [Json.slot "public_rpc" (Json.list Json.uint8), Json.slot "secret" SecretBits.decoder] site j
  let publicHalf ← fields.get site "public_rpc" (Json.list Json.uint8)
  let secret ← fields.get site "secret" SecretBits.decoder
  .ok ⟨publicHalf, secret⟩

end Envelope

end SealedTree
