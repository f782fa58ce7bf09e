import SealedTree.Network
import SealedTree.Request
import SealedTree.Snapshot.Document

/-!
The relay signs requests and hands them in.
-/

namespace SealedTree

structure Relay where
  url : String
  contract : Address

namespace Relay

/-- What the relay is asked to hand in. The two halves of the request are hexadecimal text. -/
structure Order where
  contract : Address
  rpc : String
  secret : String
  secretBits : Nat
  fee : UInt64
  deriving DecidableEq

structure Receipt where
  identifier : TransactionId
  deriving DecidableEq

namespace Order

def json (o : Order) : Json :=
  .ofMembers
    [("contract", o.contract.json), ("rpc", .string o.rpc), ("secret", .string o.secret),
     ("secret_bits", .ofNat o.secretBits), ("fee", .ofNat o.fee.toNat)]

def decoder : Json.Decoder Order := fun site j => do
  let fields ← Json.fields "struct RelayRequest"
    [Json.slot "contract" Address.decoder, Json.slot "rpc" Json.text,
     Json.slot "secret" Json.text, Json.slot "secret_bits" Json.count,
     Json.slot "fee" Json.uint64] site j
  let contract ← fields.get site "contract" Address.decoder
  let rpc ← fields.get site "rpc" Json.text
  let secret ← fields.get site "secret" Json.text
  let secretBits ← fields.get site "secret_bits" Json.count
  let fee ← fields.get site "fee" Json.uint64
  .ok { contract, rpc, secret, secretBits, fee }

end Order

namespace Receipt

def json (r : Receipt) : Json := .ofMembers [("identifier", r.identifier.json)]

def decoder : Json.Decoder Receipt := fun site j => do
  let fields ← Json.fields "struct RelayResponse"
    [Json.slot "identifier" TransactionId.decoder] site j
  let identifier ← fields.get site "identifier" TransactionId.decoder
  .ok ⟨identifier⟩

end Receipt

def ofUrl (url : String) (contract : Address) : Relay := ⟨Http.baseUrl url, contract⟩

def order (r : Relay) (e : Envelope) (fee : UInt64) : Order where
  contract := r.contract
  rpc := Hex.encode e.publicHalf
  secret := Hex.encode e.secret.bytes
  secretBits := e.secret.len
  fee := fee

def orderUrl (r : Relay) : String := r.url ++ "/transactions"

def request (r : Relay) (e : Envelope) (fee : UInt64) : Http.Request :=
  ⟨.post, r.orderUrl, some (r.order e fee).json⟩

def transaction (r : Relay) (o : Http.Outcome) : Except NetworkError TransactionId :=
  (o.read r.orderUrl Receipt.decoder).map Receipt.identifier

end Relay

end SealedTree
