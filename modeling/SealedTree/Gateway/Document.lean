import SealedTree.Gateway.Table
import SealedTree.Json.Decoder
import SealedTree.Snapshot.Document

/-!
What goes in and out of the gateway, as documents.
-/

namespace SealedTree.Gateway

namespace Stats

def json (s : Stats) : Json :=
  .ofMembers
    [("tracked", .ofNat s.tracked), ("pending", .ofNat s.pending),
     ("resolved", .ofNat s.resolved), ("exhausted", .ofNat s.exhausted),
     ("failed", .ofNat s.failed)]

def decoder : Json.Decoder Stats := fun site j => do
  let fields ← Json.fields "struct PollerStats"
    [Json.slot "tracked" Json.count, Json.slot "pending" Json.count,
     Json.slot "resolved" Json.count, Json.slot "exhausted" Json.count,
     Json.slot "failed" Json.count] site j
  let tracked ← fields.get site "tracked" Json.count
  let pending ← fields.get site "pending" Json.count
  let resolved ← fields.get site "resolved" Json.count
  let exhausted ← fields.get site "exhausted" Json.count
  let failed ← fields.get site "failed" Json.count
  .ok { tracked, pending, resolved, exhausted, failed }

end Stats

structure Health where
  status : String
  contract : Address
  searches : Stats
  deriving DecidableEq

namespace Health

def json (h : Health) : Json :=
  .ofMembers
    [("status", .string h.status), ("contract", h.contract.json), ("pollers", h.searches.json)]

def decoder : Json.Decoder Health := fun site j => do
  let fields ← Json.fields "struct HealthResponse"
    [Json.slot "status" Json.text, Json.slot "contract" Address.decoder,
     Json.slot "pollers" Stats.decoder] site j
  let status ← fields.get site "status" Json.text
  let contract ← fields.get site "contract" Address.decoder
  let searches ← fields.get site "pollers" Stats.decoder
  .ok { status, contract, searches }

end Health

structure Submission where
  answers : List Int16
  deriving DecidableEq

namespace Submission

def json (s : Submission) : Json :=
  .ofMembers [("answers", .ofList (s.answers.map fun n => .ofInt n.toInt))]

def decoder : Json.Decoder Submission := fun site j => do
  let fields ← Json.fields "struct SubmitRequest"
    [Json.slot "answers" (Json.list Json.int16)] site j
  let answers ← fields.get site "answers" (Json.list Json.int16)
  .ok ⟨answers⟩

end Submission

structure Submitted where
  transaction : TransactionId
  pending : Bool
  deriving DecidableEq

namespace Submitted

def json (s : Submitted) : Json :=
  .ofMembers [("transactionId", s.transaction.json), ("pending", .bool s.pending)]

def decoder : Json.Decoder Submitted := fun site j => do
  let fields ← Json.fields "struct SubmitResponse"
    [Json.slot "transactionId" TransactionId.decoder, Json.slot "pending" Json.boolean] site j
  let transaction ← fields.get site "transactionId" TransactionId.decoder
  let pending ← fields.get site "pending" Json.boolean
  .ok { transaction, pending }

end Submitted

/-- How a search stands, as it is told to those who ask. -/
structure Report where
  transaction : TransactionId
  /-- Empty until there is a result. -/
  label : String
  pending : Bool
  exhausted : Bool
  error : Option String
  deriving DecidableEq

namespace Report

def of (tx : TransactionId) : Poll.Status → Report
  | .pending => ⟨tx, "", true, false, none⟩
  | .resolved (.label p) => ⟨tx, p.name, false, false, none⟩
  | .resolved .indeterminate => ⟨tx, "", false, false, some "indeterminate result"⟩
  | .exhausted => ⟨tx, "", false, true, some "result not available yet, retry later"⟩
  | .fatal error => ⟨tx, "", false, false, some error⟩

/-- The error is left out when there is none. -/
def json (r : Report) : Json :=
  .ofMembers <|
    [("transactionId", r.transaction.json), ("label", .string r.label),
     ("pending", .bool r.pending), ("exhausted", .bool r.exhausted)] ++
      (r.error.map fun e => ("error", Json.string e)).toList

def decoder : Json.Decoder Report := fun site j => do
  let fields ← Json.fields "struct ResultResponse"
    [Json.slot "transactionId" TransactionId.decoder, Json.slot "label" Json.text,
     Json.slot "pending" Json.boolean, Json.openSlot "exhausted" Json.boolean,
     Json.openSlot "error" (Json.optional Json.text)] site j
  let transaction ← fields.get site "transactionId" TransactionId.decoder
  let label ← fields.get site "label" Json.text
  let pending ← fields.get site "pending" Json.boolean
  let exhausted ← fields.getOr site "exhausted" Json.boolean false
  let error ← fields.getOr site "error" (Json.optional Json.text) none
  .ok { transaction, label, pending, exhausted, error }

end Report

end SealedTree.Gateway
