import SealedTree.Contract

/-!
Snapshots of the contract's variables, and what a snapshot says about a transaction.

The network may record the transaction of a variable before it attaches the payload, so the variable
that answers a transaction is searched for by rank.
-/

namespace SealedTree

structure TransactionId where
  text : String
  deriving DecidableEq

structure Variable where
  key : UInt64
  transaction : Option TransactionId
  payload : Option (List UInt8)
  deriving DecidableEq

namespace Variable

/-- An empty payload is as good as none. -/
def hasPayload (v : Variable) : Bool := v.payload.any fun bytes => !bytes.isEmpty

def isFor (v : Variable) (tx : TransactionId) : Bool := v.transaction == some tx

inductive Reading
  | processing
  | awaitingPayload
  | ready (result : OneHot)
  | notOneHot (result : OneHot)
  | malformed (cause : PayloadError)
  deriving DecidableEq

/-- A variable without a transaction is still being worked on. -/
def reading (v : Variable) : Reading :=
  match v.transaction, v.payload with
  | none, _ => .processing
  | some _, none | some _, some [] => .awaitingPayload
  | some _, some payload =>
      match OneHot.ofPayload payload with
      | .ok result => if result.isOneHot then .ready result else .notOneHot result
      | .error cause => .malformed cause

end Variable

abbrev Snapshot := List Variable

/-- How well a variable answers a transaction. -/
inductive Rank
  /-- It is for the transaction and has its payload. -/
  | exact
  /-- It is for the transaction. -/
  | transaction
  /-- It is the latest with a payload. -/
  | latestPayload
  /-- It is the last. -/
  | last
  deriving DecidableEq

structure Candidate where
  rank : Rank
  position : Nat
  found : Variable
  deriving DecidableEq

namespace Snapshot

def latestKey? (vs : Snapshot) : Option UInt64 :=
  ((vs.filter Variable.hasPayload).map Variable.key).max?

/-- Where the first variable of the best rank stands. -/
def position? (vs : Snapshot) (tx : TransactionId) : Option (Rank × Nat) :=
  match vs.findIdx? fun v => v.isFor tx && v.hasPayload with
  | some i => some (.exact, i)
  | none =>
      match vs.findIdx? fun v => v.isFor tx with
      | some i => some (.transaction, i)
      | none =>
          match vs.latestKey? with
          | some key =>
              (vs.findIdx? fun v => v.hasPayload && v.key == key).map (.latestPayload, ·)
          | none => if vs.isEmpty then none else some (.last, vs.length - 1)

def select? (vs : Snapshot) (tx : TransactionId) : Option Candidate := do
  let (rank, position) ← vs.position? tx
  let v ← vs[position]?
  some ⟨rank, position, v⟩

end Snapshot

end SealedTree
