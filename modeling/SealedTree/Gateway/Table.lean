import SealedTree.Gateway.Error
import SealedTree.Poll.Session

/-!
The searches that the gateway keeps, at most one for a transaction. Searches that have come to an
end are kept for those who ask for the result, the latest of them only; a search that is under way
is never given up.
-/

namespace SealedTree.Gateway

/-- A search in the table. Later ones have higher numbers. -/
structure Entry where
  key : TransactionId
  search : Poll.Session
  number : Nat

def Entry.isPending (e : Entry) : Bool := e.search.status == .pending

structure Table where
  entries : List Entry := []
  nextNumber : Nat := 0
  maxSettled : Nat := 1024

structure Stats where
  tracked : Nat
  pending : Nat
  resolved : Nat
  exhausted : Nat
  failed : Nat
  deriving DecidableEq

namespace Table

def find? (t : Table) (tx : TransactionId) : Option Entry := t.entries.find? (·.key == tx)

def search (t : Table) (tx : TransactionId) : Except Error Poll.Session :=
  match t.find? tx with
  | some e => .ok e.search
  | none => .error (.unknownTransaction tx)

def isPending (t : Table) (tx : TransactionId) : Bool := (t.find? tx).any Entry.isPending

def settled (t : Table) : List Entry := t.entries.filter fun e => !e.isPending

/-- An ended search goes when there are too many after it. -/
def evictSettled (t : Table) : Table :=
  { t with entries := t.entries.filter fun e =>
      e.isPending || t.settled.countP (e.number < ·.number) < t.maxSettled }

def setMaxSettled (t : Table) (n : Nat) : Table := { t with maxSettled := n }.evictSettled

/-- Puts a search under its transaction, in the place of an ended one. -/
def insert (t : Table) (s : Poll.Session) : Table :=
  { t with
    entries := t.entries.filter (·.key != s.tx) ++ [⟨s.tx, s, t.nextNumber⟩]
    nextNumber := t.nextNumber + 1 }

def track (t : Table) (s : Poll.Session) : Except Error Table :=
  if t.isPending s.tx then .error (.alreadyPolled s.tx) else .ok (t.insert s).evictSettled

def update (t : Table) (tx : TransactionId) (f : Poll.Session → Poll.Session) : Table :=
  { t with entries := t.entries.map fun e =>
      if e.key = tx then { e with search := f e.search } else e }

def count (t : Table) (p : Poll.Status → Bool) : Nat :=
  t.entries.countP fun e => p e.search.status

def stats (t : Table) : Stats where
  tracked := t.entries.length
  pending := t.count fun s => s matches .pending
  resolved := t.count fun s => s matches .resolved _
  exhausted := t.count fun s => s matches .exhausted
  failed := t.count fun s => s matches .fatal _

end Table

end SealedTree.Gateway
