import SealedTree.Frame
import SealedTree.SecretBits

/-!
Values read one after the other from a secret or from bytes, with the place where the next one
begins. A read that finds too little leaves the place where it is, so that another can be tried.
-/

namespace SealedTree

/-- What can be read from a place on: how many units it has, and some of them in a row. -/
class Tape (σ : Type) (τ : outParam Type) where
  size : σ → Nat
  slice : σ → (place n : Nat) → List τ

-- A bit that is not there counts as zero.
instance : Tape SecretBits Bool where
  size := SecretBits.len
  slice s place n := (List.range n).map fun i => s.bit? (place + i) == some true

instance : Tape (List UInt8) UInt8 where
  size := List.length
  slice data place n := (data.drop place).take n

/-- Kinds of values: how many units one takes, and what it makes of them. -/
class ReadKind (κ : Type) (τ ν : outParam Type) where
  width : κ → Nat
  value : κ → List τ → ν

instance : ReadKind BitKind Bool BitValue where
  width := BitKind.width
  value := BitKind.value

instance : ReadKind ByteKind UInt8 ByteValue where
  width := ByteKind.width
  value := ByteKind.value

structure Cursor (σ : Type) where
  tape : σ
  pos : Nat := 0
  deriving DecidableEq

namespace Cursor

variable {σ τ κ ν : Type} [Tape σ τ] [ReadKind κ τ ν]

def remaining (c : Cursor σ) : Nat := Tape.size c.tape - c.pos

def advance (c : Cursor σ) (n : Nat) : Cursor σ := { c with pos := c.pos + n }

def take (c : Cursor σ) (field : String) (n : Nat) : Except PayloadError (List τ) × Cursor σ :=
  if c.remaining < n then (.error (.underrun field n c.remaining), c)
  else (.ok (Tape.slice c.tape c.pos n), c.advance n)

def read (c : Cursor σ) (field : String) (kind : κ) : Except PayloadError ν × Cursor σ :=
  let (units, c) := c.take field (ReadKind.width kind)
  (units.map (ReadKind.value kind), c)

end Cursor

end SealedTree
