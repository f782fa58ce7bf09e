import SealedTree.Frame
import SealedTree.Json.Decoder
import SealedTree.Json.Printer
import SealedTree.Verdict

/-!
What the contract says in bytes: how it is set up, its public state, and its results.
-/

namespace SealedTree

namespace Contract

def initialFrame : List UInt8 := [0xff, 0xff, 0xff, 0xff, 0x0f]

structure State where
  owner : Address
  deriving DecidableEq

namespace State

/-- The owner stands first; what follows is of no concern here. -/
def reader : Reader UInt8 State := State.mk <$> Reader.address "model_owner"

def ofBytes (bytes : List UInt8) : Except PayloadError State := reader.front bytes

def json (s : State) : Json := .ofMembers [("model_owner", s.owner.json)]

def decoder : Json.Decoder State := fun site j => do
  let fields ← Json.fields "struct ContractState"
    [Json.slot "model_owner" Address.decoder] site j
  let owner ← fields.get site "model_owner" Address.decoder
  .ok ⟨owner⟩

end State

end Contract

namespace OneHot

/-- The result in a payload stands behind 32 other bytes; only the byte one counts as set. -/
def reader : Reader UInt8 OneHot := do
  let _ ← Reader.bytes "result_prefix" 32
  let bytes ← Reader.bytes "result" 8
  pure (ofBools (Vector.ofFn fun i => bytes[i.val]? == some 1))

def ofPayload (payload : List UInt8) : Except PayloadError OneHot := reader.front payload

end OneHot

end SealedTree
