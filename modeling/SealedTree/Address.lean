import SealedTree.Json.Decoder
import SealedTree.Text.Blank
import SealedTree.Text.Hex

/-!
Ledger addresses: one byte for the type of the address and twenty that identify the account or
contract. As text an address is its 42 hexadecimal digits.
-/

namespace SealedTree

structure Address where
  bytes : Vector UInt8 21
  deriving DecidableEq

/-- Why a text is no address. The text is quoted as it was given. -/
inductive AddressError
  | noHex (text : String) (fault : Hex.Fault)
  | wrongSize (text : String) (actual : Nat)
  deriving DecidableEq

def AddressError.reason : AddressError → String
  | .noHex text fault => text ++ ": " ++ fault.message
  | .wrongSize text actual => text ++ ": expected 21 bytes, got " ++ toString actual

def AddressError.message (e : AddressError) : String := "Invalid address: " ++ e.reason

namespace Address

def zero : Address := ⟨Vector.replicate 21 0⟩

/-- The first byte, which tells accounts from contracts. -/
def kind (a : Address) : UInt8 := a.bytes[0]

def hex (a : Address) : String := Hex.encode a.bytes.toList

def shown (a : Address) : String := "Address(" ++ a.hex ++ ")"

def ofBytes? (bytes : List UInt8) : Option Address :=
  if h : bytes.length = 21 then some ⟨⟨bytes.toArray, by simpa using h⟩⟩ else none

/-- Blanks around the digits do not count, and `0x` may stand before them. -/
def parse (text : String) : Except AddressError Address :=
  match Hex.decodeChars (Hex.bare (Text.trimBlank text.toList)) with
  | .error fault => .error (.noHex text fault)
  | .ok bytes =>
      match ofBytes? bytes with
      | some a => .ok a
      | none => .error (.wrongSize text bytes.length)

def json (a : Address) : Json := .string a.hex

def decoder : Json.Decoder Address :=
  Json.text.refine fun s => (parse s).mapError AddressError.message

theorem ofBytes?_toList (a : Address) : ofBytes? a.bytes.toList = some a := by
  rcases a with ⟨⟨bytes, h⟩⟩
  simp [ofBytes?, h]

end Address

end SealedTree
