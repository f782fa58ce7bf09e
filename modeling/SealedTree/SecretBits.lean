import SealedTree.Bits
import SealedTree.Reader

/-!
Secret inputs as bits. A secret is a number of bits held in bytes; values are written one after the
other without any alignment, signed ones in two's complement, and are read back the same way.
-/

namespace SealedTree

/-- Packed bits with their number. What the bytes hold beyond `len` bits does not count. -/
structure SecretBits where
  bytes : List UInt8
  len : Nat
  fits : len ≤ 8 * bytes.length
  deriving DecidableEq

namespace SecretBits

def bits (s : SecretBits) : List Bool := (Bits.unpack s.bytes).take s.len

def bit? (s : SecretBits) (i : Nat) : Option Bool :=
  if i < s.len then s.bytes[i / 8]?.map fun byte => byte >>> UInt8.ofNat (i % 8) &&& 1 == 1
  else none

def isEmpty (s : SecretBits) : Bool := s.len == 0

def ofBits (bits : List Bool) : SecretBits :=
  ⟨Bits.pack bits, bits.length, Bits.length_le_pack bits⟩

/-- Bytes received from elsewhere, with the number of bits they are said to hold. -/
def ofBytes (bytes : List UInt8) (len : Nat) : Except PayloadError SecretBits :=
  if h : len ≤ 8 * bytes.length then .ok ⟨bytes, len, h⟩
  else .error (.underrun "secret_bits" len (8 * bytes.length))

def empty : SecretBits := ofBits []

/-- How a secret shows itself: never by what it holds. -/
def shown (s : SecretBits) : String := "SecretBits(" ++ toString s.len ++ " bits)"

@[simp] theorem length_bits (s : SecretBits) : s.bits.length = s.len := by
  have := s.fits
  simp [bits]
  omega

end SecretBits

inductive BitKind
  | bool
  | u8
  | i16
  | u16
  | u32
  deriving DecidableEq

inductive BitValue
  | bool (value : Bool)
  | u8 (value : UInt8)
  | i16 (value : Int16)
  | u16 (value : UInt16)
  | u32 (value : UInt32)
  deriving DecidableEq

def BitKind.width : BitKind → Nat
  | .bool => 1
  | .u8 => 8
  | .i16 | .u16 => 16
  | .u32 => 32

def BitValue.kind : BitValue → BitKind
  | .bool _ => .bool
  | .u8 _ => .u8
  | .i16 _ => .i16
  | .u16 _ => .u16
  | .u32 _ => .u32

def BitValue.bits : BitValue → List Bool
  | .bool b => [b]
  | .u8 n => Bits.ofNat 8 n.toNat
  | .i16 n => Bits.ofNat 16 n.toUInt16.toNat
  | .u16 n => Bits.ofNat 16 n.toNat
  | .u32 n => Bits.ofNat 32 n.toNat

def BitKind.value (kind : BitKind) (bits : List Bool) : BitValue :=
  let n := Bits.toNat bits
  match kind with
  | .bool => .bool (n == 1)
  | .u8 => .u8 (UInt8.ofNat n)
  | .i16 => .i16 (UInt16.ofNat n).toInt16
  | .u16 => .u16 (UInt16.ofNat n)
  | .u32 => .u32 (UInt32.ofNat n)

/-- A secret that is being written. Its bytes are filled from bit zero upward, and what is not
filled yet is zero. -/
structure BitWriter where
  bytes : Array UInt8 := #[]
  len : Nat := 0
  filled : bytes.size = (len + 7) / 8 := by rfl

namespace BitWriter

/-- The bytes with room for one more bit; a new byte is begun when the last one is full. -/
def opened (bytes : Array UInt8) (len : Nat) : Array UInt8 :=
  if len % 8 = 0 then bytes.push 0 else bytes

def pushed (bytes : Array UInt8) (len : Nat) (bit : Bool) : Array UInt8 :=
  let bytes := opened bytes len
  if bit then bytes.modify (bytes.size - 1) (· ||| 1 <<< UInt8.ofNat (len % 8)) else bytes

theorem size_pushed (bytes : Array UInt8) (len : Nat) (bit : Bool) :
    (pushed bytes len bit).size = bytes.size + if len % 8 = 0 then 1 else 0 := by
  rw [pushed, opened]
  split <;> split <;> simp

def push (w : BitWriter) (bit : Bool) : BitWriter where
  bytes := pushed w.bytes w.len bit
  len := w.len + 1
  filled := by
    rw [size_pushed, w.filled]
    split <;> omega

/-- The lowest `width` bits of a number, the lowest one first. -/
def writeBits (w : BitWriter) (width n : Nat) : BitWriter :=
  (List.range width).foldl (fun w i => w.push (n.testBit i)) w

def write (w : BitWriter) : BitValue → BitWriter
  | .bool b => w.push b
  | .u8 n => w.writeBits 8 n.toNat
  | .i16 n => w.writeBits 16 n.toUInt16.toNat
  | .u16 n => w.writeBits 16 n.toNat
  | .u32 n => w.writeBits 32 n.toNat

def finish (w : BitWriter) : SecretBits where
  bytes := w.bytes.toList
  len := w.len
  fits := by
    have := w.filled
    rw [Array.length_toList]
    omega

end BitWriter

def SecretBits.ofValues (values : List BitValue) : SecretBits :=
  (values.foldl BitWriter.write {}).finish

namespace Reader

def bitValue (field : String) (kind : BitKind) : Reader Bool BitValue :=
  kind.value <$> take field kind.width

def bool (field : String) : Reader Bool Bool :=
  (fun bits => Bits.toNat bits == 1) <$> take field 1

def uint8 (field : String) : Reader Bool UInt8 :=
  (fun bits => UInt8.ofNat (Bits.toNat bits)) <$> take field 8

def int16 (field : String) : Reader Bool Int16 :=
  (fun bits => (UInt16.ofNat (Bits.toNat bits)).toInt16) <$> take field 16

end Reader

/-- A type whose values have a fixed place in a secret. -/
class SecretLayout (α : Type) where
  width : Nat
  bits : α → List Bool
  reader : Reader Bool α

def conceal [SecretLayout α] (a : α) : SecretBits := .ofBits (SecretLayout.bits a)

/-- The value at the front of a secret, the way the nodes of the network read it. -/
def reveal (α : Type) [SecretLayout α] (s : SecretBits) : Except PayloadError α :=
  Reader.front SecretLayout.reader s.bits

theorem BitValue.length_bits (v : BitValue) : v.bits.length = v.kind.width := by
  cases v <;> simp [bits, kind, BitKind.width]

end SealedTree
