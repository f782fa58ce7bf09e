import SealedTree.Address
import SealedTree.Reader

/-!
Bytes on the wire. Public frames are written with the highest byte of a number first; what the
ledger holds is read with the lowest byte first.
-/

namespace SealedTree

namespace Frame

/-- The lowest `count` bytes of a number, the highest of them first. -/
def bigEndian : (count : Nat) → Nat → List UInt8
  | 0, _ => []
  | count + 1, n => bigEndian count (n / 256) ++ [UInt8.ofNat n]

def ofBigEndian (bytes : List UInt8) : Nat :=
  bytes.foldl (fun n b => 256 * n + b.toNat) 0

/-- The lowest `count` bytes of a number, the lowest first. -/
def littleEndian : (count : Nat) → Nat → List UInt8
  | 0, _ => []
  | count + 1, n => UInt8.ofNat n :: littleEndian count (n / 256)

def ofLittleEndian : List UInt8 → Nat
  | [] => 0
  | b :: rest => b.toNat + 256 * ofLittleEndian rest

end Frame

inductive FrameField
  | bytes (value : List UInt8)
  | u8 (value : UInt8)
  | u16 (value : UInt16)
  | i32 (value : Int32)
  | u32 (value : UInt32)
  | address (value : Address)

def FrameField.encode : FrameField → List UInt8
  | .bytes value => value
  | .u8 value => [value]
  | .u16 value => Frame.bigEndian 2 value.toNat
  | .i32 value => Frame.bigEndian 4 value.toUInt32.toNat
  | .u32 value => Frame.bigEndian 4 value.toNat
  | .address value => value.bytes.toList

def Frame.ofFields (fields : List FrameField) : List UInt8 :=
  fields.flatMap FrameField.encode

inductive ByteKind
  | u8
  | u16
  | i16
  | u32
  | i32
  | address
  | bytes (count : Nat)
  deriving DecidableEq

inductive ByteValue
  | u8 (value : UInt8)
  | u16 (value : UInt16)
  | i16 (value : Int16)
  | u32 (value : UInt32)
  | i32 (value : Int32)
  | address (value : Address)
  | bytes (value : List UInt8)
  deriving DecidableEq

def ByteKind.width : ByteKind → Nat
  | .u8 => 1
  | .u16 | .i16 => 2
  | .u32 | .i32 => 4
  | .address => 21
  | .bytes count => count

def ByteKind.value (kind : ByteKind) (bytes : List UInt8) : ByteValue :=
  let n := Frame.ofLittleEndian bytes
  match kind with
  | .u8 => .u8 (UInt8.ofNat n)
  | .u16 => .u16 (UInt16.ofNat n)
  | .i16 => .i16 (UInt16.ofNat n).toInt16
  | .u32 => .u32 (UInt32.ofNat n)
  | .i32 => .i32 (UInt32.ofNat n).toInt32
  | .address => .address ((Address.ofBytes? bytes).getD .zero)
  | .bytes _ => .bytes bytes

def ByteValue.encode : ByteValue → List UInt8
  | .u8 n => [n]
  | .u16 n => Frame.littleEndian 2 n.toNat
  | .i16 n => Frame.littleEndian 2 n.toUInt16.toNat
  | .u32 n => Frame.littleEndian 4 n.toNat
  | .i32 n => Frame.littleEndian 4 n.toUInt32.toNat
  | .address a => a.bytes.toList
  | .bytes bs => bs

namespace Reader

def bytes (field : String) (n : Nat) : Reader UInt8 (List UInt8) := take field n

def address (field : String) : Reader UInt8 Address :=
  (fun bs => (Address.ofBytes? bs).getD .zero) <$> take field 21

end Reader

end SealedTree
