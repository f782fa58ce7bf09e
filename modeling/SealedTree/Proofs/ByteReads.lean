import Mathlib.Data.Nat.Digits.Defs
import SealedTree.Contract
import SealedTree.Proofs.Cursor

/-!
Reading typed values from any bytes, the lowest byte of a number first. The values that are read
are written again as the bytes that were passed; the state of the contract is the read of its owner
from the front.
-/

namespace SealedTree

namespace Frame

theorem ofLittleEndian_eq_ofDigits (bytes : List UInt8) :
    ofLittleEndian bytes = Nat.ofDigits 256 (bytes.map UInt8.toNat) := by
  induction bytes with
  | nil => rfl
  | cons b rest ih => simp [ofLittleEndian, Nat.ofDigits_cons, ih]

theorem ofLittleEndian_lt (bytes : List UInt8) : ofLittleEndian bytes < 256 ^ bytes.length := by
  induction bytes with
  | nil => exact Nat.one_pos
  | cons b rest ih =>
      have low : b.toNat < 256 := b.toNat_lt
      rw [ofLittleEndian, List.length_cons, Nat.pow_succ]
      omega

theorem littleEndian_ofLittleEndian (bytes : List UInt8) :
    littleEndian bytes.length (ofLittleEndian bytes) = bytes := by
  induction bytes with
  | nil => rfl
  | cons b rest ih =>
      have low : b.toNat < 256 := b.toNat_lt
      have first : UInt8.ofNat (b.toNat + 256 * ofLittleEndian rest) = b := by
        apply UInt8.toNat_inj.mp
        rw [UInt8.toNat_ofNat']
        omega
      have others : (b.toNat + 256 * ofLittleEndian rest) / 256 = ofLittleEndian rest := by omega
      rw [List.length_cons, ofLittleEndian, littleEndian, first, others, ih]

end Frame

theorem Address.toList_ofBytes {bytes : List UInt8} (h : bytes.length = 21) :
    ((ofBytes? bytes).getD .zero).bytes.toList = bytes := by
  simp [ofBytes?, h]

namespace ByteValue

def kind : ByteValue → ByteKind
  | .u8 _ => .u8
  | .u16 _ => .u16
  | .i16 _ => .i16
  | .u32 _ => .u32
  | .i32 _ => .i32
  | .address _ => .address
  | .bytes bs => .bytes bs.length

/-- The number that the bytes are, the lowest first. -/
def total (bytes : List UInt8) : Nat := Nat.ofDigits 256 (bytes.map UInt8.toNat)

/-- What the bytes say: a number, a signed one in two's complement, or just themselves. -/
def Tells (bytes : List UInt8) : ByteValue → Prop
  | .u8 n => n.toNat = total bytes
  | .u16 n => n.toNat = total bytes
  | .i16 n => n.toInt = Int.bmod (total bytes) (2 ^ 16)
  | .u32 n => n.toNat = total bytes
  | .i32 n => n.toInt = Int.bmod (total bytes) (2 ^ 32)
  | .address a => a.bytes.toList = bytes
  | .bytes bs => bs = bytes

end ByteValue

namespace ByteKind

variable (kind : ByteKind) {bytes : List UInt8}

theorem kind_value (h : bytes.length = kind.width) : (kind.value bytes).kind = kind := by
  cases kind with
  | bytes n => exact congrArg ByteKind.bytes h
  | u8 | u16 | i16 | u32 | i32 | address => rfl

theorem tells_value (h : bytes.length = kind.width) : (kind.value bytes).Tells bytes := by
  have small := Frame.ofLittleEndian_lt bytes
  have number := Frame.ofLittleEndian_eq_ofDigits bytes
  rw [h] at small
  cases kind with
  | u8 => exact (UInt8.toNat_ofNat_of_lt' small).trans number
  | u16 => exact (UInt16.toNat_ofNat_of_lt' small).trans number
  | i16 =>
      rw [value, ByteValue.Tells, UInt16.toInt16_ofNat', Int16.toInt_ofNat', number]
      rfl
  | u32 => exact (UInt32.toNat_ofNat_of_lt' small).trans number
  | i32 =>
      rw [value, ByteValue.Tells, UInt32.toInt32_ofNat', Int32.toInt_ofNat', number]
      rfl
  | address => exact Address.toList_ofBytes h
  | bytes n => rfl

theorem encode_value (h : bytes.length = kind.width) : (kind.value bytes).encode = bytes := by
  have small := Frame.ofLittleEndian_lt bytes
  have whole := Frame.littleEndian_ofLittleEndian bytes
  rw [h] at small whole
  cases kind with
  | u8 => exact whole
  | u16 =>
      rw [value, ByteValue.encode, UInt16.toNat_ofNat_of_lt' small]
      exact whole
  | i16 =>
      rw [value, ByteValue.encode, UInt16.toUInt16_toInt16, UInt16.toNat_ofNat_of_lt' small]
      exact whole
  | u32 =>
      rw [value, ByteValue.encode, UInt32.toNat_ofNat_of_lt' small]
      exact whole
  | i32 =>
      rw [value, ByteValue.encode, UInt32.toUInt32_toInt32, UInt32.toNat_ofNat_of_lt' small]
      exact whole
  | address => exact Address.toList_ofBytes h
  | bytes n => rfl

end ByteKind

instance : LawfulTape (List UInt8) where
  units data := data
  length_units _ := rfl
  slice_eq _ _ _ _ := rfl

instance : LawfulKind ByteKind where
  units := ByteValue.encode
  units_value kind _ := kind.encode_value

namespace Contract.State

/-- The state is decoded by one read of 21 bytes at the front. -/
theorem ofBytes_eq (data : List UInt8) :
    ofBytes data = (({ tape := data } : Cursor (List UInt8)).take "model_owner" 21).1.map
      fun bytes => ⟨(Address.ofBytes? bytes).getD .zero⟩ := by
  have read : (Reader.take "model_owner" 21).run data = _ :=
    Cursor.run_take_left (c := { tape := data }) (Nat.zero_le _) "model_owner" 21
  rw [ofBytes, Reader.front, reader, Reader.address, StateT.run_map, StateT.run_map, read]
  cases (({ tape := data } : Cursor (List UInt8)).take "model_owner" 21).1 <;> rfl

theorem ofBytes_of_enough {data : List UInt8} (enough : 21 ≤ data.length) :
    ∃ state, ofBytes data = .ok state ∧ state.owner.bytes.toList = data.take 21 := by
  have taken := Cursor.take_of_fits (c := { tape := data }) (Nat.zero_le _) "model_owner" enough
  refine ⟨_, ?_, Address.toList_ofBytes (List.length_take_of_le enough)⟩
  rw [ofBytes_eq, taken]
  rfl

theorem ofBytes_of_short {data : List UInt8} (short : data.length < 21) :
    ofBytes data = .error (.underrun "model_owner" 21 data.length) := by
  have taken := Cursor.take_of_short (c := { tape := data }) "model_owner" short
  rw [ofBytes_eq, taken]
  rfl

theorem ofBytes_cases (data : List UInt8) :
    ((∃ state, ofBytes data = .ok state) ↔ 21 ≤ data.length) ∧
      (∀ state, ofBytes data = .ok state → state.owner.bytes.toList = data.take 21) ∧
      ∀ e, ofBytes data = .error e → e = .underrun "model_owner" 21 data.length := by
  by_cases enough : 21 ≤ data.length
  · obtain ⟨state, decoded, owner⟩ := ofBytes_of_enough enough
    simp [decoded, enough, owner]
  · simp [ofBytes_of_short (Nat.lt_of_not_le enough), enough]

end Contract.State

/-- After any typed reads from bytes, failed ones among them, the place is not beyond the end and
the values read are written as the bytes before it; the next read gives what the bytes at the place
say if there are enough of them, and else leaves the place as it is. So the state of the contract is
there just if its owner is, whatever follows. -/
theorem Cursor.byte_reads_in_bounds (data : List UInt8) (before : List (String × ByteKind)) :
    let (results, c) := ({ tape := data } : Cursor (List UInt8)).reads before
    c.tape = data ∧ c.pos ≤ data.length ∧ c.pos + c.remaining = data.length ∧
      (values results).flatMap ByteValue.encode = data.take c.pos ∧
      (∀ (field : String) (kind : ByteKind), c.Sound field kind fun v =>
        let next := (data.drop c.pos).take kind.width
        next.length = kind.width ∧ v.kind = kind ∧ v.Tells next ∧ v.encode = next) ∧
      ((∃ state, Contract.State.ofBytes data = .ok state) ↔ 21 ≤ data.length) ∧
      (∀ state, Contract.State.ofBytes data = .ok state →
        state.owner.bytes.toList = data.take 21) ∧
      ∀ e, Contract.State.ofBytes data = .error e →
        e = .underrun "model_owner" 21 data.length := by
  have state := Contract.State.ofBytes_cases data
  have run := reads_in_bounds data before (P := fun data pos kind v =>
    let next := (data.drop pos).take kind.width
    next.length = kind.width ∧ v.kind = kind ∧ v.Tells next ∧ v.encode = next) ?means
  case means =>
    intro c kind fits
    have length := length_take_left fits
    exact ⟨length, kind.kind_value length, kind.tells_value length, kind.encode_value length⟩
  generalize ({ tape := data } : Cursor (List UInt8)).reads before = results at run ⊢
  obtain ⟨same, inside, whole, passed, sound⟩ := run
  exact ⟨same, inside, whole, passed, sound, state⟩

/-- A count beyond all bytes fails like any other, and the bytes are still there. -/
example : (({ tape := [0xe8, 0x03, 0xfe, 0xff, 7] } : Cursor (List UInt8)).reads
      [("a", ByteKind.u16), ("b", .bytes 18446744073709551615), ("c", .i16), ("d", .u32)]).1 =
    [.ok (.u16 1000), .error (.underrun "b" 18446744073709551615 3), .ok (.i16 (-2)),
      .error (.underrun "d" 4 1)] := by
  rfl

end SealedTree
