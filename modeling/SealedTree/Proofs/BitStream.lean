import Mathlib.Data.Int.Bitwise
import SealedTree.Proofs.Concealment

/-!
Typed values in a secret. Each stands there as the lowest bits of its number in two's complement,
without a gap before the next one; a bit is found by its place among the bytes, and readers of the
same kinds give the values back.
-/

namespace SealedTree

namespace BitValue

/-- The number that a value is; a flag counts as zero or one. -/
def number : BitValue → Int
  | .bool b => b.toNat
  | .u8 n => n.toNat
  | .i16 n => n.toInt
  | .u16 n => n.toNat
  | .u32 n => n.toNat

/-- A signed number of 16 bits and the unsigned one that stands for it have the same low bits. -/
theorem testBit_toInt (n : Int16) {i : Nat} (h : i < 16) :
    n.toInt.testBit i = n.toUInt16.toNat.testBit i := by
  have small : n.toUInt16.toNat < 2 ^ 16 := n.toUInt16.toNat_lt
  have signed : n.toInt = if 2 * n.toUInt16.toNat < 2 ^ 16 then (n.toUInt16.toNat : Int)
      else n.toUInt16.toNat - (2 ^ 16 : Nat) := BitVec.toInt_eq_toNat_cond n.toBitVec
  rw [signed]
  split
  · rfl
  · have negative : (n.toUInt16.toNat : Int) - (2 ^ 16 : Nat) =
        .negSucc (2 ^ 16 - (n.toUInt16.toNat + 1)) := by
      rw [Int.negSucc_eq]
      omega
    rw [negative, Int.testBit, Nat.testBit_two_pow_sub_succ small, decide_eq_true h,
      Bool.true_and, Bool.not_not]

/-- The bits of a value are the lowest ones of its number in two's complement. -/
theorem bits_eq (v : BitValue) : v.bits = (List.range v.kind.width).map v.number.testBit := by
  cases v with
  | bool b => cases b <;> rfl
  | u8 n => exact Bits.ofNat_eq_map_testBit 8 n.toNat
  | u16 n => exact Bits.ofNat_eq_map_testBit 16 n.toNat
  | u32 n => exact Bits.ofNat_eq_map_testBit 32 n.toNat
  | i16 n =>
      refine (Bits.ofNat_eq_map_testBit 16 n.toUInt16.toNat).trans (List.map_congr_left ?_)
      exact fun i inside => (testBit_toInt n (List.mem_range.mp inside)).symm

end BitValue

namespace SecretBits

theorem bits_ofValues (values : List BitValue) :
    (ofValues values).bits = values.flatMap BitValue.bits := by
  rw [ofValues_eq, bits_ofBits]

end SecretBits

namespace Bits

theorem getElem?_unpack (bytes : List UInt8) (i : Nat) :
    (unpack bytes)[i]? = bytes[i / 8]?.map fun byte => byte.toNat.testBit (i % 8) := by
  induction bytes generalizing i with
  | nil => rfl
  | cons b rest ih =>
      rw [unpack, List.flatMap_cons, ← unpack]
      by_cases first : i < 8
      · rw [List.getElem?_append_left (by rwa [length_ofNat]), ofNat_eq_map_testBit,
          List.getElem?_map, List.getElem?_range first, Nat.div_eq_of_lt first,
          Nat.mod_eq_of_lt first]
        rfl
      · have later : i / 8 = (i - 8) / 8 + 1 := by omega
        have place : (i - 8) % 8 = i % 8 := by omega
        rw [List.getElem?_append_right (by rw [length_ofNat]; omega), length_ofNat, ih, later,
          place, List.getElem?_cons_succ]

theorem shiftRight_and_one (byte : UInt8) {i : Nat} (h : i < 8) :
    (byte >>> UInt8.ofNat i &&& 1 == 1) = byte.toNat.testBit i := by
  have shifted : (byte >>> UInt8.ofNat i &&& 1).toNat = byte.toNat / 2 ^ i % 2 := by
    rw [UInt8.toNat_and, UInt8.toNat_shiftRight, UInt8.toNat_ofNat',
      Nat.mod_eq_of_lt (by omega : i < 2 ^ 8), Nat.mod_eq_of_lt h, UInt8.toNat_one,
      Nat.and_one_is_mod, Nat.shiftRight_eq_div_pow]
  rw [Nat.testBit_eq_decide_div_mod_eq, ← shifted, Bool.beq_eq_decide_eq]
  exact decide_eq_decide.mpr UInt8.toNat_inj.symm

end Bits

/-- A bit is found at its place among the bytes. -/
theorem SecretBits.bit?_eq (s : SecretBits) (i : Nat) : s.bit? i = s.bits[i]? := by
  have place : (fun byte : UInt8 => byte >>> UInt8.ofNat (i % 8) &&& 1 == 1) =
      fun byte => byte.toNat.testBit (i % 8) :=
    funext fun byte => Bits.shiftRight_and_one byte (Nat.mod_lt i (by decide))
  rw [bit?, bits, place, ← Bits.getElem?_unpack]
  split
  · next inside => rw [List.getElem?_take_of_lt inside]
  · next outside => rw [List.getElem?_take_eq_none (Nat.le_of_not_lt outside)]

namespace Reader

theorem reads_bitValue (field : String) (v : BitValue) :
    Reads (bitValue field v.kind) v.bits v := by
  have read := (Reads.take field v.length_bits).map v.kind.value
  rwa [BitKind.value_bits] at read

theorem reads_values (fields : List (String × BitValue)) :
    Reads (fields.mapM fun f => bitValue f.1 f.2.kind)
      ((fields.map Prod.snd).flatMap BitValue.bits) (fields.map Prod.snd) := by
  induction fields with
  | nil => exact Reads.pure []
  | cons f rest ih =>
      have later := ih.map (f.2 :: ·)
      rw [map_eq_pure_bind] at later
      rw [List.mapM_cons]
      exact (reads_bitValue f.1 f.2).bind later

end Reader

end SealedTree
