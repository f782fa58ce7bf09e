import Mathlib.Tactic.Ring
import SealedTree.SecretBits

/-!
Writing into a secret. Whatever a writer was given, its bytes are the packed bits of all of it: that
is the invariant, one bit at a time, and a value is nothing but its bits.
-/

namespace SealedTree

namespace Bits

theorem ofNat_eq_map_testBit (width n : Nat) :
    ofNat width n = (List.range width).map n.testBit := by
  induction width generalizing n with
  | zero => rfl
  | succ width ih =>
      have later : n.testBit ∘ Nat.succ = (n / 2).testBit :=
        funext fun i => Nat.testBit_succ n i
      rw [ofNat, ih, List.range_succ_eq_map, List.map_cons, List.map_map, later, Nat.testBit_zero]
      rfl

theorem toNat_append_singleton (bits : List Bool) (b : Bool) :
    toNat (bits ++ [b]) = toNat bits + 2 ^ bits.length * b.toNat := by
  induction bits with
  | nil => simp [toNat]
  | cons c rest ih =>
      rw [List.cons_append, toNat, toNat, ih, List.length_cons, Nat.pow_succ]
      ring

theorem pack_of_length_le {bits : List Bool} (some : bits ≠ []) (le : bits.length ≤ 8) :
    pack bits = [UInt8.ofNat (toNat bits)] := by
  cases bits with
  | nil => exact absurd rfl some
  | cons b rest =>
      rw [List.length_cons] at le
      rw [pack, List.take_of_length_le (by rwa [List.length_cons]),
        List.drop_of_length_le (by omega), pack]

/-- Whole bytes are packed by themselves. -/
theorem pack_append {front : List Bool} (whole : 8 ∣ front.length) (back : List Bool) :
    pack (front ++ back) = pack front ++ pack back := by
  fun_induction pack front with
  | case1 => rfl
  | case2 b rest ih =>
      rw [List.length_cons] at whole
      have full : 7 ≤ rest.length := by omega
      have chunk : (b :: (rest ++ back)).take 8 = (b :: rest).take 8 := by
        rw [List.take_succ_cons, List.take_succ_cons, List.take_append_of_le_length full]
      rw [List.cons_append, pack, chunk, List.drop_append_of_le_length full,
        ih (by rw [List.length_drop]; omega), List.cons_append]

theorem shiftLeft_ofNat {i : Nat} (h : i < 8) :
    (1 <<< UInt8.ofNat i : UInt8) = UInt8.ofNat (2 ^ i) := by
  apply UInt8.toNat_inj.mp
  rw [UInt8.toNat_shiftLeft, UInt8.toNat_ofNat', UInt8.toNat_ofNat', UInt8.toNat_one,
    Nat.mod_eq_of_lt (by omega : i < 2 ^ 8), Nat.mod_eq_of_lt h, Nat.one_shiftLeft]

/-- A byte with room for another bit, after a bit that is set. -/
theorem or_shiftLeft_toNat {bits : List Bool} (room : bits.length < 8) :
    UInt8.ofNat (toNat bits) ||| 1 <<< UInt8.ofNat bits.length =
      UInt8.ofNat (toNat (bits ++ [true])) := by
  have low : toNat bits < 2 ^ bits.length := toNat_lt bits
  have sum := Nat.two_pow_add_eq_or_of_lt low 1
  rw [Nat.mul_one] at sum
  rw [shiftLeft_ofNat room, ← UInt8.ofNat_or, toNat_append_singleton, Nat.or_comm, ← sum,
    Bool.toNat_true, Nat.mul_one, Nat.add_comm]

end Bits

namespace BitWriter

/-- What has been written is all of these bits and nothing else. -/
structure Holds (w : BitWriter) (bits : List Bool) : Prop where
  bytes : w.bytes.toList = Bits.pack bits
  len : w.len = bits.length

theorem holds_empty : Holds {} [] := ⟨Bits.pack.eq_1.symm, rfl⟩

/-- The bytes from which the next bit goes into the last one. -/
theorem Holds.opened {w : BitWriter} {bits : List Bool} (h : w.Holds bits) :
    ∃ front back, bits = front ++ back ∧ 8 ∣ front.length ∧ back.length = w.len % 8 ∧
      (opened w.bytes w.len).toList = Bits.pack front ++ [UInt8.ofNat (Bits.toNat back)] := by
  have whole : (bits.take (8 * (w.len / 8))).length = 8 * (w.len / 8) := by
    rw [List.length_take, ← h.len]
    omega
  have rest : (bits.drop (8 * (w.len / 8))).length = w.len % 8 := by
    rw [List.length_drop, ← h.len]
    omega
  refine ⟨_, _, (List.take_append_drop (8 * (w.len / 8)) bits).symm, ⟨_, whole⟩, rest, ?_⟩
  have parts := Bits.pack_append ⟨_, whole⟩ (bits.drop (8 * (w.len / 8)))
  rw [List.take_append_drop, ← h.bytes] at parts
  rw [BitWriter.opened]
  split
  · next full =>
      rw [full] at rest
      rw [List.eq_nil_of_length_eq_zero rest, Bits.pack, List.append_nil] at parts
      rw [Array.toList_push, parts, List.eq_nil_of_length_eq_zero rest]
      rfl
  · next room =>
      have some : bits.drop (8 * (w.len / 8)) ≠ [] := List.ne_nil_of_length_pos (by omega)
      rw [parts, Bits.pack_of_length_le some (by omega)]

theorem toList_pushed_true (bytes : Array UInt8) (len : Nat) {front : List UInt8} {last : UInt8}
    (h : (opened bytes len).toList = front ++ [last]) :
    (pushed bytes len true).toList = front ++ [last ||| 1 <<< UInt8.ofNat (len % 8)] := by
  have size : (BitWriter.opened bytes len).size - 1 = front.length := by
    rw [← Array.length_toList, h, List.length_append, List.length_singleton, Nat.add_sub_cancel]
  rw [pushed, if_pos rfl, Array.toList_modify, h, size, List.modify_eq_take_drop, List.take_left,
    List.drop_left, List.modifyHead_cons]

theorem Holds.push {w : BitWriter} {bits : List Bool} (h : w.Holds bits) (b : Bool) :
    (w.push b).Holds (bits ++ [b]) where
  len := by
    rw [List.length_append, ← h.len]
    rfl
  bytes := by
    obtain ⟨front, back, rfl, whole, room, opened⟩ := h.opened
    have short : (back ++ [b]).length ≤ 8 := by
      rw [List.length_append, List.length_singleton]
      omega
    rw [List.append_assoc, Bits.pack_append whole, Bits.pack_of_length_le (by simp) short]
    change (pushed w.bytes w.len b).toList = _
    cases b with
    | false =>
        rw [Bits.toNat_append_singleton]
        exact opened
    | true =>
        rw [toList_pushed_true w.bytes w.len opened, ← room, Bits.or_shiftLeft_toNat (by omega)]

theorem Holds.pushes {w : BitWriter} {bits : List Bool} (h : w.Holds bits) (more : List Bool) :
    (more.foldl BitWriter.push w).Holds (bits ++ more) := by
  induction more generalizing w bits with
  | nil => rwa [List.append_nil]
  | cons b rest ih =>
      rw [List.append_cons]
      exact ih (h.push b)

/-- A value is nothing but its bits. -/
theorem write_eq (w : BitWriter) (v : BitValue) : w.write v = v.bits.foldl push w := by
  cases v <;>
    simp only [write, writeBits, BitValue.bits, Bits.ofNat_eq_map_testBit, List.foldl_map,
      List.foldl_cons, List.foldl_nil]

theorem Holds.writes {w : BitWriter} {bits : List Bool} (h : w.Holds bits)
    (values : List BitValue) :
    (values.foldl write w).Holds (bits ++ values.flatMap BitValue.bits) := by
  induction values generalizing w bits with
  | nil => rwa [List.flatMap_nil, List.append_nil]
  | cons v rest ih =>
      rw [List.foldl_cons, List.flatMap_cons, ← List.append_assoc, write_eq]
      exact ih (h.pushes v.bits)

theorem Holds.finish {w : BitWriter} {bits : List Bool} (h : w.Holds bits) :
    w.finish = SecretBits.ofBits bits := by
  rw [SecretBits.ofBits, BitWriter.finish, SecretBits.mk.injEq]
  exact ⟨h.bytes, h.len⟩

end BitWriter

/-- Writing values one after the other packs their bits. -/
theorem SecretBits.ofValues_eq (values : List BitValue) :
    ofValues values = ofBits (values.flatMap BitValue.bits) :=
  (BitWriter.holds_empty.writes values).finish

end SealedTree
