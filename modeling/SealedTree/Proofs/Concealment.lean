import Mathlib.Algebra.Group.Nat.Defs
import SealedTree.Model.Secret
import SealedTree.Proofs.BitWriter
import SealedTree.Proofs.Reading

/-!
Concealing and revealing. Packing bits into bytes loses none of them, each type with a place in a
secret is written value by value and read back from its own bits whatever follows, and so what was
concealed is what a writer makes of the values, and is revealed again.
-/

namespace SealedTree

namespace Bits

theorem toNat_ofNat_of_lt {width n : Nat} (h : n < 2 ^ width) : toNat (ofNat width n) = n :=
  (toNat_ofNat width n).trans (Nat.mod_eq_of_lt h)

theorem ofNat_zero (width : Nat) : ofNat width 0 = List.replicate width false := by
  induction width with
  | zero => rfl
  | succ width ih => simp [ofNat, ih, List.replicate_succ]

theorem ofNat_toNat_cons (width : Nat) (b : Bool) (rest : List Bool) :
    ofNat (width + 1) (toNat (b :: rest)) = b :: ofNat width (toNat rest) := by
  have half : (b.toNat + 2 * toNat rest) / 2 = toNat rest := by
    have := b.toNat_lt
    omega
  simp only [toNat, ofNat, half, Nat.add_mul_mod_self_left]
  cases b <;> rfl

theorem ofNat_toNat_of_le (bits : List Bool) (width : Nat) (h : bits.length ≤ width) :
    ofNat width (toNat bits) = bits ++ List.replicate (width - bits.length) false := by
  induction bits generalizing width with
  | nil => exact ofNat_zero width
  | cons b rest ih =>
      obtain ⟨width, rfl⟩ : ∃ w, width = w + 1 := ⟨width - 1, by simp at h; omega⟩
      simp only [List.length_cons, Nat.add_le_add_iff_right] at h
      rw [ofNat_toNat_cons, ih width h, List.length_cons, Nat.add_sub_add_right, List.cons_append]

theorem toNat_ofNat_toNat_of_le (bits : List Bool) (h : bits.length ≤ 8) :
    (UInt8.ofNat (toNat bits)).toNat = toNat bits := by
  have small := toNat_lt bits
  have bound : Nat.pow 2 bits.length ≤ 2 ^ 8 := Nat.pow_le_pow_right Nat.two_pos h
  rw [UInt8.toNat_ofNat', Nat.mod_eq_of_lt (Nat.lt_of_lt_of_le small bound)]

/-- Unpacking gives back the bits that were packed, and then zeros. -/
theorem unpack_pack (bits : List Bool) :
    ∃ n, unpack (pack bits) = bits ++ List.replicate n false := by
  fun_induction pack bits with
  | case1 => exact ⟨0, rfl⟩
  | case2 b rest ih =>
      have chunk : ((b :: rest).take 8).length ≤ 8 := List.length_take_le ..
      obtain ⟨n, behind⟩ := ih
      simp only [unpack, List.flatMap_cons] at behind ⊢
      rw [toNat_ofNat_toNat_of_le _ chunk, ofNat_toNat_of_le _ 8 chunk, behind]
      -- Only the last byte is filled up, and the zeros in it stand behind all bits.
      by_cases h : rest.length ≤ 7
      · have whole : (b :: rest).take 8 = b :: rest :=
          List.take_of_length_le (by rw [List.length_cons]; omega)
        have nothing : rest.drop 7 = [] := List.drop_of_length_le h
        rw [whole, nothing, List.nil_append, List.append_assoc,
          List.replicate_append_replicate]
        exact ⟨_, rfl⟩
      · have full : ((b :: rest).take 8).length = 8 := by
          rw [List.length_take, List.length_cons]
          omega
        have split : (b :: rest).take 8 ++ rest.drop 7 = b :: rest :=
          List.take_append_drop 8 (b :: rest)
        rw [full, Nat.sub_self, List.replicate_zero, List.append_nil, ← List.append_assoc, split]
        exact ⟨n, rfl⟩

end Bits

namespace SecretBits

@[simp] theorem bits_ofBits (bits : List Bool) : (ofBits bits).bits = bits := by
  obtain ⟨n, unpacked⟩ := Bits.unpack_pack bits
  rw [SecretBits.bits, ofBits, unpacked, List.take_left]

/-- Bytes and a number of bits are all that a secret is. -/
theorem ofBytes_bytes_len (s : SecretBits) : ofBytes s.bytes s.len = .ok s := by
  simp [ofBytes, s.fits]

end SecretBits

theorem BitKind.value_bits (v : BitValue) : v.kind.value v.bits = v := by
  cases v with
  | bool b => cases b <;> rfl
  | u8 n => simp [value, BitValue.kind, BitValue.bits, Bits.toNat_ofNat_of_lt n.toNat_lt]
  | i16 n =>
      simp [value, BitValue.kind, BitValue.bits, Bits.toNat_ofNat_of_lt n.toUInt16.toNat_lt]
  | u16 n => simp [value, BitValue.kind, BitValue.bits, Bits.toNat_ofNat_of_lt n.toNat_lt]
  | u32 n => simp [value, BitValue.kind, BitValue.bits, Bits.toNat_ofNat_of_lt n.toNat_lt]

namespace Reader

theorem reads_bool (field : String) (b : Bool) : Reads (bool field) [b] b := by
  have read := (Reads.take field (BitValue.length_bits (.bool b))).map (Bits.toNat · == 1)
  rwa [BitValue.bool.inj (BitKind.value_bits (.bool b))] at read

theorem reads_uint8 (field : String) (n : UInt8) :
    Reads (uint8 field) (BitValue.u8 n).bits n := by
  have read := (Reads.take field (BitValue.length_bits (.u8 n))).map
    fun bits => UInt8.ofNat (Bits.toNat bits)
  rwa [BitValue.u8.inj (BitKind.value_bits (.u8 n))] at read

theorem reads_int16 (field : String) (n : Int16) :
    Reads (int16 field) (BitValue.i16 n).bits n := by
  have read := (Reads.take field (BitValue.length_bits (.i16 n))).map
    fun bits => (UInt16.ofNat (Bits.toNat bits)).toInt16
  rwa [BitValue.i16.inj (BitKind.value_bits (.i16 n))] at read

end Reader

/-- A layout that is read the way it is written, and as wide as it says. -/
class LawfulLayout (α : Type) [SecretLayout α] : Prop where
  length_bits (a : α) : (SecretLayout.bits a).length = SecretLayout.width α
  reads_bits (a : α) : Reader.Reads SecretLayout.reader (SecretLayout.bits a) a

theorem length_flatMap_toList {α τ : Type} {n width : Nat} {units : α → List τ}
    (h : ∀ a, (units a).length = width) (v : Vector α n) :
    (v.toList.flatMap units).length = n * width := by
  simp only [List.length_flatMap, h, List.map_const', List.sum_replicate_nat,
    Vector.length_toList]

instance : LawfulLayout Vertex where
  length_bits v := by
    simp [SecretLayout.bits, SecretLayout.width, BitValue.length_bits, BitValue.kind,
      BitKind.width]
  reads_bits v := by
    have threshold := (Reader.reads_int16 "threshold" v.threshold).map (Vertex.mk v.feature)
    exact (Reader.reads_uint8 "feature" v.feature).bind threshold

instance : LawfulLayout Leaf where
  length_bits leaf := by simp [SecretLayout.bits, SecretLayout.width]
  reads_bits leaf := by
    have read := (Reader.Reads.vector (Reader.reads_bool "classification") leaf.classes).map
      Leaf.mk
    rwa [List.flatMap_singleton'] at read

instance : LawfulLayout Model where
  length_bits m := by
    have vertices := length_flatMap_toList LawfulLayout.length_bits m.vertices
    have leaves := length_flatMap_toList LawfulLayout.length_bits m.leaves
    refine List.length_append.trans ?_
    rw [vertices, leaves]
    rfl
  reads_bits m := by
    have vertices := Reader.Reads.vector LawfulLayout.reads_bits m.vertices
    have leaves := Reader.Reads.vector LawfulLayout.reads_bits m.leaves
    exact vertices.bind (leaves.map (Model.mk m.vertices))

instance : LawfulLayout Sample where
  length_bits s := length_flatMap_toList (fun n => BitValue.length_bits (.i16 n)) s.answers
  reads_bits s := (Reader.Reads.vector (Reader.reads_int16 "sample") s.answers).map Sample.mk

/-- A layout that is nothing but typed values, one after the other. -/
class WrittenLayout (α : Type) [SecretLayout α] where
  values : α → List BitValue
  bits_eq (a : α) : SecretLayout.bits a = (values a).flatMap BitValue.bits

instance : WrittenLayout Vertex where
  values v := [.u8 v.feature, .i16 v.threshold]
  bits_eq v := by simp [SecretLayout.bits]

instance : WrittenLayout Leaf where
  values leaf := leaf.classes.toList.map .bool
  bits_eq leaf := by simp [SecretLayout.bits, List.flatMap_map, BitValue.bits]

instance : WrittenLayout Model where
  values m :=
    m.vertices.toList.flatMap WrittenLayout.values ++ m.leaves.toList.flatMap WrittenLayout.values
  bits_eq m := by
    rw [List.flatMap_append, List.flatMap_assoc, List.flatMap_assoc]
    simp only [← WrittenLayout.bits_eq]
    rfl

instance : WrittenLayout Sample where
  values s := s.answers.toList.map .i16
  bits_eq s := by rw [List.flatMap_map]; rfl

section Concealment

variable {α : Type} [SecretLayout α]

/-- What is concealed is what a writer makes of the values. -/
theorem conceal_eq_ofValues [WrittenLayout α] (a : α) :
    conceal a = .ofValues (WrittenLayout.values a) := by
  rw [SecretBits.ofValues_eq, conceal, WrittenLayout.bits_eq]

variable [LawfulLayout α]

@[simp] theorem len_conceal (a : α) : (conceal a).len = SecretLayout.width α :=
  LawfulLayout.length_bits a

theorem reveal_conceal (a : α) : reveal α (conceal a) = .ok a := by
  have read := (LawfulLayout.reads_bits a).front []
  rwa [List.append_nil, ← SecretBits.bits_ofBits (SecretLayout.bits a)] at read

theorem conceal_injective {a b : α} (h : conceal a = conceal b) : a = b := by
  have revealed : (Except.ok a : Except PayloadError α) = .ok b := by
    rw [← reveal_conceal a, h, reveal_conceal]
  exact Except.ok.inj revealed

end Concealment

end SealedTree
