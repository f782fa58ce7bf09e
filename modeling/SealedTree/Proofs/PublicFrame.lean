import Mathlib.Algebra.Group.Nat.Defs
import SealedTree.Proofs.Reading
import SealedTree.Request

/-!
Public frames read with the highest byte first. Every number of a frame is read back from its own
bytes, so the frame of a call gives the tag, the numbers and the address that it was made of and
nothing is left over, and no two calls have one frame.
-/

namespace SealedTree

namespace Frame

@[simp] theorem length_bigEndian (count n : Nat) : (bigEndian count n).length = count := by
  induction count generalizing n with
  | zero => rfl
  | succ count ih => simp [bigEndian, ih]

theorem ofBigEndian_append (bytes : List UInt8) (b : UInt8) :
    ofBigEndian (bytes ++ [b]) = 256 * ofBigEndian bytes + b.toNat := by
  simp [ofBigEndian]

theorem ofBigEndian_bigEndian (count n : Nat) :
    ofBigEndian (bigEndian count n) = n % 256 ^ count := by
  induction count generalizing n with
  | zero => simp [bigEndian, ofBigEndian, Nat.mod_one]
  | succ count ih =>
      have last : (UInt8.ofNat n).toNat = n % 256 := UInt8.toNat_ofNat'
      rw [bigEndian, ofBigEndian_append, ih, last, Nat.pow_succ, Nat.mul_comm (256 ^ count) 256,
        Nat.mod_mul]
      omega

theorem ofBigEndian_bigEndian_of_lt {count n : Nat} (h : n < 256 ^ count) :
    ofBigEndian (bigEndian count n) = n :=
  (ofBigEndian_bigEndian count n).trans (Nat.mod_eq_of_lt h)

/-- A number of so many bytes. -/
def number (field : String) (count : Nat) : Reader UInt8 Nat :=
  ofBigEndian <$> Reader.take field count

def uint8 (field : String) : Reader UInt8 UInt8 := UInt8.ofNat <$> number field 1

def uint16 (field : String) : Reader UInt8 UInt16 := UInt16.ofNat <$> number field 2

def uint32 (field : String) : Reader UInt8 UInt32 := UInt32.ofNat <$> number field 4

def int32 (field : String) : Reader UInt8 Int32 := UInt32.toInt32 <$> uint32 field

/-- What the frame of an upload says: its tag, the number of scaling factors, and as many
factors. -/
def upload : Reader UInt8 (UInt8 × Int32 × List UInt16) := do
  let tag ← uint8 "shortname"
  let count ← int32 "count"
  let scaling ← (uint16 "scaling").vector count.toInt.toNat
  pure (tag, count, scaling.toList)

/-- What the frame of a sample says: its tag, the model and the receiver. -/
def sample : Reader UInt8 (UInt8 × UInt32 × Address) := do
  let tag ← uint8 "shortname"
  let model ← uint32 "model"
  let receiver ← Reader.address "receiver"
  pure (tag, model, receiver)

open Reader

theorem reads_number (field : String) {count n : Nat} (h : n < 256 ^ count) :
    Reads (number field count) (bigEndian count n) n := by
  have read := (Reads.take field (length_bigEndian count n)).map ofBigEndian
  rwa [ofBigEndian_bigEndian_of_lt h] at read

theorem reads_uint8 (field : String) (n : UInt8) :
    Reads (uint8 field) (FrameField.u8 n).encode n := by
  have small : n.toNat < 256 ^ 1 := n.toNat_lt
  have read := (reads_number field small).map UInt8.ofNat
  rwa [bigEndian, bigEndian, List.nil_append, UInt8.ofNat_toNat] at read

theorem reads_uint16 (field : String) (n : UInt16) :
    Reads (uint16 field) (FrameField.u16 n).encode n := by
  have small : n.toNat < 256 ^ 2 := n.toNat_lt
  have read := (reads_number field small).map UInt16.ofNat
  rwa [UInt16.ofNat_toNat] at read

theorem reads_uint32 (field : String) (n : UInt32) :
    Reads (uint32 field) (FrameField.u32 n).encode n := by
  have small : n.toNat < 256 ^ 4 := n.toNat_lt
  have read := (reads_number field small).map UInt32.ofNat
  rwa [UInt32.ofNat_toNat] at read

theorem reads_int32 (field : String) (n : Int32) :
    Reads (int32 field) (FrameField.i32 n).encode n :=
  (reads_uint32 field n.toUInt32).map UInt32.toInt32

theorem reads_address (field : String) (a : Address) :
    Reads (Reader.address field) (FrameField.address a).encode a := by
  have read := (Reads.take field a.bytes.length_toList).map
    fun bytes => (Address.ofBytes? bytes).getD .zero
  rwa [Address.ofBytes?_toList] at read

theorem reads_upload (tag : UInt8) (scaling : List UInt16) (h : scaling.length < 2 ^ 31) :
    Reads upload
      (ofFields (.u8 tag :: .i32 (Int32.ofNat scaling.length) :: scaling.map .u16))
      (tag, Int32.ofNat scaling.length, scaling) := by
  have count : scaling.length = (Int32.ofNat scaling.length).toInt.toNat := by
    rw [Int32.toInt_ofNat_of_lt h, Int.toNat_natCast]
  let factors : Vector UInt16 (Int32.ofNat scaling.length).toInt.toNat :=
    ⟨scaling.toArray, by rw [List.size_toArray, ← count]⟩
  have tail := (Reads.vector (reads_uint16 "scaling") factors).map
    fun factors => (tag, Int32.ofNat scaling.length, factors.toList)
  have read : Reads upload _ _ :=
    (reads_uint8 "shortname" tag).bind ((reads_int32 "count" _).bind tail)
  simpa [factors, ofFields, List.flatMap_map] using read

theorem reads_sample (tag : UInt8) (model : UInt32) (receiver : Address) :
    Reads sample (ofFields [.u8 tag, .u32 model, .address receiver]) (tag, model, receiver) := by
  have tail := (reads_address "receiver" receiver).map fun receiver => (tag, model, receiver)
  have read : Reads sample _ _ :=
    (reads_uint8 "shortname" tag).bind ((reads_uint32 "model" model).bind tail)
  simpa [ofFields] using read

end Frame

namespace PublicCall

open SealedTree.Frame

theorem shorts?_encode (ns : List UInt16) :
    shorts? (ns.flatMap fun n => (FrameField.u16 n).encode) = some ns := by
  induction ns with
  | nil => rfl
  | cons n rest ih =>
      obtain ⟨hi, lo, pair⟩ : ∃ hi lo, (FrameField.u16 n).encode = [hi, lo] := ⟨_, _, rfl⟩
      have value : ofBigEndian [hi, lo] = n.toNat :=
        pair ▸ ofBigEndian_bigEndian_of_lt n.toNat_lt
      rw [List.flatMap_cons, pair, List.cons_append, List.cons_append, List.nil_append, shorts?,
        ih, value, UInt16.ofNat_toNat]
      rfl

theorem frame_addModel {scaling : List UInt16} (h : scaling.length < 2 ^ 31) :
    (addModel scaling).frame =
      .ok (ofFields (.u8 0x40 :: .i32 (Int32.ofNat scaling.length) :: scaling.map .u16)) :=
  if_pos h

theorem ofFrame?_addModel {scaling : List UInt16} (h : scaling.length < 2 ^ 31) :
    ofFrame? (ofFields (.u8 0x40 :: .i32 (Int32.ofNat scaling.length) :: scaling.map .u16)) =
      some (addModel scaling) := by
  have size : (Int32.ofNat scaling.length).toUInt32.toNat = scaling.length := by
    rw [Int32.toUInt32_ofNat', UInt32.toNat_ofNat_of_lt' (Nat.lt_trans h (by decide))]
  -- Frames are matched byte by byte, so the four bytes of the count get names.
  obtain ⟨a, b, c, d, count⟩ : ∃ a b c d,
    bigEndian 4 (Int32.ofNat scaling.length).toUInt32.toNat = [a, b, c, d] := ⟨_, _, _, _, rfl⟩
  have value : ofBigEndian [a, b, c, d] = scaling.length := by
    rw [← count, ofBigEndian_bigEndian_of_lt (UInt32.toNat_lt _), size]
  have factors : shorts? ((scaling.map .u16).flatMap FrameField.encode) = some scaling := by
    rw [List.flatMap_map]
    exact shorts?_encode scaling
  change ofFrame? (0x40 :: (bigEndian 4 _ ++ (scaling.map .u16).flatMap FrameField.encode)) = _
  rw [count]
  change ((shorts? ((scaling.map .u16).flatMap FrameField.encode)).bind fun scaling =>
    if ofBigEndian [a, b, c, d] = scaling.length then some (addModel scaling) else none) = _
  rw [factors]
  exact if_pos value

theorem ofFrame?_addSample (model : SecretId) (receiver : Address) :
    ofFrame? (ofFields [.u8 0x41, .u32 model.raw, .address receiver]) =
      some (addSample model receiver) := by
  obtain ⟨a, b, c, d, raw⟩ : ∃ a b c d, bigEndian 4 model.raw.toNat = [a, b, c, d] :=
    ⟨_, _, _, _, rfl⟩
  have value : ofBigEndian [a, b, c, d] = model.raw.toNat := by
    rw [← raw, ofBigEndian_bigEndian_of_lt model.raw.toNat_lt]
  change ofFrame? (0x41 :: (bigEndian 4 _ ++ (receiver.bytes.toList ++ []))) = _
  rw [raw, List.append_nil]
  change (Address.ofBytes? receiver.bytes.toList).map
    (addSample ⟨UInt32.ofNat (ofBigEndian [a, b, c, d])⟩) = _
  rw [Address.ofBytes?_toList, value, UInt32.ofNat_toNat]
  rfl

/-- The frame of a call stands for that call and no other. -/
theorem ofFrame?_frame {call : PublicCall} {bytes : List UInt8} (h : call.frame = .ok bytes) :
    ofFrame? bytes = some call := by
  cases call with
  | addModel scaling =>
      by_cases few : scaling.length < 2 ^ 31
      · obtain rfl := Except.ok.inj ((frame_addModel few).symm.trans h)
        exact ofFrame?_addModel few
      · have refused : (addModel scaling).frame =
            .error (.outOfRange "scaling_conversion" scaling.length) := if_neg few
        cases refused.symm.trans h
  | addSample model receiver =>
      obtain rfl := Except.ok.inj h
      exact ofFrame?_addSample model receiver

theorem frame_injective {c d : PublicCall} {frame : List UInt8} (hc : c.frame = .ok frame)
    (hd : d.frame = .ok frame) : c = d :=
  Option.some.inj ((ofFrame?_frame hc).symm.trans (ofFrame?_frame hd))

end PublicCall

end SealedTree
