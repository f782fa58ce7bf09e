import SealedTree.Proofs.RequestTransport
import SealedTree.Proofs.Revealing
import SealedTree.Proofs.WireDocuments

/-!
The bits in the bytes of a secret that do not count. A writer leaves none of them set and begins no
byte that it does not need, so what is written has one form only. Bytes that come from elsewhere are
kept as they are: they are in that form just if they were given in it. Secrets that hold the same
bits are the same, and are sent as the same text, just if what does not count is the same too.
-/

namespace SealedTree

namespace Bits

theorem pack_unpack (bytes : List UInt8) : pack (unpack bytes) = bytes := by
  induction bytes with
  | nil => exact pack.eq_1
  | cons b rest ih =>
      have whole : 8 ∣ (ofNat 8 b.toNat).length := by rw [length_ofNat]
      have some : ofNat 8 b.toNat ≠ [] := List.ne_nil_of_length_pos (by rw [length_ofNat]; decide)
      rw [unpack, List.flatMap_cons, ← unpack, pack_append whole, ih,
        pack_of_length_le some (by rw [length_ofNat]), toNat_ofNat_of_lt b.toNat_lt,
        UInt8.ofNat_toNat, List.singleton_append]

theorem unpack_injective {xs ys : List UInt8} (h : unpack xs = unpack ys) : xs = ys := by
  rw [← pack_unpack xs, h, pack_unpack]

end Bits

namespace SecretBits

/-- No bit is set in the bytes from the place `len` on. -/
def ZeroFrom (bytes : List UInt8) (len : Nat) : Prop :=
  ∀ i, len ≤ i → ∀ byte, bytes[i / 8]? = some byte → byte.toNat.testBit (i % 8) = false

/-- The bytes are as many as the bits need, and nothing is set behind the bits. -/
structure Tidy (bytes : List UInt8) (len : Nat) : Prop where
  zero : ZeroFrom bytes len
  length : bytes.length = (len + 7) / 8

/-- The one form of a secret with these bits. -/
def Canonical (s : SecretBits) : Prop := Tidy s.bytes s.len

/-- What the bytes hold behind the bits. -/
def padding (s : SecretBits) : List Bool := (Bits.unpack s.bytes).drop s.len

theorem bits_append_padding (s : SecretBits) : s.bits ++ s.padding = Bits.unpack s.bytes :=
  List.take_append_drop s.len _

theorem length_padding (s : SecretBits) : s.padding.length = 8 * s.bytes.length - s.len := by
  rw [padding, List.length_drop, Bits.length_unpack]

theorem zeroFrom_iff {bytes : List UInt8} {len : Nat} :
    ZeroFrom bytes len ↔ ∀ b ∈ (Bits.unpack bytes).drop len, b = false := by
  constructor
  · intro zero b inside
    obtain ⟨i, there⟩ := List.mem_iff_getElem?.mp inside
    rw [List.getElem?_drop, Bits.getElem?_unpack, Option.map_eq_some_iff] at there
    obtain ⟨byte, held, rfl⟩ := there
    exact zero (len + i) (Nat.le_add_right len i) byte held
  · intro zero i behind byte held
    refine zero _ (List.mem_iff_getElem?.mpr ⟨i - len, ?_⟩)
    rw [List.getElem?_drop, Nat.add_sub_cancel' behind, Bits.getElem?_unpack, held]
    rfl

theorem Canonical.padding_eq {s : SecretBits} (h : s.Canonical) :
    s.padding = List.replicate (8 * ((s.len + 7) / 8) - s.len) false := by
  rw [List.eq_replicate_iff, length_padding, h.length]
  exact ⟨rfl, zeroFrom_iff.mp h.zero⟩

theorem canonical_ofBits (bits : List Bool) : (ofBits bits).Canonical where
  length := Bits.length_pack bits
  zero := by
    obtain ⟨n, unpacked⟩ := Bits.unpack_pack bits
    rw [zeroFrom_iff, ofBits, unpacked, List.drop_left]
    exact fun b inside => (List.mem_replicate.mp inside).2

/-- Where a secret comes from. -/
inductive Source
  | nothing
  | written (values : List BitValue)
  | given (bytes : List UInt8) (len : Nat)
  | document (site : Json.Site) (j : Json)

def Source.Gives (source : Source) (s : SecretBits) : Prop :=
  match source with
  | .nothing => s = empty
  | .written values => s = ofValues values
  | .given bytes len => ofBytes bytes len = .ok s
  | .document site j => decoder site j = .ok s

/-- What was given from elsewhere is such; of what is written here nothing is asked. -/
def Source.Brings (P : List UInt8 → Nat → Prop) : Source → Prop
  | .nothing | .written _ => True
  | .given bytes len => P bytes len
  | .document site j => ∀ bytes len, partsDecoder site j = .ok (bytes, len) → P bytes len

/-- What a writer brings about is true of a secret just if it was true of what was given. -/
theorem Source.Gives.iff_brings {source : Source} {s : SecretBits} (h : source.Gives s)
    {P : List UInt8 → Nat → Prop} (writes : ∀ bits, P (ofBits bits).bytes (ofBits bits).len) :
    P s.bytes s.len ↔ source.Brings P := by
  cases source with
  | nothing =>
      obtain rfl : s = empty := h
      exact iff_of_true (writes []) trivial
  | written values =>
      obtain rfl : s = ofValues values := h
      rw [ofValues_eq]
      exact iff_of_true (writes _) trivial
  | given bytes len =>
      obtain ⟨rfl, rfl⟩ := ofBytes_eq_ok.mp h
      exact Iff.rfl
  | document site j =>
      have parts := decoder_eq_ok.mp h
      constructor
      · intro holds bytes len read
        cases parts.symm.trans read
        exact holds
      · intro brings
        exact brings s.bytes s.len parts

section Same

variable {s t : SecretBits} (len : s.len = t.len) (same : ∀ i < s.len, s.bit? i = t.bit? i)

include len same

theorem bits_eq_of_bit? : s.bits = t.bits := by
  have alike := take_bits_eq same
  rwa [List.take_of_length_le (by rw [length_bits]),
    List.take_of_length_le (by rw [length_bits, len])] at alike

theorem eq_iff_padding_eq : s = t ↔ s.padding = t.padding := by
  constructor
  · rintro rfl
    rfl
  · intro behind
    have bytes : s.bytes = t.bytes := by
      apply Bits.unpack_injective
      rw [← bits_append_padding, ← bits_append_padding, bits_eq_of_bit? len same, behind]
    rwa [SecretBits.mk.injEq, and_iff_left len]

theorem secret_order_eq_iff (relay relay' : Relay) (frame frame' : List UInt8) (fee fee' : UInt64) :
    (relay.order ⟨frame, s⟩ fee).secret = (relay'.order ⟨frame', t⟩ fee').secret ↔
      s.padding = t.padding := by
  rw [← eq_iff_padding_eq len same]
  constructor
  · intro text
    have bytes : s.bytes = t.bytes := Hex.encode_injective text
    rwa [SecretBits.mk.injEq, and_iff_left len]
  · rintro rfl
    rfl

theorem Canonical.eq (hs : s.Canonical) (ht : t.Canonical) : s = t := by
  rw [eq_iff_padding_eq len same, hs.padding_eq, ht.padding_eq, len]

end Same

/-- Secrets are in the one form of their bits, unless they were given with something behind them or
with bytes to spare. Then they are neither equal nor sent as the same text as others with the same
bits, unless what is behind is the same too. -/
theorem canonical_unless_given {source source' : Source} {s t : SecretBits}
    (made : source.Gives s) (made' : source'.Gives t) :
    (ZeroFrom s.bytes s.len ↔ source.Brings ZeroFrom) ∧ (s.Canonical ↔ source.Brings Tidy) ∧
      (s.len = t.len → (∀ i < s.len, s.bit? i = t.bit? i) →
        (source.Brings Tidy → source'.Brings Tidy → s = t) ∧ (s = t ↔ s.padding = t.padding) ∧
          ∀ (relay relay' : Relay) (frame frame' : List UInt8) (fee fee' : UInt64),
            (relay.order ⟨frame, s⟩ fee).secret = (relay'.order ⟨frame', t⟩ fee').secret ↔
              s.padding = t.padding) := by
  have canonical := made.iff_brings canonical_ofBits
  have canonical' := made'.iff_brings canonical_ofBits
  refine ⟨made.iff_brings fun bits => (canonical_ofBits bits).zero, canonical, fun len same => ?_⟩
  refine ⟨fun tidy tidy' => ?_, eq_iff_padding_eq len same, secret_order_eq_iff len same⟩
  exact Canonical.eq len same (canonical.mpr tidy) (canonical'.mpr tidy')

/-- Nine bits that are written, and the same bits given as two bytes. -/
theorem canonical_unless_given_nine :
    let values : List BitValue := [.bool true, .u8 0x81]
    let t : SecretBits := ⟨[0x03, 0x01], 9, by decide⟩
    (Source.written values).Gives (ofValues values) ∧ (Source.given [0x03, 0x01] 9).Gives t ∧
      (ofValues values).Canonical ∧ ofValues values = t := by
  intro values t
  have written : (Source.written values).Gives (ofValues values) := rfl
  have given : (Source.given [0x03, 0x01] 9).Gives t := ofBytes_bytes_len t
  have tidy : Tidy [0x03, 0x01] 9 := ⟨zeroFrom_iff.mpr (by decide), rfl⟩
  have len : (ofValues values).len = t.len := by decide +kernel
  have same : ∀ i < (ofValues values).len, (ofValues values).bit? i = t.bit? i := by
    decide +kernel
  obtain ⟨-, canonical, alike⟩ := canonical_unless_given written given
  exact ⟨written, given, canonical.mpr trivial, (alike len same).1 trivial tidy⟩

/-- The four bits that count are the same in all three secrets. One has more set behind them, one
has a byte to spare. -/
theorem given_padding_kept :
    let s : SecretBits := ⟨[0x0f], 4, by decide⟩
    let dirty : SecretBits := ⟨[0xff], 4, by decide⟩
    let spare : SecretBits := ⟨[0x0f, 0], 4, by decide⟩
    let text (secret : SecretBits) := (Relay.order ⟨"http://relay", .zero⟩ ⟨[], secret⟩ 0).secret
    ofBytes [0x0f] 4 = .ok s ∧ ofBytes [0xff] 4 = .ok dirty ∧ ofBytes [0x0f, 0] 4 = .ok spare ∧
      (∀ i < 4, s.bit? i = dirty.bit? i ∧ s.bit? i = spare.bit? i) ∧
      ¬ZeroFrom dirty.bytes dirty.len ∧ s ≠ dirty ∧ text s ≠ text dirty ∧
      ZeroFrom spare.bytes spare.len ∧ s ≠ spare ∧ text s ≠ text spare := by
  intro s dirty spare text
  refine ⟨rfl, rfl, rfl, by decide, ?_, by decide, by decide, zeroFrom_iff.mpr (by decide),
    by decide, by decide⟩
  intro zero
  exact absurd (zero 4 (Nat.le_refl 4) 0xff rfl) (by decide)

end SecretBits

end SealedTree
