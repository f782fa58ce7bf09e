import SealedTree.Proofs.BitStream

/-!
Revealing from any bits. A layout is a list of typed reads, and every sequence of bits that is long
enough for all of them is the layout of a value; so a secret is revealed just if it is long enough,
what is revealed is written as the bits it was read from, and a secret that is too short is refused
for the first read that finds too little.
-/

namespace SealedTree

namespace Reader

variable {τ α β : Type}

/-- A typed read: the field it is for, and how many units it takes. -/
structure Field where
  name : String
  width : Nat
  deriving DecidableEq

def total (fields : List Field) : Nat := (fields.map Field.width).sum

/-- Why `left` units are not enough for the fields, if they are not. -/
def shortage? : List Field → (left : Nat) → Option PayloadError
  | [], _ => none
  | f :: rest, left =>
      if left < f.width then some (.underrun f.name f.width left)
      else shortage? rest (left - f.width)

/-- The reader takes the fields one after the other and nothing else; it fails at the first one that
finds too little. -/
structure Takes (r : Reader τ α) (fields : List Field) : Prop where
  enough (left : List τ) : shortage? fields left.length = none →
    ∃ a, r.run left = .ok (a, left.drop (total fields))
  short (left : List τ) (e : PayloadError) : shortage? fields left.length = some e →
    r.run left = .error e

theorem total_cons (f : Field) (rest : List Field) : total (f :: rest) = f.width + total rest :=
  rfl

@[simp] theorem total_append (xs ys : List Field) : total (xs ++ ys) = total xs + total ys := by
  rw [total, List.map_append, List.sum_append, total, total]

theorem shortage?_append (xs ys : List Field) (left : Nat) :
    shortage? (xs ++ ys) left = (shortage? xs left).or (shortage? ys (left - total xs)) := by
  induction xs generalizing left with
  | nil => rfl
  | cons f rest ih =>
      simp only [List.cons_append, shortage?]
      split
      · rfl
      · rw [ih, Nat.sub_sub]
        rfl

theorem shortage?_eq_none_iff {fields : List Field} {left : Nat} :
    shortage? fields left = none ↔ total fields ≤ left := by
  induction fields generalizing left with
  | nil => simp [shortage?, total]
  | cons f rest ih =>
      rw [shortage?, total_cons]
      split
      · next short =>
          simp only [reduceCtorEq, false_iff]
          omega
      · next fits =>
          rw [ih]
          omega

/-- The read that fails is the first one whose width does not fit into what the reads before it have
left. -/
theorem shortage?_eq_some_iff {fields : List Field} {left : Nat} {e : PayloadError} :
    shortage? fields left = some e ↔
      ∃ before f after, fields = before ++ f :: after ∧ total before ≤ left ∧
        left < total before + f.width ∧
        e = .underrun f.name f.width (left - total before) := by
  induction fields generalizing left with
  | nil => simp [shortage?]
  | cons f rest ih =>
      rw [shortage?]
      split
      · next short =>
          constructor
          · rintro ⟨⟩
            exact ⟨[], f, rest, rfl, Nat.zero_le _, by simpa [total] using short, rfl⟩
          · rintro ⟨before, g, after, parts, fits, -, rfl⟩
            cases before with
            | nil =>
                cases parts
                rfl
            | cons first before =>
                cases parts
                rw [total_cons] at fits
                omega
      · next fits =>
          rw [ih]
          constructor
          · rintro ⟨before, g, after, rfl, passed, lacks, rfl⟩
            refine ⟨f :: before, g, after, rfl, ?_, ?_, ?_⟩
            · rw [total_cons]
              omega
            · rw [total_cons]
              omega
            · rw [total_cons, Nat.sub_sub]
          · rintro ⟨before, g, after, parts, passed, lacks, rfl⟩
            cases before with
            | nil =>
                cases parts
                exact absurd (by simpa [total] using lacks) fits
            | cons first before =>
                cases parts
                rw [total_cons] at passed lacks
                refine ⟨before, g, after, rfl, by omega, by omega, ?_⟩
                rw [total_cons, Nat.sub_sub]

theorem Takes.pure (a : α) : Takes (Pure.pure a : Reader τ α) [] where
  enough left _ := ⟨a, rfl⟩
  short left e h := by cases h

theorem Takes.take (name : String) (n : Nat) :
    Takes (Reader.take name n : Reader τ (List τ)) [⟨name, n⟩] where
  enough left h := by
    rw [shortage?_eq_none_iff] at h
    have fits : ¬left.length < n := by simpa [total] using h
    exact ⟨left.take n, by simp [Reader.take, StateT.run, fits, total]⟩
  short left e h := by
    rw [take_eq_error_iff]
    simp only [shortage?] at h
    split at h
    · next short => exact ⟨short, (Option.some.inj h).symm⟩
    · cases h

theorem Takes.bind {r : Reader τ α} {f : α → Reader τ β} {xs ys : List Field} (hr : Takes r xs)
    (hf : ∀ a, Takes (f a) ys) : Takes (r >>= f) (xs ++ ys) where
  enough left h := by
    rw [shortage?_append, Option.or_eq_none_iff] at h
    obtain ⟨a, first⟩ := hr.enough left h.1
    rw [← List.length_drop] at h
    obtain ⟨b, second⟩ := (hf a).enough _ h.2
    refine ⟨b, ?_⟩
    rw [StateT.run_bind, first, total_append, ← List.drop_drop]
    exact second
  short left e h := by
    rw [shortage?_append, Option.or_eq_some_iff] at h
    rw [StateT.run_bind]
    rcases h with first | ⟨enough, second⟩
    · rw [hr.short left e first]
      rfl
    · obtain ⟨a, first⟩ := hr.enough left enough
      rw [← List.length_drop] at second
      rw [first]
      exact (hf a).short _ e second

theorem Takes.map {r : Reader τ α} {fields : List Field} (f : α → β) (hr : Takes r fields) :
    Takes (f <$> r) fields := by
  have read := hr.bind fun a => Takes.pure (f a)
  rwa [List.append_nil, ← map_eq_pure_bind] at read

theorem Takes.vector {r : Reader τ α} {fields : List Field} (hr : Takes r fields) (n : Nat) :
    Takes (r.vector n) (List.replicate n fields).flatten := by
  induction n with
  | zero => exact Takes.pure _
  | succ n ih =>
      rw [List.replicate_succ', List.flatten_append, List.flatten_singleton]
      exact ih.bind fun v => hr.map v.push

theorem takes_bool (name : String) : Takes (bool name) [⟨name, 1⟩] := (Takes.take name 1).map _

theorem takes_uint8 (name : String) : Takes (uint8 name) [⟨name, 8⟩] := (Takes.take name 8).map _

theorem takes_int16 (name : String) : Takes (int16 name) [⟨name, 16⟩] := (Takes.take name 16).map _

end Reader

/-- Any bits of the right number are those of a value. -/
theorem BitKind.bits_value (kind : BitKind) {bits : List Bool} (h : bits.length = kind.width) :
    (kind.value bits).bits = bits := by
  have small : Bits.toNat bits < 2 ^ kind.width := by
    rw [← h]
    exact Bits.toNat_lt bits
  have whole : Bits.ofNat kind.width (Bits.toNat bits) = bits := by
    rw [← h]
    exact Bits.ofNat_toNat bits
  cases kind with
  | bool =>
      obtain ⟨b, rfl⟩ := List.length_eq_one_iff.mp h
      cases b <;> rfl
  | u8 =>
      rw [value, BitValue.bits, UInt8.toNat_ofNat']
      exact (congrArg (Bits.ofNat 8) (Nat.mod_eq_of_lt small)).trans whole
  | i16 =>
      rw [value, BitValue.bits, UInt16.toUInt16_toInt16, UInt16.toNat_ofNat']
      exact (congrArg (Bits.ofNat 16) (Nat.mod_eq_of_lt small)).trans whole
  | u16 =>
      rw [value, BitValue.bits, UInt16.toNat_ofNat']
      exact (congrArg (Bits.ofNat 16) (Nat.mod_eq_of_lt small)).trans whole
  | u32 =>
      rw [value, BitValue.bits, UInt32.toNat_ofNat']
      exact (congrArg (Bits.ofNat 32) (Nat.mod_eq_of_lt small)).trans whole

/-- Units for several items of one width are the units of a vector. -/
theorem exists_flatMap {α τ : Type} {units : α → List τ} {width : Nat}
    (item : ∀ xs : List τ, xs.length = width → ∃ a, units a = xs) (n : Nat) {xs : List τ}
    (h : xs.length = n * width) : ∃ v : Vector α n, v.toList.flatMap units = xs := by
  induction n generalizing xs with
  | zero =>
      rw [Nat.zero_mul] at h
      rw [List.eq_nil_of_length_eq_zero h]
      exact ⟨#v[], rfl⟩
  | succ n ih =>
      rw [Nat.succ_mul] at h
      have front : (xs.take (n * width)).length = n * width := by
        rw [List.length_take]
        omega
      have back : (xs.drop (n * width)).length = width := by
        rw [List.length_drop]
        omega
      obtain ⟨v, first⟩ := ih front
      obtain ⟨a, last⟩ := item _ back
      refine ⟨v.push a, ?_⟩
      rw [Vector.toList_push, List.flatMap_append, List.flatMap_singleton, first, last,
        List.take_append_drop]

theorem Bits.length_pack (bits : List Bool) : (pack bits).length = (bits.length + 7) / 8 := by
  fun_induction pack bits with
  | case1 => rfl
  | case2 b rest ih =>
      rw [List.length_cons, ih, List.length_drop, List.length_cons]
      omega

def Vertex.fields : List Reader.Field := [⟨"feature", 8⟩, ⟨"threshold", 16⟩]

def Leaf.fields : List Reader.Field := (List.replicate 8 [⟨"classification", 1⟩]).flatten

def Model.fields : List Reader.Field :=
  (List.replicate 7 Vertex.fields).flatten ++ (List.replicate 8 Leaf.fields).flatten

def Sample.fields : List Reader.Field := (List.replicate 10 [⟨"sample", 16⟩]).flatten

/-- A layout of these fields in which any bits say something. -/
class FullLayout (α : Type) [SecretLayout α] (fields : outParam (List Reader.Field)) : Prop
    extends LawfulLayout α where
  takes : Reader.Takes (SecretLayout.reader : Reader Bool α) fields
  total_fields : Reader.total fields = SecretLayout.width α
  exists_bits (units : List Bool) : units.length = SecretLayout.width α →
    ∃ a : α, SecretLayout.bits a = units

instance : FullLayout Vertex Vertex.fields where
  takes := (Reader.takes_uint8 "feature").bind fun feature =>
    (Reader.takes_int16 "threshold").map (Vertex.mk feature)
  total_fields := rfl
  exists_bits units h := by
    change units.length = 24 at h
    have front : (units.take 8).length = 8 := by simp [h]
    have back : (units.drop 8).length = 16 := by simp [h]
    have feature := BitKind.bits_value .u8 front
    have threshold := BitKind.bits_value .i16 back
    exact ⟨⟨_, _⟩, (congrArg₂ (· ++ ·) feature threshold).trans
      (List.take_append_drop 8 units)⟩

instance : FullLayout Leaf Leaf.fields where
  takes := ((Reader.takes_bool "classification").vector 8).map Leaf.mk
  total_fields := rfl
  exists_bits units h := ⟨⟨⟨units.toArray, h⟩⟩, rfl⟩

instance : FullLayout Model Model.fields where
  takes := (FullLayout.takes.vector 7).bind fun vertices =>
    (FullLayout.takes.vector 8).map (Model.mk vertices)
  total_fields := rfl
  exists_bits units h := by
    change units.length = 7 * 24 + 8 * 8 at h
    have front : (units.take (7 * 24)).length = 7 * 24 := by
      rw [List.length_take, h]
      rfl
    have back : (units.drop (7 * 24)).length = 8 * 8 := by
      rw [List.length_drop, h]
    obtain ⟨vertices, first⟩ := exists_flatMap (α := Vertex) FullLayout.exists_bits 7 front
    obtain ⟨leaves, last⟩ := exists_flatMap (α := Leaf) FullLayout.exists_bits 8 back
    refine ⟨⟨vertices, leaves⟩, ?_⟩
    exact (congrArg₂ (· ++ ·) first last).trans (List.take_append_drop (7 * 24) units)

instance : FullLayout Sample Sample.fields where
  takes := ((Reader.takes_int16 "sample").vector 10).map Sample.mk
  total_fields := rfl
  exists_bits units h := by
    have answer (xs : List Bool) (fits : xs.length = 16) : ∃ n, (BitValue.i16 n).bits = xs :=
      ⟨_, BitKind.bits_value .i16 fits⟩
    obtain ⟨answers, written⟩ := exists_flatMap answer 10 h
    exact ⟨⟨answers⟩, written⟩

/-- What comes of reading a value of a layout from any secret. -/
structure Reveals (α : Type) [SecretLayout α] (fields : List Reader.Field) : Prop where
  ok_iff (s : SecretBits) : (∃ a, reveal α s = .ok a) ↔ SecretLayout.width α ≤ s.len
  /-- Only the bits at the front matter. -/
  front (s t : SecretBits) : SecretLayout.width α ≤ s.len →
    (∀ i < SecretLayout.width α, s.bit? i = t.bit? i) → reveal α s = reveal α t
  again (s : SecretBits) (a : α) : reveal α s = .ok a →
    (conceal a).len = SecretLayout.width α ∧
      (conceal a).bytes.length = SecretLayout.width α / 8 ∧
      ∀ i < SecretLayout.width α, (conceal a).bit? i = s.bit? i
  error_iff (s : SecretBits) (e : PayloadError) : reveal α s = .error e ↔
    ∃ before f after, fields = before ++ f :: after ∧ Reader.total before ≤ s.len ∧
      s.len < Reader.total before + f.width ∧
      e = .underrun f.name f.width (s.len - Reader.total before)

theorem SecretBits.take_bits_eq {s t : SecretBits} {n : Nat}
    (same : ∀ i < n, s.bit? i = t.bit? i) : s.bits.take n = t.bits.take n := by
  refine List.ext_getElem? fun i => ?_
  rw [List.getElem?_take, List.getElem?_take, ← s.bit?_eq, ← t.bit?_eq]
  split
  · next inside => exact same i inside
  · rfl

section Layout

variable {α : Type} [SecretLayout α] {fields : List Reader.Field} [full : FullLayout α fields]

include full

theorem reveal_of_enough {s : SecretBits} (enough : SecretLayout.width α ≤ s.len) :
    ∃ a : α, reveal α s = .ok a ∧ SecretLayout.bits a = s.bits.take (SecretLayout.width α) := by
  have length : (s.bits.take (SecretLayout.width α)).length = SecretLayout.width α := by
    rw [List.length_take, s.length_bits, Nat.min_eq_left enough]
  obtain ⟨a, written⟩ := full.exists_bits _ length
  refine ⟨a, ?_, written⟩
  have read := (LawfulLayout.reads_bits a).front (s.bits.drop (SecretLayout.width α))
  rwa [written, List.take_append_drop] at read

theorem reveal_of_short {s : SecretBits} {e : PayloadError}
    (short : Reader.shortage? fields s.len = some e) : reveal α s = .error e := by
  rw [← s.length_bits] at short
  rw [reveal, Reader.front, full.takes.short s.bits e short]
  rfl

theorem bits_of_reveal {s : SecretBits} {a : α} (h : reveal α s = .ok a) :
    SecretLayout.width α ≤ s.len ∧ SecretLayout.bits a = s.bits.take (SecretLayout.width α) := by
  cases short : Reader.shortage? fields s.len with
  | some e =>
      rw [reveal_of_short short] at h
      cases h
  | none =>
      rw [Reader.shortage?_eq_none_iff, full.total_fields] at short
      obtain ⟨b, revealed, written⟩ := reveal_of_enough short
      rw [h] at revealed
      cases revealed
      exact ⟨short, written⟩

theorem reveals (whole : 8 ∣ SecretLayout.width α) : Reveals α fields where
  ok_iff s := by
    constructor
    · rintro ⟨a, revealed⟩
      exact (bits_of_reveal revealed).1
    · intro enough
      obtain ⟨a, revealed, -⟩ := reveal_of_enough enough
      exact ⟨a, revealed⟩
  front s t enough same := by
    have alike := SecretBits.take_bits_eq same
    have reaches : SecretLayout.width α ≤ t.len := by
      have length := congrArg List.length alike
      rw [List.length_take, List.length_take, s.length_bits, t.length_bits] at length
      omega
    obtain ⟨a, revealed, written⟩ := reveal_of_enough (α := α) enough
    obtain ⟨b, revealed', written'⟩ := reveal_of_enough (α := α) reaches
    have equal : conceal a = conceal b := by rw [conceal, conceal, written, written', alike]
    rw [revealed, revealed', conceal_injective equal]
  again s a revealed := by
    obtain ⟨enough, written⟩ := bits_of_reveal revealed
    refine ⟨len_conceal a, ?_, fun i inside => ?_⟩
    · rw [conceal, SecretBits.ofBits, Bits.length_pack, LawfulLayout.length_bits]
      omega
    · rw [SecretBits.bit?_eq, SecretBits.bit?_eq, conceal, SecretBits.bits_ofBits, written,
        List.getElem?_take_of_lt inside]
  error_iff s e := by
    rw [← Reader.shortage?_eq_some_iff]
    refine ⟨fun refused => ?_, reveal_of_short⟩
    cases short : Reader.shortage? fields s.len with
    | some cause =>
        rw [reveal_of_short short] at refused
        exact congrArg some (Except.error.inj refused)
    | none =>
        rw [Reader.shortage?_eq_none_iff, full.total_fields] at short
        obtain ⟨a, revealed, -⟩ := reveal_of_enough (α := α) short
        rw [refused] at revealed
        cases revealed

end Layout

/-- Whatever bits a secret holds, a model or a sample is read from it just if it has enough of them;
it is the one that is written with them. -/
theorem reveal_any_secret :
    SecretLayout.width Model = 232 ∧ Reveals Model Model.fields ∧
      SecretLayout.width Sample = 160 ∧ Reveals Sample Sample.fields :=
  ⟨rfl, reveals (by decide), rfl, reveals (by decide)⟩

/-- The first vertex is there, and of the second one only six bits of the feature. -/
example : reveal Model ⟨[1, 2, 3, 4], 30, by decide⟩ = .error (.underrun "feature" 8 6) := by
  rfl

end SealedTree
