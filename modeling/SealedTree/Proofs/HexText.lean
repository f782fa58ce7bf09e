import SealedTree.Proofs.Success
import SealedTree.Text.Hex

/-!
Which texts are the digits of which bytes: those that in lower case are what is written of the
bytes.
-/

namespace SealedTree.Hex

/-- The characters below 128 are looked at one by one, all others are alike. -/
theorem forall_of_ascii {P : Char → Prop} (ascii : ∀ n < 128, P (Char.ofNat n))
    (large : ∀ c, 128 ≤ c.toNat → P c) (c : Char) : P c := by
  rcases Nat.lt_or_ge c.toNat 128 with below | above
  · rw [← Char.ofNat_toNat c]
    exact ascii c.toNat below
  · exact large c above

theorem toLower_of_large {c : Char} (large : 128 ≤ c.toNat) : c.toLower = c := by
  refine dif_neg fun upper => ?_
  have below : c.toNat ≤ 90 := upper.2
  omega

theorem value?_of_large {c : Char} (large : 128 ≤ c.toNat) : value? c = none := by
  have above (top : Char) (small : top.toNat < 128) : ¬c ≤ top := fun below => by
    have size : c.toNat ≤ top.toNat := below
    omega
  rw [value?, if_neg fun h => above '9' (by decide) h.2, if_neg fun h => above 'f' (by decide) h.2,
    if_neg fun h => above 'F' (by decide) h.2]

/-- Capitals are as good as small letters, and take as much room. -/
theorem value?_toLower (c : Char) :
    value? c.toLower = value? c ∧ c.toLower.utf8Size = c.utf8Size := by
  revert c
  refine forall_of_ascii (by decide +kernel) fun c large => ?_
  rw [toLower_of_large large]
  exact ⟨rfl, rfl⟩

theorem digit_of_value? {c : Char} {v : Nat} (h : value? c = some v) :
    v < 16 ∧ digit v = c.toLower ∧ c.utf8Size = 1 := by
  have each : ∀ c, ∀ v ∈ value? c, v < 16 ∧ digit v = c.toLower ∧ c.utf8Size = 1 := by
    refine forall_of_ascii (by decide +kernel) fun c large v read => ?_
    rw [value?_of_large large] at read
    cases read
  exact each c v h

theorem values_eq_ok {position : Nat} {cs : List Char} {vs : List Nat} :
    values position cs = .ok vs ↔ cs.map value? = vs.map some := by
  induction cs generalizing position vs with
  | nil =>
      cases vs with
      | nil => exact iff_of_true rfl rfl
      | cons v vs =>
          constructor
          all_goals
            intro h
            cases h
  | cons c rest ih =>
      rw [values, List.map_cons]
      cases value? c with
      | none =>
          constructor
          · intro h
            cases h
          · intro h
            cases vs with
            | nil => cases h
            | cons v vs => cases (List.cons.inj h).1
      | some v =>
          simp only [Except.map_eq_ok, ih]
          constructor
          · rintro ⟨vs, same, rfl⟩
            rw [same, List.map_cons]
          · intro h
            cases vs with
            | nil => cases h
            | cons w vs =>
                obtain ⟨first, later⟩ := List.cons.inj h
                cases first
                exact ⟨vs, later, rfl⟩

theorem byteLength_of_values {cs : List Char} {vs : List Nat} (h : cs.map value? = vs.map some) :
    byteLength cs = cs.length := by
  induction cs generalizing vs with
  | nil => rfl
  | cons c rest ih =>
      cases vs with
      | nil => cases h
      | cons v vs =>
          obtain ⟨first, later⟩ := List.cons.inj h
          rw [byteLength, (digit_of_value? first).2.2, ih later, List.length_cons, Nat.add_comm]

theorem map_digit_of_values {cs : List Char} {vs : List Nat} (h : cs.map value? = vs.map some) :
    (∀ v ∈ vs, v < 16) ∧ vs.map digit = cs.map Char.toLower := by
  induction cs generalizing vs with
  | nil =>
      cases vs with
      | nil => exact ⟨List.forall_mem_nil _, rfl⟩
      | cons v vs => cases h
  | cons c rest ih =>
      cases vs with
      | nil => cases h
      | cons v vs =>
          obtain ⟨first, later⟩ := List.cons.inj h
          obtain ⟨small, same, -⟩ := digit_of_value? first
          obtain ⟨smaller, rest⟩ := ih later
          exact ⟨List.forall_mem_cons.mpr ⟨small, smaller⟩, by
            rw [List.map_cons, List.map_cons, same, rest]⟩

/-- Digits in pairs are what is written of the bytes that the pairs make up. -/
theorem encode_paired {vs : List Nat} (even : vs.length % 2 = 0) (small : ∀ v ∈ vs, v < 16) :
    (paired vs).flatMap encodeByte = vs.map digit := by
  induction vs using paired.induct with
  | case1 hi lo rest ih =>
      have high : hi < 16 := small hi List.mem_cons_self
      have low : lo < 16 := small lo (List.mem_cons_of_mem _ List.mem_cons_self)
      have value : (UInt8.ofNat (16 * hi + lo)).toNat = 16 * hi + lo :=
        UInt8.toNat_ofNat_of_lt' (by change 16 * hi + lo < 256; omega)
      have later := ih (by rw [List.length_cons, List.length_cons] at even; omega) fun v inside =>
        small v (List.mem_cons_of_mem _ (List.mem_cons_of_mem _ inside))
      have first : (16 * hi + lo) / 16 = hi := by omega
      have second : (16 * hi + lo) % 16 = lo := by omega
      rw [paired, List.flatMap_cons, later, encodeByte, value, first, second]
      rfl
  | case2 vs short =>
      cases vs with
      | nil => rfl
      | cons v vs =>
          cases vs with
          | nil => cases even
          | cons w vs => exact (short v w vs rfl).elim

/-- A text is read as bytes just if in lower case it is what is written of them. -/
theorem decodeChars_eq_ok {cs : List Char} {bytes : List UInt8} :
    decodeChars cs = .ok bytes ↔ cs.map Char.toLower = bytes.flatMap encodeByte := by
  constructor
  · intro h
    rw [decodeChars] at h
    split at h
    · cases h
    · next even =>
        obtain ⟨vs, read, rfl⟩ := Except.map_eq_ok.mp h
        rw [values_eq_ok] at read
        have length : cs.length = vs.length := by
          rw [← List.length_map value?, read, List.length_map]
        rw [byteLength_of_values read, length] at even
        obtain ⟨small, same⟩ := map_digit_of_values read
        rw [encode_paired (by omega) small, same]
  · intro same
    have lower : cs.map value? = (cs.map Char.toLower).map value? := by
      rw [List.map_map]
      exact List.map_congr_left fun c _ => (value?_toLower c).1.symm
    have size : byteLength cs = byteLength (cs.map Char.toLower) := by
      clear same lower
      induction cs with
      | nil => rfl
      | cons c rest ih =>
          rw [List.map_cons, byteLength, byteLength, ih, (value?_toLower c).2]
    have even : ¬byteLength cs % 2 = 1 := by
      rw [size, same, byteLength_encode]
      omega
    obtain ⟨vs, read, made⟩ := Except.map_eq_ok.mp (values_encode bytes 0)
    rw [values_eq_ok, ← same, ← lower] at read
    rw [decodeChars, if_neg even, values_eq_ok.mpr read, Except.map, made]

theorem digit_ne_x {n : Nat} (h : n < 16) : digit n ≠ 'x' := by
  have all : ∀ n < 16, digit n ≠ 'x' := by decide
  exact all n h

theorem bare_encode (bytes : List UInt8) : bare (bytes.flatMap encodeByte) =
    bytes.flatMap encodeByte := by
  cases bytes with
  | nil => rfl
  | cons b rest =>
      rw [List.flatMap_cons, encodeByte, bare.eq_def]
      split
      · next marked =>
          have second := (List.cons.inj (List.cons.inj marked).2).1
          exact absurd second (digit_ne_x (by omega))
      · rfl

/-- The text is digits of these bytes, small or capital, with or without `0x` before them. -/
def Spells (s : String) (bytes : List UInt8) : Prop :=
  ∃ digits, (s.toList = digits ∨ s.toList = '0' :: 'x' :: digits) ∧
    digits.map Char.toLower = (encode bytes).toList

/-- Digits are not taken for `0x`. -/
theorem bare_of_toLower {cs : List Char} {bytes : List UInt8}
    (same : cs.map Char.toLower = bytes.flatMap encodeByte) : bare cs = cs := by
  rw [bare.eq_def]
  split
  · next rest =>
      have unmarked := bare_encode bytes
      rw [← same] at unmarked
      have shorter := congrArg List.length (show rest.map Char.toLower = _ from unmarked)
      simp only [List.map_cons, List.length_cons, List.length_map] at shorter
      omega
  · rfl

theorem decodeChars_bare {s : String} {bytes : List UInt8} :
    decodeChars (bare s.toList) = .ok bytes ↔ Spells s bytes := by
  rw [decodeChars_eq_ok, Spells, encode, String.toList_ofList]
  constructor
  · intro same
    refine ⟨bare s.toList, ?_, same⟩
    rw [bare.eq_def]
    split
    · exact .inr ‹_›
    · exact .inl rfl
  · rintro ⟨digits, plain | marked, same⟩
    · rw [plain, bare_of_toLower same, same]
    · rw [marked, bare, same]

theorem spells_encode (bytes : List UInt8) : Spells (encode bytes) bytes := by
  have read := decode_encode bytes
  rw [decode, encode, String.toList_ofList] at read
  rw [← decodeChars_bare, encode, String.toList_ofList, bare_encode, read]

theorem value?_of_decodeChars {cs : List Char} {bytes : List UInt8}
    (read : decodeChars cs = .ok bytes) {c : Char} (inside : c ∈ cs) : value? c ≠ none := by
  rw [decodeChars] at read
  split at read
  · cases read
  · obtain ⟨vs, values, -⟩ := Except.map_eq_ok.mp read
    rw [values_eq_ok] at values
    have found : value? c ∈ vs.map some := values ▸ List.mem_map_of_mem inside
    obtain ⟨v, -, same⟩ := List.mem_map.mp found
    rw [← same]
    exact Option.some_ne_none v

/-- Digits come in pairs, and are nothing but digits. -/
theorem Spells.digits {s : String} {bytes : List UInt8} (h : Spells s bytes) :
    (bare s.toList).length = 2 * bytes.length ∧ ∀ c ∈ bare s.toList, value? c ≠ none := by
  have read := decodeChars_bare.mpr h
  have length := congrArg List.length (decodeChars_eq_ok.mp read)
  rw [List.length_map, List.length_flatMap] at length
  refine ⟨?_, fun c inside => value?_of_decodeChars read inside⟩
  simp only [length, encodeByte, List.length_cons, List.length_nil, List.map_const',
    List.sum_replicate_nat]
  omega

end SealedTree.Hex
