import SealedTree.Proofs.Cursor
import SealedTree.Proofs.Success

/-!
Reading typed values from the bits of any secret. A bit that is not there would count as zero, but
the place is never beyond the bits, so no read comes upon one: it gives the bits at its place or
says that they are too few. What was written value by value is read back to its end.
-/

namespace SealedTree

theorem SecretBits.getElem?_slice (s : SecretBits) (place n i : Nat) :
    (Tape.slice s place n)[i]? =
      if i < n then some (s.bit? (place + i) == some true) else none := by
  by_cases h : i < n <;> simp [Tape.slice, h]

instance : LawfulTape SecretBits where
  units := SecretBits.bits
  length_units := SecretBits.length_bits
  slice_eq s place n fits := by
    refine List.ext_getElem? fun i => ?_
    rw [s.getElem?_slice, List.getElem?_take, List.getElem?_drop, s.bit?_eq]
    split
    · next inside =>
        have there : place + i < s.bits.length := by
          rw [s.length_bits]
          exact Nat.lt_of_lt_of_le (Nat.add_lt_add_left inside place) fits
        rw [List.getElem?_eq_getElem there]
        cases s.bits[place + i] <;> rfl
    · rfl

theorem BitKind.kind_value (kind : BitKind) (bits : List Bool) : (kind.value bits).kind = kind := by
  cases kind <;> rfl

instance : LawfulKind BitKind where
  units := BitValue.bits
  units_value kind _ := kind.bits_value

namespace Cursor

/-- A value that is read is the number whose lowest bits in two's complement stand at the place. -/
theorem bit?_of_fits {c : Cursor SecretBits} {kind : BitKind} (fits : kind.width ≤ c.remaining)
    {i : Nat} (inside : i < kind.width) :
    c.tape.bit? (c.pos + i) =
      some ((kind.value (c.left.take kind.width)).number.testBit i) := by
  have bits := (BitValue.bits_eq _).symm.trans (kind.bits_value (length_take_left fits))
  rw [kind.kind_value] at bits
  have there := congrArg (·[i]?) bits
  simpa [inside, left, LawfulTape.units, List.getElem?_take, SecretBits.bit?_eq] using there.symm

end Cursor

namespace SecretBits

/-- As many reads as there were values give them back, and then nothing is left. -/
theorem reads_ofValues (fields : List (String × BitValue)) :
    let written := ofValues (fields.map Prod.snd)
    let read := ({ tape := written } : Cursor SecretBits).reads
      (fields.map fun f => (f.1, f.2.kind))
    read.1 = fields.map (fun f => .ok f.2) ∧ read.2.remaining = 0 := by
  intro written read
  have given := Reader.reads_values fields []
  rw [List.append_nil, ← bits_ofValues] at given
  have row := Cursor.run_row_left (c := { tape := written }) (Nat.zero_le _)
    (fields.map fun f => (f.1, f.2.kind))
  rw [Cursor.row, List.mapM_map] at row
  obtain ⟨vs, each, same⟩ := Except.map_eq_ok.mp (row.symm.trans given)
  obtain ⟨rfl, nothing⟩ := Prod.mk.inj same
  have each := Except.mapM_eq_ok.mp each
  rw [List.forall₂_map_right_iff] at each
  constructor
  · simpa [← List.forall₂_eq_eq_eq, List.forall₂_map_right_iff] using each
  · rw [← Cursor.length_left, nothing, List.length_nil]

/-- Values that are written one after the other stand in a secret without a gap. Readers of their
kinds in a row give them back, and so do as many reads from a place; then nothing is left. -/
theorem stream_round_trip (fields : List (String × BitValue)) :
    let values := fields.map Prod.snd
    let s := ofValues values
    let read := ({ tape := s } : Cursor SecretBits).reads (fields.map fun f => (f.1, f.2.kind))
    s.len = (values.map fun v => v.kind.width).sum ∧
      s.bits = values.flatMap (fun v => (List.range v.kind.width).map v.number.testBit) ∧
      (∀ i, s.bit? i = s.bits[i]?) ∧
      (fields.mapM fun f => Reader.bitValue f.1 f.2.kind).run s.bits = .ok (values, []) ∧
      read.1 = values.map .ok ∧ read.2.remaining = 0 := by
  intro values s read
  have bits : s.bits = values.flatMap BitValue.bits := bits_ofValues values
  obtain ⟨results, nothing⟩ := reads_ofValues fields
  refine ⟨?_, ?_, s.bit?_eq, ?_, ?_, nothing⟩
  · rw [← s.length_bits, bits, List.length_flatMap]
    simp only [BitValue.length_bits]
  · rw [bits]
    exact congrArg values.flatMap (funext BitValue.bits_eq)
  · have row := Reader.reads_values fields []
    rwa [List.append_nil, ← bits] at row
  · rw [List.map_map]
    exact results

end SecretBits

/-- After any typed reads from a secret, failed ones among them, the place is not beyond its bits
and the values read are the bits before it; the next read gives the bits at the place if there are
enough of them, and else leaves the place as it is. -/
theorem Cursor.bit_reads_in_bounds (s : SecretBits) (before : List (String × BitKind)) :
    let (results, c) := ({ tape := s } : Cursor SecretBits).reads before
    c.tape = s ∧ c.pos ≤ s.len ∧ c.pos + c.remaining = s.len ∧
      (values results).flatMap BitValue.bits = s.bits.take c.pos ∧
      ∀ (field : String) (kind : BitKind), c.Sound field kind fun v =>
        v.kind = kind ∧ ∀ i < kind.width, s.bit? (c.pos + i) = some (v.number.testBit i) := by
  refine reads_in_bounds s before (P := fun s pos kind v => v.kind = kind ∧
    ∀ i < kind.width, s.bit? (pos + i) = some (v.number.testBit i)) fun c kind fits => ?_
  exact ⟨kind.kind_value _, fun i below => bit?_of_fits fits below⟩

/-- The signed number begins where the failed read would have begun. -/
example : (({ tape := ⟨[0xfe, 0xff, 1], 20, by decide⟩ } : Cursor SecretBits).reads
      [("a", BitKind.u32), ("b", .i16), ("c", .u8), ("d", .bool)]).1 =
    [.error (.underrun "a" 32 20), .ok (.i16 (-2)), .error (.underrun "c" 8 4),
      .ok (.bool true)] := by
  rfl

end SealedTree
