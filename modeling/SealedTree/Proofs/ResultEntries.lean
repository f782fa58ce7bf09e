import SealedTree.Model.Evaluation
import SealedTree.Proofs.Json.Decoding
import SealedTree.Proofs.VariableReading
import SealedTree.Verdict.Document

/-!
The entries of results. A result that is made of flags, of entries, of a payload or by evaluating a
model has no entries but zeros and ones. One that stands in a document has the entries that are
listed there, whatever they are. The label is found by the ones alone, so it says which entry is not
zero just as long as there is nothing else than zeros and ones.
-/

namespace SealedTree

theorem Personality.index_injective {p q : Personality} (h : p.index = q.index) : p = q := by
  have same := congrArg ofIndex? h
  rw [ofIndex?_index, ofIndex?_index] at same
  exact Option.some.inj same

namespace OneHot

/-- No entry is anything else than zero or one. -/
def Binary (r : OneHot) : Prop := ∀ i : Fin 8, r.entries.get i = 0 ∨ r.entries.get i = 1

/-- The entry of this class is of the kind, and no other one is. -/
def Only (r : OneHot) (kind : UInt8 → Prop) (p : Personality) : Prop :=
  ∀ i : Fin 8, kind (r.entries.get i) ↔ i.val = p.index

instance (r : OneHot) : Decidable r.Binary :=
  inferInstanceAs (Decidable (∀ i : Fin 8, r.entries.get i = 0 ∨ r.entries.get i = 1))

instance (r : OneHot) (kind : UInt8 → Prop) [DecidablePred kind] (p : Personality) :
    Decidable (r.Only kind p) :=
  inferInstanceAs (Decidable (∀ i : Fin 8, kind (r.entries.get i) ↔ i.val = p.index))

section Flags

variable {bits : Vector Bool 8}

theorem get_ofBools (bits : Vector Bool 8) (i : Fin 8) :
    (ofBools bits).entries.get i = if bits.get i then 1 else 0 := by
  change (ofBools bits).entries[i.val] = _
  rw [ofBools, Vector.getElem_map]
  rfl

theorem binary_ofBools (bits : Vector Bool 8) : (ofBools bits).Binary := by
  intro i
  rw [get_ofBools]
  cases bits.get i with
  | false => exact .inl rfl
  | true => exact .inr rfl

theorem interpret_ofBools_of_not_oneHot (several : (ofBools bits).isOneHot = false) :
    (ofBools bits).interpret = .indeterminate := by
  rw [interpret, index?, several]
  rfl

theorem interpret_ofBools_eq_label_iff {p : Personality} :
    (ofBools bits).interpret = .label p ↔ ∀ i : Fin 8, bits.get i = true ↔ i.val = p.index := by
  have below : p.index < 8 := by cases p <;> decide
  constructor
  · intro labelled
    cases oneHot : (ofBools bits).isOneHot with
    | false =>
        rw [interpret_ofBools_of_not_oneHot oneHot] at labelled
        cases labelled
    | true =>
        obtain ⟨c, only⟩ := (isOneHot_ofBools_iff bits).mp oneHot
        obtain ⟨q, place, label⟩ := interpret_ofBools only
        rw [labelled] at label
        cases label
        intro i
        rw [only, place, Fin.ext_iff]
  · intro only
    have here : OnlyAt bits ⟨p.index, below⟩ := by
      intro i
      rw [Fin.ext_iff]
      exact only i
    obtain ⟨q, place, label⟩ := interpret_ofBools here
    rw [label, Personality.index_injective place]

theorem interpret_ofBools_eq_indeterminate_iff :
    (ofBools bits).interpret = .indeterminate ↔ bits.toList.count true ≠ 1 := by
  rw [← setCount_ofBools]
  constructor
  · intro indeterminate one
    exact interpret_ne_indeterminate (beq_iff_eq.mpr one) indeterminate
  · intro several
    exact interpret_ofBools_of_not_oneHot (beq_eq_false_iff_ne.mpr several)

end Flags

section Test

variable {r : OneHot}

/-- Entries are told apart by whether they are one, and by nothing else. -/
theorem interpret_eq_ofBools (r : OneHot) :
    r.interpret = (ofBools (r.entries.map (· == 1))).interpret := by
  have marked (b : UInt8) : ((if (b == 1) = true then 1 else 0 : UInt8) == 1) = (b == 1) := by
    cases b == 1 <;> rfl
  have count : (ofBools (r.entries.map (· == 1))).setCount = r.setCount := by
    simp only [setCount, ofBools, Vector.toList_map, List.count_eq_countP, List.countP_map,
      Function.comp_def, marked]
  have place : (ofBools (r.entries.map (· == 1))).entries.toList.findIdx? (· == 1) =
      r.entries.toList.findIdx? (· == 1) := by
    simp only [ofBools, Vector.toList_map, List.findIdx?_map, Function.comp_def, marked]
  rw [interpret, interpret, index?, index?, isOneHot, isOneHot, count, place]

theorem get_map (r : OneHot) (test : UInt8 → Bool) (i : Fin 8) :
    (r.entries.map test).get i = test (r.entries.get i) :=
  Vector.getElem_map test i.isLt

theorem label_map_iff {test : UInt8 → Bool} {p : Personality} :
    (ofBools (r.entries.map test)).interpret = .label p ↔ r.Only (test · = true) p := by
  rw [interpret_ofBools_eq_label_iff]
  simp only [get_map]
  rfl

theorem indeterminate_map_iff {test : UInt8 → Bool} :
    (ofBools (r.entries.map test)).interpret = .indeterminate ↔
      r.entries.toList.countP test ≠ 1 := by
  rw [interpret_ofBools_eq_indeterminate_iff, Vector.toList_map, List.count_eq_countP,
    List.countP_map]
  simp only [Function.comp_def, beq_true]

theorem binary_iff : r.Binary ↔ ofEntries r.entries = r := by
  have get (i : Fin 8) :
      (ofEntries r.entries).entries.get i = if r.entries.get i = 0 then 0 else 1 :=
    Vector.getElem_map _ i.isLt
  constructor
  · intro binary
    obtain ⟨entries⟩ := r
    rw [ofEntries, OneHot.mk.injEq]
    refine Vector.ext fun i inside => (get ⟨i, inside⟩).trans ?_
    rcases binary ⟨i, inside⟩ with zero | one
    · exact (if_pos zero).trans zero.symm
    · exact (if_neg (by rw [one]; decide)).trans one.symm
  · intro same i
    rw [← same, get]
    split
    · exact .inl rfl
    · exact .inr rfl

theorem Binary.map_eq (h : r.Binary) :
    r.entries.map (fun b => b == 1) = r.entries.map fun b => b != 0 := by
  refine Vector.ext fun i inside => ?_
  rw [Vector.getElem_map, Vector.getElem_map]
  rcases h ⟨i, inside⟩ with zero | one
  · change r.entries[i] = 0 at zero
    rw [zero]
    rfl
  · change r.entries[i] = 1 at one
    rw [one]
    rfl

end Test

/-- A document is read as a result just if it is the list of the entries. -/
theorem decoder_eq_ok {site : Json.Site} {j : Json} {r : OneHot} :
    decoder site j = .ok r ↔ j = r.json := by
  have listed (items : List Json) (bytes : List UInt8) :
      List.Forall₂ (fun item b => Json.uint8 site.inner item = .ok b) items bytes ↔
        items = bytes.map fun b => .ofNat b.toNat := by
    simp only [Json.uint8_eq_ok]
    rw [← List.forall₂_eq_eq_eq, List.forall₂_map_right_iff]
    rfl
  rw [decoder, Except.bind_eq_ok]
  simp only [Json.exactly_eq_ok, listed]
  constructor
  · rintro ⟨bytes, ⟨items, rfl, length, rfl⟩, made⟩
    split at made
    · cases made
      rfl
    · cases made
  · rintro rfl
    have length : r.entries.toList.length = 8 := r.entries.length_toList
    refine ⟨r.entries.toList, ⟨_, rfl, ?_, rfl⟩, dif_pos length⟩
    rw [List.length_map, length]

theorem plain_json (r : OneHot) : r.json.Plain :=
  Json.plain_map (fun b => Json.plain_ofNat (Nat.lt_trans b.toNat_lt (by decide))) _

/-- Where a result comes from. -/
inductive Source
  | given (entries : Vector UInt8 8)
  | flags (bits : Vector Bool 8)
  | payload (bytes : List UInt8)
  | evaluated (model : Model) (sample : Sample)
  | document (text : String)

namespace Source

def Gives (source : Source) (r : OneHot) : Prop :=
  match source with
  | .given entries => r = ofEntries entries
  | .flags bits => r = ofBools bits
  | .payload bytes => ofPayload bytes = .ok r
  | .evaluated model sample => r = model.evaluate sample
  | .document text => Json.decode decoder text = .ok r

instance (source : Source) (r : OneHot) : Decidable (source.Gives r) :=
  match source with
  | .given entries => inferInstanceAs (Decidable (r = ofEntries entries))
  | .flags bits => inferInstanceAs (Decidable (r = ofBools bits))
  | .payload bytes => inferInstanceAs (Decidable (ofPayload bytes = .ok r))
  | .evaluated model sample => inferInstanceAs (Decidable (r = model.evaluate sample))
  | .document text => inferInstanceAs (Decidable (Json.decode decoder text = .ok r))

/-- What a document lists is zeros and ones; of the other sources nothing is asked. -/
def Clean : Source → Prop
  | .document text => ∀ item ∈ (Json.read text).1.items, item = .ofNat 0 ∨ item = .ofNat 1
  | _ => True

/-- Whatever its entries are, a result can be written down and read. -/
theorem document_gives (r : OneHot) : (document r.json.compact).Gives r := by
  have decodes : Json.Decodes decoder r.json r := fun _ => decoder_eq_ok.mpr rfl
  exact (decodes.text r.plain_json).1

variable {source : Source} {r : OneHot}

theorem Gives.items {text : String} (h : (document text).Gives r) :
    (Json.read text).1.items = r.entries.toList.map fun b => .ofNat b.toNat := by
  rw [decoder_eq_ok.mp (Json.decode_eq_ok.mp h).1]
  rfl

theorem Gives.exists_bits (h : source.Gives r) (computed : ∀ text, source ≠ document text) :
    ∃ bits, r = ofBools bits := by
  cases source with
  | given entries =>
      refine ⟨entries.map fun b => !(b == 0), h.trans ?_⟩
      rw [ofEntries, ofBools, Vector.map_map]
      congr 2
      funext b
      by_cases zero : b = 0 <;> simp [zero]
  | flags bits => exact ⟨bits, h⟩
  | payload bytes =>
      change ofPayload bytes = .ok r at h
      by_cases cut : bytes.length < 32
      · cases (ofPayload_of_cut cut).symm.trans h
      · by_cases short : bytes.length < 40
        · cases (ofPayload_of_short (Nat.le_of_not_lt cut) short).symm.trans h
        · cases (ofPayload_of_enough (Nat.le_of_not_lt short)).symm.trans h
          exact ⟨_, rfl⟩
  | evaluated model sample => exact ⟨_, h⟩
  | document text => exact absurd rfl (computed text)

theorem Gives.binary_iff (h : source.Gives r) : r.Binary ↔ source.Clean := by
  by_cases listed : ∃ text, source = document text
  · obtain ⟨text, rfl⟩ := listed
    have byte (b c : UInt8) : Json.ofNat b.toNat = .ofNat c.toNat ↔ b = c := by
      rw [Json.ofNat, Json.ofNat, Json.number.injEq, Json.Number.integer.injEq, Int.natCast_inj,
        UInt8.toNat_inj]
    have inside (i : Fin 8) : r.entries.get i ∈ r.entries.toList := by
      simp [Vector.get]
    rw [Clean, h.items, List.forall_mem_map]
    constructor
    · intro binary b there
      obtain ⟨i, small, rfl⟩ := List.mem_iff_getElem.mp there
      rw [Vector.length_toList] at small
      exact (binary ⟨i, small⟩).imp (byte _ 0).mpr (byte _ 1).mpr
    · intro clean i
      exact (clean _ (inside i)).imp (byte _ 0).mp (byte _ 1).mp
  · have computed : ∀ text, source ≠ document text := fun text same => listed ⟨text, same⟩
    obtain ⟨bits, rfl⟩ := h.exists_bits computed
    refine iff_of_true (binary_ofBools bits) ?_
    cases source with
    | document text => exact absurd rfl (computed text)
    | given _ | flags _ | payload _ | evaluated _ _ => trivial

end Source

/-- A result is read again from what is written of it, and has the label of its only one, if there
is only one. Unless it stands in a document that lists other entries than zeros and ones it is the
result of its own entries, and the label is that of the only entry that is not zero. -/
theorem labels_of_entries {source : Source} {r : OneHot} (h : source.Gives r) :
    (Source.document r.json.compact).Gives r ∧ (r.Binary ↔ source.Clean) ∧
      (ofEntries r.entries = r ↔ source.Clean) ∧
      (∀ p, r.interpret = .label p ↔ r.Only (· = 1) p) ∧
      (r.interpret = .indeterminate ↔ r.entries.toList.countP (· == 1) ≠ 1) ∧
      (source.Clean → (∀ p, r.interpret = .label p ↔ r.Only (· ≠ 0) p) ∧
        (r.interpret = .indeterminate ↔ r.entries.toList.countP (· != 0) ≠ 1)) := by
  have binary := h.binary_iff
  refine ⟨Source.document_gives r, binary, r.binary_iff.symm.trans binary, fun p => ?_, ?_,
    fun clean => ?_⟩
  · rw [interpret_eq_ofBools, label_map_iff]
    simp only [beq_iff_eq]
  · rw [interpret_eq_ofBools, indeterminate_map_iff]
  · rw [interpret_eq_ofBools, (binary.mpr clean).map_eq]
    refine ⟨fun p => ?_, indeterminate_map_iff⟩
    rw [label_map_iff]
    simp only [bne_iff_ne]

/-- A payload may hold other bytes than zeros and ones, its result does not. A document that gives
the same result lists no others either. -/
theorem labels_of_entries_third :
    let payload : Source := .payload (List.replicate 32 9 ++ [2, 0, 1, 255, 0, 0, 0, 0])
    let document : Source := .document " [0, 0, 1, 0, 0, 0, 0, 0] "
    let r : OneHot := ⟨#v[0, 0, 1, 0, 0, 0, 0, 0]⟩
    payload.Gives r ∧ document.Gives r ∧ document.Clean ∧ r.interpret = .label .influencer := by
  intro payload document r
  have read : payload.Gives r := by decide +kernel
  have listed : document.Gives r := by decide +kernel
  have only : r.Only (· ≠ 0) .influencer := by decide
  have clean : document.Clean := (labels_of_entries listed).2.1.mp (by decide)
  obtain ⟨-, -, -, -, -, labels⟩ := labels_of_entries read
  exact ⟨read, listed, clean, ((labels trivial).1 _).mpr only⟩

/-- Documents bring about a label for a result with two entries that are not zero, and none for one
with a single such entry. -/
theorem unclean_entries_kept :
    let two : OneHot := ⟨#v[1, 7, 0, 0, 0, 0, 0, 0]⟩
    let single : OneHot := ⟨#v[0, 0, 7, 0, 0, 0, 0, 0]⟩
    (Source.document "[1,7,0,0,0,0,0,0]").Gives two ∧ ¬two.Binary ∧ ofEntries two.entries ≠ two ∧
      two.entries.toList.countP (· != 0) = 2 ∧ two.interpret = .label .degen ∧
      (Source.document "[0,0,7,0,0,0,0,0]").Gives single ∧ single.Only (· ≠ 0) .influencer ∧
      single.interpret = .indeterminate := by
  intro two single
  have unclean : ¬two.Binary := by decide
  exact ⟨by decide +kernel, unclean, mt binary_iff.mpr unclean, by decide, by decide,
    by decide +kernel, by decide, by decide⟩

end OneHot

end SealedTree
