import SealedTree.Proofs.Json.Grammar

/-!
Documents that are written and read again. Both ways of writing a document read the same: what is
read is the document again but for its numbers, each of which is read back from its own digits.
-/

namespace SealedTree.Json

/-- A number as its digits alone are read. -/
def Number.reread : Number → Json
  | .integer i => (integerParts i).numeral.json
  | .real x =>
      match Decimal.Binary.ofFloat x with
      | .finite negative significand exponent =>
          (realParts negative significand exponent).numeral.json
      | _ => .null

/-- There are digits for it. -/
def Number.HasDigits : Number → Prop
  | .integer _ => True
  | .real x => Decimal.isFinite x = true

theorem readsAs_number {n : Number} (h : n.HasDigits) : ReadsAs n.reread n.write.toList := by
  cases n with
  | integer i =>
      have read := readsAs_numeral (wellFormed_integerParts i)
      rwa [chars_integerParts] at read
  | real x =>
      rw [Number.HasDigits, Decimal.isFinite] at h
      split at h
      · next negative significand exponent finite =>
          have read := readsAs_numeral (wellFormed_realParts negative significand exponent)
          rw [chars_realParts finite] at read
          rw [Number.reread, finite]
          exact read
      · cases h

mutual

/-- The document as it is read back. -/
def reread : Json → Json
  | .number n => n.reread
  | .array items stop => .array (rereadItems items) stop
  | .object members stop => .object (rereadMembers members) stop
  | j => j

def rereadItems : List Json → List Json
  | [] => []
  | item :: rest => item.reread :: rereadItems rest

def rereadMembers : List Member → List Member
  | [] => []
  | (name, value) :: rest => (name, value.reread) :: rereadMembers rest

end

mutual

/-- All of the document is in its text. -/
def Writable : Json → Prop
  | .null | .bool _ | .string _ => True
  | .number n => n.HasDigits
  | .array items stop => stop = none ∧ WritableItems items
  | .object members stop => stop = none ∧ WritableMembers members
  | .valueless _ | .broken _ => False

def WritableItems : List Json → Prop
  | [] => True
  | item :: rest => item.Writable ∧ WritableItems rest

def WritableMembers : List Member → Prop
  | [] => True
  | (name, value) :: rest => name.isOk ∧ value.Writable ∧ WritableMembers rest

end

theorem rereadItems_eq (items : List Json) : rereadItems items = items.map reread := by
  induction items with
  | nil => rfl
  | cons item rest ih => rw [rereadItems, ih, List.map_cons]

theorem rereadMembers_eq (members : List Member) :
    rereadMembers members = members.map fun m => (m.1, m.2.reread) := by
  induction members with
  | nil => rfl
  | cons m rest ih => rw [rereadMembers, ih, List.map_cons]

theorem writableItems_iff {items : List Json} :
    WritableItems items ↔ ∀ item ∈ items, item.Writable := by
  induction items with
  | nil => simp [WritableItems]
  | cons item rest ih => rw [WritableItems, ih, List.forall_mem_cons]

theorem writableMembers_iff {members : List Member} :
    WritableMembers members ↔ ∀ m ∈ members, m.1.isOk ∧ m.2.Writable := by
  induction members with
  | nil => simp [WritableMembers]
  | cons m rest ih => rw [WritableMembers, ih, List.forall_mem_cons, and_assoc]

theorem compactItems_eq (items : List Json) : compactItems items = commas compactChars items := by
  induction items with
  | nil => rfl
  | cons item rest ih =>
      cases rest with
      | nil => rfl
      | cons next rest => rw [compactItems, ih, commas_cons_cons]; exact List.cons_ne_nil next rest

theorem compactMembers_eq (members : List Member) :
    compactMembers members = commas (spaced [] [] compactChars) members := by
  induction members with
  | nil => rfl
  | cons m rest ih =>
      cases rest with
      | nil => rfl
      | cons next rest =>
          rw [compactMembers, ih, commas_cons_cons]
          · simp [spaced, memberChars]
          · exact List.cons_ne_nil next rest

theorem prettyItems_eq (level : Nat) (items : List Json) :
    prettyItems level items = commas (fun j => lineAt level ++ prettyChars level j) items := by
  induction items with
  | nil => rfl
  | cons item rest ih =>
      cases rest with
      | nil => rfl
      | cons next rest =>
          rw [prettyItems, ih, commas_cons_cons]
          exact List.cons_ne_nil next rest

theorem prettyMembers_eq (level : Nat) (members : List Member) :
    prettyMembers level members =
      commas (spaced (lineAt level) [' '] (prettyChars level)) members := by
  induction members with
  | nil => rfl
  | cons m rest ih =>
      cases rest with
      | nil => simp [prettyMembers, commas, spaced, memberChars]
      | cons next rest =>
          rw [prettyMembers, ih, commas_cons_cons]
          · simp [spaced, memberChars]
          · exact List.cons_ne_nil next rest

theorem blank_lineAt (level : Nat) : Blank (lineAt level) := by
  rw [lineAt, Blank, List.forall_mem_cons]
  refine ⟨.inr (.inl rfl), fun c inside => .inl (List.eq_of_mem_replicate inside)⟩

/-- What holds of an array or object when it holds of all its parts holds of every document. -/
theorem induction_parts {P : Json → Prop} (null : P .null) (bool : ∀ b, P (.bool b))
    (number : ∀ n, P (.number n)) (string : ∀ s, P (.string s))
    (array : ∀ items stop, (∀ j ∈ items, P j) → P (.array items stop))
    (object : ∀ members stop, (∀ m ∈ members, P m.2) → P (.object members stop))
    (valueless : ∀ fault, P (.valueless fault)) (broken : ∀ flaw, P (.broken flaw)) :
    ∀ j, P j
  | .null => null
  | .bool b => bool b
  | .number n => number n
  | .string s => string s
  | .array items stop => array items stop fun j _ =>
      induction_parts null bool number string array object valueless broken j
  | .object members stop => object members stop fun m _ =>
      induction_parts null bool number string array object valueless broken m.2
  | .valueless fault => valueless fault
  | .broken flaw => broken flaw
termination_by j => sizeOf j
decreasing_by
  · next inside =>
      have smaller := List.sizeOf_lt_of_mem inside
      simp only [Json.array.sizeOf_spec]
      omega
  · next inside =>
      have smaller := List.sizeOf_lt_of_mem inside
      have part : sizeOf m = 1 + sizeOf m.1 + sizeOf m.2 := rfl
      simp only [Json.object.sizeOf_spec]
      omega

theorem blank_nil : Blank [] := nofun

theorem blank_space : Blank [' '] := List.forall_mem_singleton.mpr (.inl rfl)

/-- A document is read back from its text on one line. -/
theorem readsAs_compactChars (j : Json) (h : j.Writable) : ReadsAs j.reread j.compactChars := by
  induction j using induction_parts with
  | null => exact readsAs_null
  | bool b => exact readsAs_bool b
  | number n => exact readsAs_number h
  | string s => exact readsAs_string s
  | array items stop ih =>
      obtain ⟨rfl, writable⟩ := h
      rw [writableItems_iff] at writable
      rw [reread, rereadItems_eq, compactChars, compactItems_eq]
      by_cases empty : items = []
      · rw [empty]
        exact readsAs_emptyArray
      · have read := readsAs_array blank_nil blank_nil
          (fun j inside => ih j inside (writable j inside)) empty
        rwa [List.append_nil] at read
  | object members stop ih =>
      obtain ⟨rfl, writable⟩ := h
      rw [writableMembers_iff] at writable
      rw [reread, rereadMembers_eq, compactChars, compactMembers_eq]
      by_cases empty : members = []
      · rw [empty]
        exact readsAs_emptyObject
      · have read := readsAs_object blank_nil blank_nil blank_nil
          (fun m inside => ⟨(writable m inside).1, ih m inside (writable m inside).2⟩) empty
        rwa [List.append_nil] at read
  | valueless fault | broken flaw => exact h.elim

/-- A document is read back from its text on many lines. -/
theorem readsAs_prettyChars (j : Json) (h : j.Writable) (level : Nat) :
    ReadsAs j.reread (j.prettyChars level) := by
  induction j using induction_parts generalizing level with
  | null => exact readsAs_null
  | bool b => cases b <;> exact readsAs_bool _
  | number n => exact readsAs_number h
  | string s => exact readsAs_string s
  | array items stop ih =>
      obtain ⟨rfl, writable⟩ := h
      rw [writableItems_iff] at writable
      rw [reread, rereadItems_eq]
      cases items with
      | nil => exact readsAs_emptyArray
      | cons item rest =>
          rw [prettyChars, prettyItems_eq]
          · exact readsAs_array (blank_lineAt (level + 1)) (blank_lineAt level)
              (fun j inside => ih j inside (writable j inside) (level + 1))
              (List.cons_ne_nil item rest)
          · exact List.cons_ne_nil item rest
  | object members stop ih =>
      obtain ⟨rfl, writable⟩ := h
      rw [writableMembers_iff] at writable
      rw [reread, rereadMembers_eq]
      cases members with
      | nil => exact readsAs_emptyObject
      | cons m rest =>
          rw [prettyChars, prettyMembers_eq]
          · exact readsAs_object (blank_lineAt (level + 1)) (blank_lineAt level) blank_space
              (fun m inside =>
                ⟨(writable m inside).1, ih m inside (writable m inside).2 (level + 1)⟩)
              (List.cons_ne_nil m rest)
          · exact List.cons_ne_nil m rest
  | valueless fault | broken flaw => exact h.elim

theorem read_of_readsAs {j : Json} {text : String} (h : ReadsAs j text.toList) :
    read text = (j, some []) := by
  have read := h.read (2 * text.toList.length + 2) [] (by omega) nofun
  rwa [List.append_nil] at read

/-- Decoding a text is decoding the document that it is read as. -/
theorem decode_of_readsAs {j : Json} {text : String} (h : ReadsAs j text.toList)
    (d : Decoder α) : decode d text = d .top j := by
  rw [decode, read_of_readsAs h, Decoder.whole]
  cases d .top j with
  | ok a => rfl
  | error e => rfl

theorem decode_compact {j : Json} (h : j.Writable) (d : Decoder α) :
    decode d j.compact = d .top j.reread :=
  decode_of_readsAs (by rw [compact, String.toList_ofList]; exact j.readsAs_compactChars h) d

theorem decode_pretty {j : Json} (h : j.Writable) (d : Decoder α) :
    decode d j.pretty = d .top j.reread :=
  decode_of_readsAs (by rw [pretty, String.toList_ofList]; exact j.readsAs_prettyChars h 0) d

theorem reread_ofNat {n : Nat} (small : n < 18446744073709551616) :
    (ofNat n).reread = ofNat n := by
  have value := value_integerParts (i := n) (by omega) (by omega)
  rw [ofNat, reread, Number.reread, Numeral.json, value]

theorem reread_uint32 (n : UInt32) : (ofNat n.toNat).reread = ofNat n.toNat :=
  reread_ofNat (Nat.lt_trans n.toNat_lt_size (by decide))

theorem reread_uint16 (n : UInt16) : (ofNat n.toNat).reread = ofNat n.toNat :=
  reread_ofNat (Nat.lt_trans n.toNat_lt_size (by decide))

theorem reread_ofMembers (members : List (String × Json)) :
    (ofMembers members).reread = ofMembers (members.map fun m => (m.1, m.2.reread)) := by
  rw [ofMembers, reread, rereadMembers_eq, ofMembers, List.map_map, List.map_map]
  rfl

theorem reread_ofList (items : List Json) : (ofList items).reread = ofList (items.map reread) := by
  rw [ofList, reread, rereadItems_eq]
  rfl

theorem writable_ofNat (n : Nat) : (ofNat n).Writable := trivial

theorem writable_ofFloat (x : Float) : (ofFloat x).Writable := by
  rw [ofFloat]
  split
  · next finite => exact finite
  · trivial

theorem writable_ofList {items : List Json} (h : ∀ j ∈ items, j.Writable) :
    (ofList items).Writable :=
  ⟨rfl, writableItems_iff.mpr h⟩

theorem writable_ofMembers {members : List (String × Json)} (h : ∀ m ∈ members, m.2.Writable) :
    (ofMembers members).Writable := by
  refine ⟨rfl, writableMembers_iff.mpr ?_⟩
  intro m inside
  obtain ⟨named, among, rfl⟩ := List.mem_map.mp inside
  exact ⟨rfl, h named among⟩

end SealedTree.Json
