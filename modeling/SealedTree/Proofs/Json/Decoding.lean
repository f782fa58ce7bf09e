import SealedTree.Proofs.Json.Records
import SealedTree.Proofs.Json.Rereading

/-!
What decoders make of documents. A record whose members are its fields in their declared order is
read field by field, and the first field that is not as its slot wants it is what is wrong.
-/

namespace SealedTree.Json

variable {α β : Type}

/-- The decoder takes the document for this value, wherever it stands. -/
def Decodes (d : Decoder α) (j : Json) (a : α) : Prop := ∀ site, d site j = .ok a

theorem Decodes.map {d : Decoder α} {j : Json} {a : α} (h : Decodes d j a) (f : α → β) :
    Decodes (d.map f) j (f a) := by
  intro site
  rw [Decoder.map, h site]
  rfl

theorem Decodes.refine {d : Decoder α} {j : Json} {a : α} {f : α → Except String β} {b : β}
    (h : Decodes d j a) (accepted : f a = .ok b) : Decodes (d.refine f) j b := by
  intro site
  rw [Decoder.refine, h site]
  simp only [bind, Except.bind, accepted]

theorem decodes_text (s : String) : Decodes text (.string s) s := fun _ => rfl

theorem decodes_integer (name : String) {low high i : Int} (above : low ≤ i) (below : i ≤ high) :
    Decodes (integer name low high) (.number (.integer i)) i :=
  fun _ => if_pos ⟨above, below⟩

theorem decodes_uint16 (n : UInt16) : Decodes uint16 (.ofNat n.toNat) n := by
  have small : n.toNat < 2 ^ 16 := n.toNat_lt
  have inRange : (n.toNat : Int) ≤ 65535 := by omega
  have read := (decodes_integer "u16" (Int.natCast_nonneg n.toNat) inRange).map
    fun i => UInt16.ofNat i.toNat
  rwa [Int.toNat_natCast, UInt16.ofNat_toNat] at read

theorem decodes_uint32 (n : UInt32) : Decodes uint32 (.ofNat n.toNat) n := by
  have small : n.toNat < 2 ^ 32 := n.toNat_lt
  have inRange : (n.toNat : Int) ≤ 4294967295 := by omega
  have read := (decodes_integer "u32" (Int.natCast_nonneg n.toNat) inRange).map
    fun i => UInt32.ofNat i.toNat
  rwa [Int.toNat_natCast, UInt32.ofNat_toNat] at read

theorem decodes_uint64 (n : UInt64) : Decodes uint64 (.ofNat n.toNat) n := by
  have small : n.toNat < 2 ^ 64 := n.toNat_lt
  have inRange : (n.toNat : Int) ≤ 18446744073709551615 := by omega
  have read := (decodes_integer "u64" (Int.natCast_nonneg n.toNat) inRange).map
    fun i => UInt64.ofNat i.toNat
  rwa [Int.toNat_natCast, UInt64.ofNat_toNat] at read

theorem decodes_uint8 (n : UInt8) : Decodes uint8 (.ofNat n.toNat) n :=
  fun _ => uint8_eq_ok.mpr rfl

theorem decodes_count {n : Nat} (small : n < 18446744073709551616) :
    Decodes count (.ofNat n) n := by
  have inRange : (n : Int) ≤ 18446744073709551615 := by omega
  exact (decodes_integer "usize" (Int.natCast_nonneg n) inRange).map Int.toNat

/-- A value that is not written as nothing may also be left open. -/
theorem decodes_optional {d : Decoder α} {j : Json} {a : α} (h : Decodes d j a) (some : j ≠ .null) :
    Decodes (optional d) j (.some a) := by
  intro site
  rw [optional, h site]
  · rfl
  · exact some

theorem decodes_list {d : Decoder α} {f : α → Json} (h : ∀ a, Decodes d (f a) a) (l : List α) :
    Decodes (list d) (.ofList (l.map f)) l := by
  intro site
  have each : ∀ index, eachItem d site.inner index (l.map f) = .ok l := by
    induction l with
    | nil => exact fun _ => rfl
    | cons a rest ih =>
        intro index
        rw [List.map_cons, eachItem, h a, ih]
        rfl
  rw [ofList, list, each]
  rfl

/-- A field that is there, with its slot. -/
structure Entry where
  slot : Slot
  value : Json

namespace Entry

def field (e : Entry) : String × Json := (e.slot.name, e.value)

/-- The first field that is not as its slot wants it. -/
def check (site : Site) : List Entry → Except Error Unit
  | [] => .ok ()
  | e :: rest => do
      within (.name e.slot.name) (e.slot.check site.inner e.value)
      check site rest

/-- No two of the fields have the same name. -/
def Distinct (entries : List Entry) : Prop := (entries.map fun e => e.slot.name).Nodup

instance (entries : List Entry) : Decidable (Distinct entries) :=
  inferInstanceAs (Decidable (List.Nodup _))

end Entry

section Distinct

variable {done rest : List Entry} {e : Entry}
  (distinct : Entry.Distinct (done ++ e :: rest))

include distinct

theorem name_ne_of_mem_done {other : Entry} (inside : other ∈ done) :
    other.slot.name ≠ e.slot.name := by
  rw [Entry.Distinct, List.map_append, List.map_cons] at distinct
  exact (List.nodup_append.mp distinct).2.2 _ (List.mem_map_of_mem inside) _ List.mem_cons_self

theorem find?_slot :
    ((done ++ e :: rest).map Entry.slot).find? (·.name == e.slot.name) = some e.slot := by
  have names : (((done ++ e :: rest).map Entry.slot).map Slot.name).Nodup := by
    rw [List.map_map]
    exact distinct
  have inside : e ∈ done ++ e :: rest := List.mem_append_right done List.mem_cons_self
  exact find?_of_mem names (List.mem_map_of_mem inside)

theorem lookup_done : (done.map Entry.field).lookup e.slot.name = none := by
  rw [List.lookup_eq_none_iff]
  intro field inside
  obtain ⟨other, among, rfl⟩ := List.mem_map.mp inside
  simpa [Entry.field] using (name_ne_of_mem_done distinct among).symm

end Distinct

theorem isSome_lookup_of_mem {entries : List Entry} {e : Entry} (inside : e ∈ entries) :
    ((entries.map Entry.field).lookup e.slot.name).isSome := by
  have field := List.mem_map_of_mem (f := Entry.field) inside
  exact isSome_lookup_iff.mpr (List.mem_map_of_mem (f := Prod.fst) field)

theorem memberFields_entries (site : Site) {done rest : List Entry}
    (distinct : Entry.Distinct (done ++ rest)) :
    memberFields ((done ++ rest).map Entry.slot) site none (done.map Entry.field)
        (rest.map fun e => (.ok e.slot.name, e.value)) =
      (Entry.check site rest).map fun _ => (done ++ rest).map Entry.field := by
  induction rest generalizing done with
  | nil =>
      have complete : (done.map Entry.slot).find?
          (fun s => s.required && ((done.map Entry.field).lookup s.name).isNone) = none := by
        rw [List.find?_eq_none]
        intro s inside
        obtain ⟨e, among, rfl⟩ := List.mem_map.mp inside
        have found := isSome_lookup_of_mem among
        rw [Option.isSome_iff_ne_none] at found
        simp [found]
      rw [List.append_nil, List.map_nil, memberFields, complete]
      rfl
  | cons e rest ih =>
      have whole : done ++ [e] ++ rest = done ++ e :: rest := List.append_cons .. |>.symm
      have taken : (done ++ [e]).map Entry.field = done.map Entry.field ++ [e.field] :=
        List.map_append
      have next := ih (whole ▸ distinct)
      rw [whole, taken] at next
      rw [List.map_cons, memberFields, find?_slot distinct]
      simp only [lookup_done distinct, Option.isSome_none, Bool.false_eq_true, if_false,
        Entry.check]
      cases within (.name e.slot.name) (e.slot.check site.inner e.value) with
      | error failure => rfl
      | ok _ => exact next

/-- A record with all its fields in order. -/
theorem fields_entries (title : String) (site : Site) {entries : List Entry}
    (distinct : Entry.Distinct entries) :
    fields title (entries.map Entry.slot) site (.ofMembers (entries.map Entry.field)) =
      (Entry.check site entries).map fun _ => entries.map Entry.field := by
  rw [ofMembers, fields, List.map_map]
  have whole : Entry.Distinct ([] ++ entries) := distinct
  exact memberFields_entries site whole

theorem Entry.check_cons {d : Decoder α} (slot : Slot)
    (same : slot.check = d.map fun _ => ()) (site : Site) (value : Json) (rest : List Entry) :
    check site (⟨slot, value⟩ :: rest) = (do
      let _ ← within (.name slot.name) (d site.inner value)
      check site rest) := by
  rw [check, same, Decoder.map]
  cases d site.inner value with
  | ok a => rfl
  | error e => rfl

/-- A field that is as its slot wants it. -/
theorem Entry.check_cons_of_decodes {d : Decoder α} {value : Json} {a : α}
    (h : Decodes d value a) (slot : Slot) (same : slot.check = d.map fun _ => ()) (site : Site)
    (rest : List Entry) : check site (⟨slot, value⟩ :: rest) = check site rest := by
  rw [check_cons slot same, h]
  rfl

theorem Fields.getOr_eq {fields : Fields} {name : String} {j : Json}
    (found : fields.lookup name = some j) (site : Site) (d : Decoder α) (absent : α) :
    fields.getOr site name d absent = d site.inner j := by
  rw [getOr, found]

theorem Fields.get_eq {fields : Fields} {name : String} {j : Json}
    (found : fields.lookup name = some j) (site : Site) (d : Decoder α) :
    fields.get site name d = d site.inner j := by
  rw [get, found]

/-- A document without fractions and without a name twice in one object, whose integers 64 bits
hold. -/
inductive Plain : Json → Prop
  | null : Plain .null
  | bool (b : Bool) : Plain (.bool b)
  | string (s : String) : Plain (.string s)
  | ofInt {i : Int} (low : -9223372036854775808 ≤ i) (high : i < 18446744073709551616) :
      Plain (.ofInt i)
  | ofList {items : List Json} (each : ∀ item ∈ items, Plain item) : Plain (.ofList items)
  | ofMembers {members : List (String × Json)} (distinct : (members.map Prod.fst).Nodup)
      (each : ∀ m ∈ members, Plain m.2) : Plain (.ofMembers members)

theorem Plain.sound {j : Json} (h : j.Plain) : j.Sound := by
  induction h with
  | null => exact .null
  | bool b => exact .bool b
  | string s => exact .string s
  | ofInt low high => exact .number _
  | ofList each ih => exact .array ih
  | @ofMembers members distinct each ih =>
      refine .object ?_ fun m inside => ?_
      · rwa [← Json.ofMembers, members_ofMembers]
      · obtain ⟨named, among, rfl⟩ := List.mem_map.mp inside
        exact ih named among

theorem Plain.writable {j : Json} (h : j.Plain) : j.Writable := by
  induction h with
  | null | bool _ | string _ | ofInt _ _ => trivial
  | ofList each ih => exact writable_ofList ih
  | ofMembers distinct each ih => exact writable_ofMembers ih

theorem Plain.reread_eq {j : Json} (h : j.Plain) : j.reread = j := by
  induction h with
  | null | bool _ | string _ => rfl
  | ofInt low high =>
      rw [Json.ofInt, reread, Number.reread, Numeral.json, value_integerParts low high]
  | @ofList items each ih =>
      rw [reread_ofList, List.map_congr_left ih, List.map_id']
  | @ofMembers members distinct each ih =>
      have same : ∀ m ∈ members, (m.1, m.2.reread) = m := fun m inside => by rw [ih m inside]
      rw [reread_ofMembers, List.map_congr_left same, List.map_id']

theorem plain_map {f : α → Json} (h : ∀ a, (f a).Plain) (l : List α) : (ofList (l.map f)).Plain :=
  .ofList (List.forall_mem_map.mpr fun a _ => h a)

theorem plain_ofOption {f : α → Json} (h : ∀ a, (f a).Plain) (o : Option α) :
    (ofOption (o.map f)).Plain := by
  cases o with
  | none => exact .null
  | some a => exact h a

theorem inObjectForm_ofMembers (members : List (String × Json)) :
    (ofMembers members).InObjectForm := by
  intro m inside
  obtain ⟨named, among, rfl⟩ := List.mem_map.mp inside
  rfl

theorem inObjectForm_map {f : α → Json} (h : ∀ a, (f a).InObjectForm) {as : List α} {list : Json}
    (same : some (ofList (as.map f)) = some list) : ∀ item ∈ list.items, item.InObjectForm := by
  cases same
  exact List.forall_mem_map.mpr fun a _ => h a

theorem plain_ofNat {n : Nat} (small : n < 18446744073709551616) : (ofNat n).Plain :=
  .ofInt (by omega) (by omega)

theorem Plain.read_compact {j : Json} (h : j.Plain) : read j.compact = (j, some []) := by
  have whole := j.readsAs_compactChars h.writable
  rw [h.reread_eq] at whole
  exact read_of_readsAs (by rwa [compact, String.toList_ofList])

/-- A plain document is read from either of its texts. -/
theorem Decodes.text {d : Decoder α} {j : Json} {a : α} (h : Decodes d j a) (plain : j.Plain) :
    decode d j.compact = .ok a ∧ decode d j.pretty = .ok a := by
  rw [decode_compact plain.writable, decode_pretty plain.writable, plain.reread_eq, h]
  exact ⟨rfl, rfl⟩

end SealedTree.Json
