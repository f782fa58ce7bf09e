import Mathlib.Data.List.Forall2
import Mathlib.Data.List.Nodup
import SealedTree.Json.Lookup
import SealedTree.Proofs.Json.Grammar
import SealedTree.Proofs.Success

/-!
What decoders accept. A record in object form is read just if each of its slots finds what it wants
under its name; what has no slot does not matter, as long as it is written to its end. A list is
read just if each of its items is.
-/

namespace SealedTree.Json

variable {α β : Type}

theorem within_eq_ok {step : Step} {result : Except Error α} {a : α} :
    within step result = .ok a ↔ result = .ok a :=
  Except.mapError_eq_ok

theorem ending_eq_ok {stop : Option Flaw} {u : Unit} : ending stop = .ok u ↔ stop = none := by
  cases stop with
  | none => simp [ending]
  | some flaw => simp [ending, stopAt]

theorem wrongKind_ne_ok {expected : String} {j : Json} {a : α} : wrongKind expected j ≠ .ok a := by
  rw [wrongKind]
  cases j.found? with
  | ok found => exact nofun
  | error fault => exact nofun

/-- A value that goes on to its end, and whose objects have no name twice. Numbers and strings
without a value may stand in it. -/
inductive Sound : Json → Prop
  | null : Sound .null
  | bool (b : Bool) : Sound (.bool b)
  | number (n : Number) : Sound (.number n)
  | string (s : String) : Sound (.string s)
  | valueless (fault : Fault) : Sound (.valueless fault)
  | array {items : List Json} (each : ∀ item ∈ items, Sound item) : Sound (.array items none)
  | object {members : List Member}
      (distinct : ((object members none).members.map Prod.fst).Nodup)
      (each : ∀ m ∈ members, Sound m.2) : Sound (.object members none)

theorem skipItems_eq_ok {items : List Json} {u : Unit} :
    skipItems items = .ok u ↔ ∀ item ∈ items, skip item = .ok () := by
  induction items with
  | nil => simp [skipItems]
  | cons item rest ih => rw [skipItems, Except.then_eq_ok, ih, List.forall_mem_cons]

theorem skipMembers_eq_ok {members : List Member} {u : Unit} :
    skipMembers members = .ok u ↔ ∀ m ∈ members, skip m.2 = .ok () := by
  induction members with
  | nil => simp [skipMembers]
  | cons m rest ih => rw [skipMembers, Except.then_eq_ok, ih, List.forall_mem_cons]

/-- A sound value can be passed over. -/
theorem Sound.skip {j : Json} (h : j.Sound) : skip j = .ok () := by
  induction h with
  | null | bool _ | number _ | string _ | valueless _ => rfl
  | array _ ih =>
      rw [Json.skip, Except.then_eq_ok]
      exact ⟨skipItems_eq_ok.mpr ih, rfl⟩
  | object _ _ ih =>
      rw [Json.skip, Except.then_eq_ok]
      exact ⟨skipMembers_eq_ok.mpr ih, rfl⟩

/-- What the slots of a record make of a member: its name is a text, its value is as its slot wants
it, or can be passed over if it has none. -/
def Suits (slots : List Slot) (site : Site) (m : Member) : Prop :=
  ∃ name, m.1 = .ok name ∧
    match slots.find? (·.name == name) with
    | none => skip m.2 = .ok ()
    | some s => s.check site.inner m.2 = .ok ()

/-- The members that have a slot. -/
def slotted (slots : List Slot) (members : List (String × Json)) : Fields :=
  members.filter fun m => (slots.find? (·.name == m.1)).isSome

theorem isSome_lookup_iff {fields : Fields} {name : String} :
    (fields.lookup name).isSome ↔ name ∈ fields.map Prod.fst := by
  rw [← not_iff_not, Option.not_isSome_iff_eq_none, List.lookup_eq_none_iff, List.mem_map]
  simp only [bne_iff_ne, ne_eq]
  constructor
  · rintro other ⟨field, inside, rfl⟩
    exact other field inside rfl
  · rintro other field inside rfl
    exact other ⟨field, inside, rfl⟩

/-- A record is read from an object just if its members suit the slots, none of which is filled
twice, and no required one is left empty. -/
theorem memberFields_eq_ok {slots : List Slot} {site : Site} {stop : Option Flaw}
    {done fields : Fields} {members : List Member} (fresh : (done.map Prod.fst).Nodup) :
    memberFields slots site stop done members = .ok fields ↔
      stop = none ∧ (∀ m ∈ members, Suits slots site m) ∧
        fields = done ++ slotted slots (object members stop).members ∧
        (fields.map Prod.fst).Nodup ∧
        ∀ s ∈ slots, s.required = true → (fields.lookup s.name).isSome := by
  induction members generalizing done with
  | nil =>
      have same : done ++ slotted slots (object [] stop).members = done := List.append_nil done
      rw [memberFields, Except.then_eq_ok, ending_eq_ok, same]
      refine and_congr_right fun _ => ?_
      split
      · next s empty =>
          simp only [List.find?_eq_some_iff_append, Bool.and_eq_true] at empty
          obtain ⟨⟨required, absent⟩, before, behind, rfl, -⟩ := empty
          constructor
          · intro h
            cases h
          · rintro ⟨-, rfl, -, filled⟩
            have there := filled s (by simp) required
            rw [Option.isNone_iff_eq_none] at absent
            rw [absent] at there
            cases there
      · next filled =>
          simp only [List.find?_eq_none, Bool.and_eq_true, Option.isNone_iff_eq_none,
            not_and] at filled
          constructor
          · rintro ⟨⟩
            exact ⟨List.forall_mem_nil _, rfl, fresh, fun s inside required =>
              Option.isSome_iff_ne_none.mpr (filled s inside required)⟩
          · rintro ⟨-, rfl, -⟩
            rfl
  | cons m rest ih =>
      obtain ⟨fault | name, value⟩ := m
      · rw [memberFields]
        constructor
        · intro h
          cases h
        · rintro ⟨-, suits, -⟩
          obtain ⟨name, same, -⟩ := suits _ List.mem_cons_self
          cases same
      · rw [memberFields, List.forall_mem_cons]
        cases found : slots.find? (·.name == name) with
        | none =>
            have here : Suits slots site (.ok name, value) ↔ skip value = .ok () := by
              simp [Suits, found]
            have same : slotted slots (object ((.ok name, value) :: rest) stop).members =
                slotted slots (object rest stop).members :=
              List.filter_cons_of_neg (by simp [found])
            rw [here, same]
            simp only
            rw [Except.then_eq_ok, ih fresh, and_left_comm, and_assoc]
        | some s =>
            have here : Suits slots site (.ok name, value) ↔
                s.check site.inner value = .ok () := by
              simp [Suits, found]
            have same : slotted slots (object ((.ok name, value) :: rest) stop).members =
                (name, value) :: slotted slots (object rest stop).members :=
              List.filter_cons_of_pos (by simp [found])
            by_cases filled : (done.lookup name).isSome
            · simp only [filled, if_true]
              constructor
              · intro h
                cases h
              · rintro ⟨-, -, rfl, single, -⟩
                rw [same, List.map_append, List.nodup_append] at single
                exact absurd rfl (single.2.2 name (isSome_lookup_iff.mp filled) name
                  List.mem_cons_self)
            · have fresh' : ((done ++ [(name, value)]).map Prod.fst).Nodup := by
                rw [List.map_append, List.nodup_append]
                refine ⟨fresh, List.nodup_singleton name, ?_⟩
                rintro _ inside _ only rfl
                rw [List.mem_singleton.mp only] at inside
                exact filled (isSome_lookup_iff.mpr inside)
              rw [here, same]
              simp only [filled]
              rw [if_neg Bool.false_ne_true, Except.then_eq_ok, within_eq_ok, ih fresh',
                List.append_assoc, List.singleton_append, and_left_comm, and_assoc]

/-- A record that is read from an array has its fields from the front of it. -/
theorem itemFields_eq_ok {title : String} {site : Site} {stop : Option Flaw} {index : Nat}
    {slots : List Slot} {items : List Json} {fields : Fields}
    (read : itemFields title site stop index slots items = .ok fields) :
    fields = (slots.zip items).map (fun (s, item) => (s.name, item)) ∧
      ∀ p ∈ slots.zip items, p.1.check site.inner p.2 = .ok () := by
  induction slots generalizing index items fields with
  | nil =>
      rw [itemFields, Except.then_eq_ok] at read
      cases read.2
      exact ⟨rfl, nofun⟩
  | cons s slots ih =>
      cases items with
      | nil =>
          rw [itemFields, Except.then_eq_ok] at read
          have rest := read.2
          dsimp only at rest
          split at rest
          · cases rest
          · have later := (ih rest).1
            rw [List.zip_nil_right] at later
            exact ⟨later, nofun⟩
      | cons item items =>
          rw [itemFields, Except.then_eq_ok, within_eq_ok, Except.bind_eq_ok] at read
          obtain ⟨checked, rest, read, same⟩ := read
          cases same
          obtain ⟨rfl, each⟩ := ih read
          exact ⟨rfl, List.forall_mem_cons.mpr ⟨checked, each⟩⟩

/-- The value is not written as an array, and its names are texts. -/
def InObjectForm : Json → Prop
  | .array .. => False
  | .object members _ => ∀ m ∈ members, m.1.isOk = true
  | _ => True

/-- What stands under the name of the slot is as the slot wants it; nothing may stand there if it is
not required. -/
def Slot.Fits (s : Slot) (site : Site) (j : Json) : Prop :=
  match j.member? s.name with
  | none => s.required = false
  | some value => s.check site.inner value = .ok ()

theorem lookup_slotted {slots : List Slot} {members : List (String × Json)} {s : Slot}
    (inside : s ∈ slots) : (slotted slots members).lookup s.name = members.lookup s.name := by
  induction members with
  | nil => rfl
  | cons m rest ih =>
      obtain ⟨name, value⟩ := m
      by_cases here : s.name = name
      · subst here
        have known : (slots.find? (·.name == s.name)).isSome :=
          List.find?_isSome.mpr ⟨s, inside, beq_self_eq_true _⟩
        have kept : slotted slots ((s.name, value) :: rest) =
            (s.name, value) :: slotted slots rest := List.filter_cons_of_pos known
        rw [kept, List.lookup_cons_self, List.lookup_cons_self]
      · have behind (l : Fields) : ((name, value) :: l).lookup s.name = l.lookup s.name := by
          rw [List.lookup_cons, beq_false_of_ne here]
        by_cases known : (slots.find? (·.name == name)).isSome
        · have kept : slotted slots ((name, value) :: rest) = (name, value) :: slotted slots rest :=
            List.filter_cons_of_pos known
          rw [kept, behind, behind, ih]
        · have dropped : slotted slots ((name, value) :: rest) = slotted slots rest :=
            List.filter_cons_of_neg known
          rw [dropped, behind, ih]

theorem mem_of_lookup {members : List (String × Json)} {name : String} {value : Json}
    (h : members.lookup name = some value) : (name, value) ∈ members := by
  obtain ⟨before, behind, rfl, -⟩ := List.lookup_eq_some_iff.mp h
  exact List.mem_append_right before List.mem_cons_self

theorem lookup_of_mem {members : List (String × Json)} (distinct : (members.map Prod.fst).Nodup)
    {name : String} {value : Json} (h : (name, value) ∈ members) :
    members.lookup name = some value := by
  obtain ⟨before, behind, rfl⟩ := List.append_of_mem h
  refine List.lookup_eq_some_iff.mpr ⟨before, behind, rfl, fun m inside => ?_⟩
  rw [List.map_append, List.map_cons, List.nodup_append] at distinct
  rw [bne_iff_ne, ne_comm]
  exact distinct.2.2 m.1 (List.mem_map_of_mem inside) name List.mem_cons_self

theorem mem_members {members : List Member} {stop : Option Flaw} {name : String} {value : Json} :
    (name, value) ∈ (object members stop).members ↔ (.ok name, value) ∈ members := by
  rw [Json.members, List.mem_filterMap]
  constructor
  · rintro ⟨⟨fault | name, value⟩, inside, same⟩
    · cases same
    · cases same
      exact inside
  · exact fun inside => ⟨_, inside, rfl⟩

theorem find?_of_mem {slots : List Slot} (distinct : (slots.map Slot.name).Nodup) {s : Slot}
    (inside : s ∈ slots) : slots.find? (·.name == s.name) = some s := by
  obtain ⟨before, behind, rfl⟩ := List.append_of_mem inside
  refine List.find?_eq_some_iff_append.mpr
    ⟨beq_self_eq_true _, before, behind, rfl, fun other among => ?_⟩
  rw [List.map_append, List.map_cons, List.nodup_append] at distinct
  simpa using distinct.2.2 other.name (List.mem_map_of_mem among) s.name List.mem_cons_self

section Record

variable {title : String} {slots : List Slot} {site : Site} {j : Json}

/-- What stands under the name of a slot is what is read for it, and is as the slot wants it. -/
theorem check_of_fields {fields : Fields} (distinct : (slots.map Slot.name).Nodup)
    (read : Json.fields title slots site j = .ok fields) {s : Slot} (inside : s ∈ slots)
    {value : Json} (there : j.member? s.name = some value) :
    fields.lookup s.name = some value ∧ s.check site.inner value = .ok () := by
  cases j with
  | object members stop =>
      have fresh : (([] : Fields).map Prod.fst).Nodup := List.nodup_nil
      obtain ⟨-, suits, rfl, -⟩ := (memberFields_eq_ok fresh).mp read
      obtain ⟨name, named, suited⟩ := suits _ (mem_members.mp (mem_of_lookup there))
      cases named
      rw [find?_of_mem distinct inside] at suited
      exact ⟨(lookup_slotted inside).trans there, suited⟩
  | _ => cases there

/-- A record in object form is read just if every slot fits. -/
theorem fields_eq_ok {fields : Fields} (distinct : (slots.map Slot.name).Nodup) (sound : j.Sound)
    (form : j.InObjectForm) : Json.fields title slots site j = .ok fields ↔
      (∃ members, j = .object members none) ∧ fields = slotted slots j.members ∧
        ∀ s ∈ slots, s.Fits site j := by
  cases sound with
  | array each => exact form.elim
  | object single each =>
      rename_i members
      have fresh : (([] : Fields).map Prod.fst).Nodup := List.nodup_nil
      constructor
      · intro read
        obtain ⟨-, -, rfl, -, filled⟩ := (memberFields_eq_ok fresh).mp read
        refine ⟨⟨members, rfl⟩, rfl, fun s inside => ?_⟩
        have same : (slotted slots (object members none).members).lookup s.name = _ :=
          lookup_slotted inside
        cases found : (object members none).members.lookup s.name with
        | none =>
            have optional := filled s inside
            rw [List.nil_append, same, found] at optional
            rw [Slot.Fits, member?, found]
            simpa using optional
        | some value =>
            rw [Slot.Fits, member?, found]
            exact (check_of_fields distinct read inside found).2
      · rintro ⟨-, rfl, fits⟩
        refine (memberFields_eq_ok fresh).mpr ⟨rfl, fun m inside => ?_, (List.nil_append _).symm,
          ?_, fun s inside required => ?_⟩
        · obtain ⟨fault | name, value⟩ := m
          · cases form _ inside
          · refine ⟨name, rfl, ?_⟩
            split
            · exact (each _ inside).skip
            · next s found =>
                have named : s.name = name := by simpa using List.find?_some found
                have there := lookup_of_mem single (mem_members.mpr inside)
                have fit := fits s (List.mem_of_find?_eq_some found)
                rw [Slot.Fits, member?, named, there] at fit
                exact fit
        · exact single.sublist (List.filter_sublist.map Prod.fst)
        · rw [lookup_slotted inside]
          have fit := fits s inside
          rw [Slot.Fits, member?] at fit
          cases found : (object members none).members.lookup s.name with
          | some value => rfl
          | none =>
              rw [found] at fit
              exact absurd required (by simp [fit])
  | _ =>
      constructor
      · intro h
        simp only [Json.fields] at h
        exact (wrongKind_ne_ok h).elim
      · rintro ⟨⟨members, same⟩, -⟩
        cases same

/-- Under the name stands a value that the decoder takes for this. -/
def Holds (j : Json) (site : Site) (name : String) (d : Decoder α) (a : α) : Prop :=
  ∃ value, j.member? name = some value ∧ d site.inner value = .ok a

theorem slot_fits {name : String} {d : Decoder α} :
    (slot name d).Fits site j ↔ ∃ a, j.Holds site name d a := by
  change (match j.member? name with
    | none => (true = false)
    | some value => (d site.inner value).map (fun _ => ()) = .ok ()) ↔ _
  simp only [Holds]
  cases j.member? name with
  | none => simp
  | some value => simp [Except.map_eq_ok]

theorem Sound.object_of_member? (sound : j.Sound) {name : String} {value : Json}
    (there : j.member? name = some value) :
    (∃ members, j = .object members none) ∧ value.Sound := by
  cases sound with
  | object distinct each =>
      exact ⟨⟨_, rfl⟩, each _ (mem_members.mp (mem_of_lookup there))⟩
  | _ => cases there

theorem Sound.item (sound : j.Sound) {item : Json} (inside : item ∈ j.items) : item.Sound := by
  cases sound with
  | array each => exact each item inside
  | _ => cases inside

/-- What is made of the members of a record in object form that fits. -/
theorem fields_bind_eq_ok {k : Fields → Except Error β} {b : β}
    (distinct : (slots.map Slot.name).Nodup) (sound : j.Sound) (form : j.InObjectForm) :
    (Json.fields title slots site j >>= k) = .ok b ↔
      (∃ members, j = .object members none) ∧ (∀ s ∈ slots, s.Fits site j) ∧
        k (slotted slots j.members) = .ok b := by
  rw [Except.bind_eq_ok]
  simp only [fields_eq_ok distinct sound form]
  constructor
  · rintro ⟨_, ⟨object, rfl, fits⟩, made⟩
    exact ⟨object, fits, made⟩
  · rintro ⟨object, fits, made⟩
    exact ⟨_, ⟨object, rfl, fits⟩, made⟩

theorem get_slotted {s : Slot} (inside : s ∈ slots) {d : Decoder α} {a : α} :
    (slotted slots j.members).get site s.name d = .ok a ↔ j.Holds site s.name d a := by
  rw [Fields.get, lookup_slotted inside, ← member?, Holds]
  cases j.member? s.name with
  | none => simp [fail]
  | some value => simp

/-- A record of one field. -/
theorem field_eq_ok {name : String} {d : Decoder α} {a : α} (sound : j.Sound)
    (form : j.InObjectForm) :
    (Json.fields title [slot name d] site j >>= fun fields => fields.get site name d) = .ok a ↔
      j.Holds site name d a := by
  have inside : slot name d ∈ [slot name d] := List.mem_cons_self
  have distinct : ([slot name d].map Slot.name).Nodup := List.nodup_singleton _
  rw [fields_bind_eq_ok distinct sound form]
  constructor
  · intro h
    exact (get_slotted inside).mp h.2.2
  · intro h
    refine ⟨(sound.object_of_member? h.choose_spec.1).1, ?_, (get_slotted inside).mpr h⟩
    exact List.forall_mem_singleton.mpr (slot_fits.mpr ⟨a, h⟩)

/-- A record of two fields. -/
theorem twoFields_eq_ok {γ : Type} {first second : String} {d : Decoder α} {e : Decoder β}
    {k : α → β → Except Error γ} {c : γ} (different : first ≠ second) (sound : j.Sound)
    (form : j.InObjectForm) :
    (Json.fields title [slot first d, slot second e] site j >>= fun fields =>
        fields.get site first d >>= fun a => fields.get site second e >>= k a) = .ok c ↔
      ∃ a b, j.Holds site first d a ∧ j.Holds site second e b ∧ k a b = .ok c := by
  have here : slot first d ∈ [slot first d, slot second e] := List.mem_cons_self
  have there : slot second e ∈ [slot first d, slot second e] :=
    List.mem_cons_of_mem _ List.mem_cons_self
  have distinct : ([slot first d, slot second e].map Slot.name).Nodup :=
    List.nodup_cons.mpr ⟨fun h => different (List.mem_singleton.mp h), List.nodup_singleton _⟩
  rw [fields_bind_eq_ok distinct sound form]
  constructor
  · intro h
    obtain ⟨a, first, rest⟩ := Except.bind_eq_ok.mp h.2.2
    obtain ⟨b, second, made⟩ := Except.bind_eq_ok.mp rest
    exact ⟨a, b, (get_slotted here).mp first, (get_slotted there).mp second, made⟩
  · rintro ⟨a, b, first, second, made⟩
    refine ⟨(sound.object_of_member? first.choose_spec.1).1, ?_, ?_⟩
    · simp only [List.forall_mem_cons]
      exact ⟨slot_fits.mpr ⟨a, first⟩, slot_fits.mpr ⟨b, second⟩, nofun⟩
    · exact Except.bind_eq_ok.mpr ⟨a, (get_slotted here).mpr first,
        Except.bind_eq_ok.mpr ⟨b, (get_slotted there).mpr second, made⟩⟩

end Record

theorem Decoder.map_eq_ok {d : Decoder α} {f : α → β} {site : Site} {j : Json} {b : β} :
    d.map f site j = .ok b ↔ ∃ a, d site j = .ok a ∧ f a = b :=
  Except.map_eq_ok

theorem Decoder.refine_eq_ok {d : Decoder α} {f : α → Except String β} {site : Site} {j : Json}
    {b : β} : d.refine f site j = .ok b ↔ ∃ a, d site j = .ok a ∧ f a = .ok b := by
  rw [refine, Except.bind_eq_ok]
  refine exists_congr fun a => and_congr_right fun _ => ?_
  cases f a with
  | ok b => simp
  | error message => simp [fail]

/-- A text is read just if its document is and nothing but blanks follows it. -/
theorem decode_eq_ok {d : Decoder α} {text : String} {a : α} :
    decode d text = .ok a ↔
      d .top (read text).1 = .ok a ∧ skipBlank ((read text).2.getD []) = [] := by
  rw [decode, Decoder.whole, Except.bind_eq_ok]
  constructor
  · rintro ⟨b, made, rest⟩
    split at rest
    · next blank =>
        cases rest
        exact ⟨made, List.isEmpty_iff.mp blank⟩
    · cases rest
  · rintro ⟨made, blank⟩
    exact ⟨a, made, if_pos (List.isEmpty_iff.mpr blank)⟩

theorem eachItem_eq_ok {d : Decoder α} {site : Site} {index : Nat} {items : List Json}
    {as : List α} : eachItem d site index items = .ok as ↔
      List.Forall₂ (fun item a => d site item = .ok a) items as := by
  induction items generalizing index as with
  | nil =>
      rw [eachItem, List.forall₂_nil_left_iff, Except.ok.injEq, eq_comm]
  | cons item rest ih =>
      rw [eachItem, Except.bind_eq_ok, List.forall₂_cons_left_iff]
      simp only [within_eq_ok, Except.bind_eq_ok, ih, Except.ok.injEq]
      constructor
      · rintro ⟨a, first, as, each, rfl⟩
        exact ⟨a, as, first, each, rfl⟩
      · rintro ⟨a, as, first, each, rfl⟩
        exact ⟨a, first, as, each, rfl⟩

theorem list_eq_ok {d : Decoder α} {site : Site} {j : Json} {as : List α} :
    list d site j = .ok as ↔ ∃ items, j = ofList items ∧
      List.Forall₂ (fun item a => d site.inner item = .ok a) items as := by
  rw [list.eq_def]
  split
  · next items stop =>
      rw [Except.bind_eq_ok]
      simp only [Except.then_eq_ok, ending_eq_ok, eachItem_eq_ok, Except.ok.injEq]
      constructor
      · rintro ⟨_, each, rfl, rfl⟩
        exact ⟨items, rfl, each⟩
      · rintro ⟨_, same, each⟩
        cases same
        exact ⟨as, each, rfl, rfl⟩
  · next other =>
      constructor
      · exact fun h => (wrongKind_ne_ok h).elim
      · rintro ⟨items, rfl, -⟩
        exact (other items none rfl).elim

theorem endingAfter_eq_ok {site : Site} {taken : Nat} {rest : List Json} {stop : Option Flaw}
    {u : Unit} : endingAfter site taken rest stop = .ok u ↔ rest = [] ∧ stop = none := by
  cases rest with
  | nil =>
      cases stop with
      | none => cases kept : site.kept <;> simp [endingAfter, kept, ending]
      | some flaw =>
          cases kept : site.kept with
          | true => simp [endingAfter, kept, ending, stopAt]
          | false => cases read : flaw.reading <;> simp [endingAfter, kept, read, stopAt]
  | cons item rest => cases kept : site.kept <;> simp [endingAfter, kept, fail, stopAt]

/-- An array of a fixed length is a list of that length. -/
theorem exactly_eq_ok {n : Nat} {d : Decoder α} {site : Site} {j : Json} {as : List α} :
    exactly n d site j = .ok as ↔ ∃ items, j = ofList items ∧ items.length = n ∧
      List.Forall₂ (fun item a => d site.inner item = .ok a) items as := by
  rw [exactly.eq_def]
  split
  · next items stop =>
      rw [Except.bind_eq_ok]
      simp only [eachItem_eq_ok]
      constructor
      · rintro ⟨bs, each, finished⟩
        split at finished
        · obtain ⟨-, refused⟩ := Except.then_eq_ok.mp finished
          cases refused
        · next long =>
            obtain ⟨ended, same⟩ := Except.then_eq_ok.mp finished
            obtain ⟨short, rfl⟩ := endingAfter_eq_ok.mp ended
            have whole := List.drop_eq_nil_iff.mp short
            cases same
            rw [List.take_of_length_le whole] at each
            exact ⟨items, rfl, by omega, each⟩
      · rintro ⟨_, same, length, each⟩
        cases same
        refine ⟨as, ?_, ?_⟩
        · rwa [List.take_of_length_le (by omega)]
        · rw [if_neg (by omega), List.drop_of_length_le (by omega)]
          exact Except.then_eq_ok.mpr ⟨endingAfter_eq_ok.mpr ⟨rfl, rfl⟩, rfl⟩
  · next other =>
      constructor
      · exact fun h => (wrongKind_ne_ok h).elim
      · rintro ⟨items, rfl, -⟩
        exact (other items none rfl).elim

/-- A list whose items are read as what they mean. -/
theorem list_eq_ok_of_mem {d : Decoder α} {site : Site} {j : Json} {Means : Json → α → Prop}
    (each : ∀ item ∈ j.items, ∀ a, d site.inner item = .ok a ↔ Means item a) {as : List α} :
    list d site j = .ok as ↔ ∃ items, j = ofList items ∧ List.Forall₂ Means items as := by
  rw [list_eq_ok]
  refine exists_congr fun items => and_congr_right fun same => ?_
  rw [same, items_ofList] at each
  clear same
  induction items generalizing as with
  | nil => rw [List.forall₂_nil_left_iff, List.forall₂_nil_left_iff]
  | cons item rest ih =>
      have later {as : List α} :=
        @ih as fun item inside => each item (List.mem_cons_of_mem _ inside)
      simp only [List.forall₂_cons_left_iff, each item List.mem_cons_self, later]

/-- A list under a name of a sound value. -/
theorem holds_list {d : Decoder α} {site : Site} {j : Json} {name : String}
    {Means : Json → α → Prop} (sound : j.Sound)
    (form : ∀ list, j.member? name = some list → ∀ item ∈ list.items, item.InObjectForm)
    (each : ∀ {site item a}, item.Sound → item.InObjectForm → (d site item = .ok a ↔ Means item a))
    {as : List α} : j.Holds site name (list d) as ↔
      ∃ items, j.member? name = some (.ofList items) ∧ List.Forall₂ Means items as := by
  have inner {value : Json} (there : j.member? name = some value) :
      list d site.inner value = .ok as ↔
        ∃ items, value = ofList items ∧ List.Forall₂ Means items as :=
    list_eq_ok_of_mem fun item inside _ =>
      each ((sound.object_of_member? there).2.item inside) (form value there item inside)
  constructor
  · rintro ⟨value, there, read⟩
    obtain ⟨items, rfl, meant⟩ := (inner there).mp read
    exact ⟨items, there, meant⟩
  · rintro ⟨items, there, meant⟩
    exact ⟨_, there, (inner there).mpr ⟨items, rfl, meant⟩⟩

theorem text_eq_ok {site : Site} {j : Json} {s : String} : text site j = .ok s ↔ j = .string s := by
  constructor
  · intro read
    rw [text.eq_def] at read
    split at read
    · cases read
      rfl
    · exact (wrongKind_ne_ok read).elim
  · rintro rfl
    rfl

theorem integer_eq_ok {name : String} {low high i : Int} {site : Site} {j : Json} :
    integer name low high site j = .ok i ↔ j = .number (.integer i) ∧ low ≤ i ∧ i ≤ high := by
  rw [integer.eq_def]
  split
  · next i' =>
      split
      · next inside =>
          simp only [Except.ok.injEq, number.injEq, Number.integer.injEq]
          constructor
          · rintro rfl
            exact ⟨rfl, inside⟩
          · exact And.left
      · next outside =>
          constructor
          · exact nofun
          · rintro ⟨same, inside⟩
            cases same
            exact absurd inside outside
  · next other =>
      constructor
      · exact fun h => (wrongKind_ne_ok h).elim
      · rintro ⟨rfl, -⟩
        exact (other i rfl).elim

theorem uint8_eq_ok {site : Site} {j : Json} {n : UInt8} :
    uint8 site j = .ok n ↔ j = .number (.integer n.toNat) := by
  rw [uint8, Decoder.map_eq_ok]
  simp only [integer_eq_ok]
  constructor
  · rintro ⟨i, ⟨rfl, low, high⟩, rfl⟩
    rw [UInt8.toNat_ofNat_of_lt' (by change i.toNat < 256; omega), Int.toNat_of_nonneg low]
  · rintro rfl
    have small : n.toNat < 256 := n.toNat_lt
    exact ⟨n.toNat, ⟨rfl, by omega, by omega⟩, by rw [Int.toNat_natCast, UInt8.ofNat_toNat]⟩

theorem int16_eq_ok {site : Site} {j : Json} {n : Int16} :
    int16 site j = .ok n ↔ j = .number (.integer n.toInt) := by
  rw [int16, Decoder.map_eq_ok]
  simp only [integer_eq_ok]
  constructor
  · rintro ⟨i, ⟨rfl, low, high⟩, rfl⟩
    rw [Int16.toInt_ofInt_of_le low (by omega)]
  · rintro rfl
    exact ⟨n.toInt, ⟨rfl, n.le_toInt, by have := n.toInt_lt; omega⟩, Int16.ofInt_toInt n⟩

end SealedTree.Json
