import SealedTree.Proofs.Json.Records

/-!
Documents with something else in some place. What a decoder does not tell apart may stand under a
name or at a number of a list, and the decoder makes the same of the whole.
-/

namespace SealedTree.Json

variable {α β : Type}

/-- The document with something else made of the value under a name, if it is an object. -/
def mapMember (name : String) (f : Json → Json) : Json → Json
  | .object members stop =>
      .object (members.map fun m => if m.1 = .ok name then (m.1, f m.2) else m) stop
  | j => j

/-- The document with something else made of each item by its number, if it is an array. -/
def mapItems (f : Nat → Json → Json) : Json → Json
  | .array items stop => .array (items.mapIdx f) stop
  | j => j

theorem eachItem_mapIdx {d : Decoder α} {site : Site} {f : Nat → Json → Json}
    {g : Nat → α → α} (same : ∀ i item, d site (f i item) = (d site item).map (g i))
    (index : Nat) (items : List Json) :
    eachItem d site index (items.mapIdx f) = (eachItem d site index items).map (·.mapIdx g) := by
  induction items generalizing f g index with
  | nil => rfl
  | cons item rest ih =>
      have later := ih (fun i item => same (i + 1) item) (index + 1)
      rw [List.mapIdx_cons, eachItem, same 0, later, eachItem]
      cases d site item with
      | error e => rfl
      | ok a =>
          cases eachItem d site (index + 1) rest with
          | error e => rfl
          | ok as => simp [within, Except.map, Except.mapError, bind, Except.bind]

theorem list_mapItems {d : Decoder α} {f : Nat → Json → Json} {g : Nat → α → α}
    (same : ∀ site i item, d site (f i item) = (d site item).map (g i)) (site : Site) (j : Json) :
    list d site (mapItems f j) = (list d site j).map (·.mapIdx g) := by
  cases j with
  | array items stop =>
      rw [mapItems, list, eachItem_mapIdx (same site.inner), list]
      cases eachItem d site.inner 0 items with
      | error e => rfl
      | ok as =>
          cases stop with
          | none => rfl
          | some flaw => rfl
  | valueless fault | broken flaw => rfl
  | _ => rfl

theorem list_mapItems_of_same {d : Decoder α} {f : Nat → Json → Json}
    (same : ∀ site i item, d site (f i item) = d site item) (site : Site) (j : Json) :
    list d site (mapItems f j) = list d site j := by
  have kept (site : Site) (i : Nat) (item : Json) : d site (f i item) = (d site item).map id := by
    rw [same, Except.map_id, id]
  have unchanged (as : List α) : as.mapIdx (fun _ a => id a) = as :=
    List.ext_getElem (by simp) (by simp)
  rw [list_mapItems kept]
  cases list d site j with
  | error e => rfl
  | ok as => exact congrArg Except.ok (unchanged as)

/-- The same for a field that is read already. -/
def mapField (name : String) (f : Json → Json) (field : String × Json) : String × Json :=
  if field.1 = name then (field.1, f field.2) else field

theorem lookup_mapField (name : String) (f : Json → Json) (fields : Fields) (other : String) :
    (fields.map (mapField name f)).lookup other =
      (fields.lookup other).map (if other = name then f else id) := by
  induction fields with
  | nil => rfl
  | cons field rest ih =>
      obtain ⟨n, value⟩ := field
      rw [List.map_cons, mapField]
      by_cases here : other = n
      · subst here
        split <;> simp [*]
      · have first : ((if n = name then (n, f value) else (n, value)) : String × Json).1 = n := by
          split <;> rfl
        rw [List.lookup_cons, List.lookup_cons]
        simp only [first, beq_false_of_ne here]
        exact ih

/-- What is made of the value under the name of a slot does not matter if the slot does not see
it. -/
theorem memberFields_mapMember {slots : List Slot} {name : String} {f : Json → Json}
    (known : ∃ s ∈ slots, s.name = name)
    (same : ∀ s ∈ slots, s.name = name → ∀ site value, s.check site (f value) = s.check site value)
    (site : Site) (stop : Option Flaw) (done : Fields) (members : List Member) :
    memberFields slots site stop (done.map (mapField name f))
        (members.map fun m => if m.1 = .ok name then (m.1, f m.2) else m) =
      (memberFields slots site stop done members).map (·.map (mapField name f)) := by
  have there (done : Fields) (other : String) :
      ((done.map (mapField name f)).lookup other).isSome = (done.lookup other).isSome := by
    rw [lookup_mapField, Option.isSome_map]
  induction members generalizing done with
  | nil =>
      simp only [List.map_nil, memberFields, ← Option.not_isSome, there]
      cases ending stop with
      | error e => rfl
      | ok _ =>
          simp only [bind, Except.bind]
          split <;> rfl
  | cons m rest ih =>
      obtain ⟨fault | n, value⟩ := m
      · rfl
      · cases found : slots.find? (·.name == n) with
        | none =>
            have other : n ≠ name := by
              rintro rfl
              obtain ⟨s, inside, rfl⟩ := known
              simpa using List.find?_eq_none.mp found s inside
            have kept : (if (Except.ok n : Except Fault String) = .ok name then (.ok n, f value)
                else (.ok n, value) : Member) = (.ok n, value) :=
              if_neg fun h => other (Except.ok.inj h)
            rw [List.map_cons, kept, memberFields, memberFields]
            simp only [found, ih]
            cases skip value with
            | error e => rfl
            | ok _ => rfl
        | some s =>
            have named : s.name = n := by simpa using List.find?_some found
            have inside := List.mem_of_find?_eq_some found
            obtain ⟨value', mapped, field, checked⟩ : ∃ value',
                (if (Except.ok n : Except Fault String) = .ok name then (.ok n, f value)
                  else (.ok n, value) : Member) = (.ok n, value') ∧
                mapField name f (n, value) = (n, value') ∧
                s.check site.inner value' = s.check site.inner value := by
              by_cases here : n = name
              · exact ⟨f value, by simp [here], by simp [mapField, here],
                  same s inside (named.trans here) site.inner value⟩
              · exact ⟨value, if_neg fun h => here (Except.ok.inj h), if_neg here, rfl⟩
            have next := ih (done ++ [(n, value)])
            rw [List.map_append, List.map_singleton, field] at next
            rw [List.map_cons, mapped, memberFields, memberFields]
            simp only [found, there, checked, next]
            split
            · rfl
            · cases within (.name n) (s.check site.inner value) with
              | error e => rfl
              | ok _ => rfl

section Fields

variable {fields : Fields} {name : String} {f : Json → Json} {site : Site}

theorem Fields.get_mapField_of_ne {other : String} (h : other ≠ name) (d : Decoder α) :
    Fields.get (fields.map (mapField name f)) site other d = fields.get site other d := by
  rw [get, get, lookup_mapField, if_neg h, Option.map_id_apply]

theorem Fields.getOr_mapField_of_ne {other : String} (h : other ≠ name) (d : Decoder α)
    (absent : α) :
    Fields.getOr (fields.map (mapField name f)) site other d absent =
      fields.getOr site other d absent := by
  rw [getOr, getOr, lookup_mapField, if_neg h, Option.map_id_apply]

theorem Fields.get_mapField {d : Decoder α} {h : α → α}
    (same : ∀ site value, d site (f value) = (d site value).map h) :
    Fields.get (fields.map (mapField name f)) site name d = (fields.get site name d).map h := by
  rw [get, get, lookup_mapField, if_pos rfl]
  cases fields.lookup name with
  | none => rfl
  | some value => exact same site.inner value

theorem Fields.getOr_mapField {d : Decoder α} (same : ∀ site value, d site (f value) = d site value)
    (absent : α) :
    Fields.getOr (fields.map (mapField name f)) site name d absent =
      fields.getOr site name d absent := by
  rw [getOr, getOr, lookup_mapField, if_pos rfl]
  cases fields.lookup name with
  | none => rfl
  | some value => exact same site.inner value

/-- A record is the same if neither the slot of a name nor what follows the slots sees what is made
of the value under it. -/
theorem fields_mapMember {slots : List Slot} {k : Fields → Except Error β}
    (known : ∃ s ∈ slots, s.name = name)
    (same : ∀ s ∈ slots, s.name = name → ∀ site value, s.check site (f value) = s.check site value)
    (blind : ∀ fields : Fields, k (fields.map (mapField name f)) = k fields) (title : String)
    (j : Json) :
    (Json.fields title slots site (mapMember name f j) >>= k) =
      (Json.fields title slots site j >>= k) := by
  cases j with
  | object members stop =>
      have mapped := memberFields_mapMember known same site stop [] members
      rw [List.map_nil] at mapped
      rw [mapMember, Json.fields, mapped, Json.fields]
      cases memberFields slots site stop [] members with
      | error e => rfl
      | ok fields => exact blind fields
  | _ => rfl

end Fields

end SealedTree.Json
