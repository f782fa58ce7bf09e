import SealedTree.Input
import SealedTree.Proofs.Disk
import SealedTree.Proofs.Json.Decoding
import SealedTree.Proofs.Json.Respelling

/-!
Models in files. A document is taken for a model just if it describes one: seven vertices and eight
leaves with eight marks each, where a mark is a word or a digit. What is written of a model
describes that model, so it is read again.
-/

namespace SealedTree

namespace Vertex

/-- The document describes this vertex. -/
structure Described (j : Json) (v : Vertex) : Prop where
  feature : j.member? "feature" = some (.ofNat v.feature.toNat)
  threshold : j.member? "threshold" = some (.ofInt v.threshold.toInt)

theorem decoder_eq_ok {site : Json.Site} {j : Json} {v : Vertex} (sound : j.Sound)
    (form : j.InObjectForm) : decoder site j = .ok v ↔ Described j v := by
  rw [decoder, Json.twoFields_eq_ok (by decide) sound form]
  simp only [Json.Holds, Json.uint8_eq_ok, Json.int16_eq_ok]
  constructor
  · rintro ⟨feature, threshold, ⟨_, isFeature, rfl⟩, ⟨_, isThreshold, rfl⟩, ⟨⟩⟩
    exact ⟨isFeature, isThreshold⟩
  · intro described
    exact ⟨_, _, ⟨_, described.feature, rfl⟩, ⟨_, described.threshold, rfl⟩, rfl⟩

theorem plain_json (v : Vertex) : v.json.Plain := by
  have feature : v.feature.toNat < 256 := v.feature.toNat_lt
  have low := v.threshold.le_toInt
  have high := v.threshold.toInt_lt
  have distinct : ["feature", "threshold"].Nodup := by decide
  refine .ofMembers distinct ?_
  simp only [List.forall_mem_cons]
  exact ⟨Json.plain_ofNat (by omega), .ofInt (by omega) (by omega), nofun⟩

theorem described_json (v : Vertex) : Described v.json v := ⟨rfl, rfl⟩

end Vertex

namespace Leaf

/-- A mark for or against a class, as a word or as a digit. -/
def Mark.Means (j : Json) (b : Bool) : Prop := j = .bool b ∨ j = .ofNat b.toNat

theorem Mark.value_digit {n : UInt8} {b : Bool} (h : (Mark.digit n).value = .ok b) :
    n.toNat = b.toNat := by
  rw [value.eq_def] at h
  split at h
  · next same => cases same
  · next same =>
      cases same
      cases h
      rfl
  · next same =>
      cases same
      cases h
      rfl
  · cases h

/-- A mark is read just if it is one. -/
theorem Mark.means_iff {site : Json.Site} {j : Json} {b : Bool} :
    (∃ mark, Mark.decoder site j = .ok mark ∧ mark.value = .ok b) ↔ Mark.Means j b := by
  constructor
  · rintro ⟨mark, read, value⟩
    obtain ⟨_, -, rest⟩ := Except.bind_eq_ok.mp read
    split at rest
    · cases rest
      cases value
      exact .inl rfl
    · next i =>
        split at rest
        · next inside =>
            cases rest
            have size := value_digit value
            rw [UInt8.toNat_ofNat_of_lt' (by change i.toNat < 256; omega)] at size
            rw [Mark.Means, ← size, Json.ofNat, Int.toNat_of_nonneg inside.1]
            exact .inr rfl
        · cases rest
    · cases rest
  · rintro (rfl | rfl)
    · exact ⟨.word b, rfl, rfl⟩
    · cases b with
      | false => exact ⟨.digit 0, rfl, rfl⟩
      | true => exact ⟨.digit 1, rfl, rfl⟩

theorem ofMarks_eq_ok {marks : List Mark} {leaf : Leaf} :
    ofMarks marks = .ok leaf ↔
      List.Forall₂ (fun mark b => mark.value = .ok b) marks leaf.classes.toList := by
  rw [ofMarks, Except.bind_eq_ok]
  simp only [Except.mapM_eq_ok, ofList, Except.map_eq_ok, sized_eq_ok]
  constructor
  · rintro ⟨_, read, classes, rfl, rfl⟩
    exact read
  · intro read
    exact ⟨_, read, leaf.classes, rfl, rfl⟩

/-- The document describes this leaf. -/
def Described (j : Json) (leaf : Leaf) : Prop :=
  ∃ marks, j.member? "classification" = some (.ofList marks) ∧
    List.Forall₂ Mark.Means marks leaf.classes.toList

theorem decoder_eq_ok {site : Json.Site} {j : Json} {leaf : Leaf} (sound : j.Sound)
    (form : j.InObjectForm) : decoder site j = .ok leaf ↔ Described j leaf := by
  have meaning : Mark.Means = fun j b =>
      ∃ mark, Mark.decoder site.inner.inner j = .ok mark ∧ mark.value = .ok b := by
    ext j b
    exact Mark.means_iff.symm
  rw [decoder, Json.Decoder.refine_eq_ok, Described, meaning]
  simp only [marksDecoder, Json.field_eq_ok sound form, Except.mapError_eq_ok, ofMarks_eq_ok,
    Json.Holds, Json.list_eq_ok, ← forall₂_comp]
  constructor
  · rintro ⟨marks, ⟨_, there, items, rfl, read⟩, values⟩
    exact ⟨items, there, marks, read, values⟩
  · rintro ⟨items, there, marks, read, values⟩
    exact ⟨marks, ⟨_, there, items, rfl, read⟩, values⟩

section Worded

/-- The document with a word in place of a digit. -/
def Mark.worded : Json → Json
  | .number (.integer 0) => .bool false
  | .number (.integer 1) => .bool true
  | j => j

/-- The mark as a word, if it is worth one. -/
def Mark.toWord (mark : Mark) : Mark :=
  match mark.value with
  | .ok b => .word b
  | .error _ => mark

theorem Mark.value_toWord (mark : Mark) : mark.toWord.value = mark.value := by
  rw [toWord]
  cases value : mark.value with
  | ok b => rfl
  | error e => exact value

theorem Mark.decoder_worded (site : Json.Site) (j : Json) :
    Mark.decoder site (worded j) = (Mark.decoder site j).map toWord := by
  rw [worded.eq_def]
  split
  · rfl
  · rfl
  · next zero one =>
      cases read : Mark.decoder site j with
      | error e => rfl
      | ok mark =>
          rw [Except.map, toWord]
          cases value : mark.value with
          | error e => rfl
          | ok b =>
              rcases means_iff.mp ⟨mark, read, value⟩ with rfl | rfl
              · cases read
                rfl
              · cases b with
                | false => exact (zero rfl).elim
                | true => exact (one rfl).elim

variable (chosen : Nat → Bool)

theorem mapM_toWord (marks : List Mark) :
    (marks.mapIdx fun i mark => if chosen i then mark.toWord else mark).mapM Mark.value =
      marks.mapM Mark.value := by
  induction marks generalizing chosen with
  | nil => rfl
  | cons mark rest ih =>
      have first : (if chosen 0 then mark.toWord else mark).value = mark.value := by
        split
        · exact mark.value_toWord
        · rfl
      rw [List.mapIdx_cons, List.mapM_cons, List.mapM_cons, first, ih fun i => chosen (i + 1)]

/-- The document with words in place of the chosen digits. -/
def worded : Json → Json :=
  Json.mapMember "classification" <| Json.mapItems fun i j => if chosen i then Mark.worded j else j

theorem marks_worded (site : Json.Site) (j : Json) :
    Json.list Mark.decoder site
        (Json.mapItems (fun i j => if chosen i then Mark.worded j else j) j) =
      (Json.list Mark.decoder site j).map
        (·.mapIdx fun i mark => if chosen i then mark.toWord else mark) := by
  refine Json.list_mapItems (fun site i item => ?_) site j
  split
  · exact Mark.decoder_worded site item
  · cases Mark.decoder site item with
    | error e => rfl
    | ok mark => rfl

theorem decoder_worded (site : Json.Site) (j : Json) :
    decoder site (worded chosen j) = decoder site j := by
  have known : ∃ s ∈ [Json.slot "classification" (Json.list Mark.decoder)],
      s.name = "classification" := ⟨_, List.mem_cons_self, rfl⟩
  simp only [decoder, Json.Decoder.refine, marksDecoder, bind_assoc, worded]
  refine Json.fields_mapMember known ?_ ?_ _ j
  · intro s inside _ site value
    obtain rfl := List.mem_singleton.mp inside
    simp only [Json.slot, Json.Decoder.map, marks_worded]
    cases Json.list Mark.decoder site value with
    | error e => rfl
    | ok marks => rfl
  · intro fields
    rw [Json.Fields.get_mapField (marks_worded chosen)]
    cases fields.get site "classification" (Json.list Mark.decoder) with
    | error e => rfl
    | ok marks =>
        simp only [Except.map, bind, Except.bind, ofMarks, mapM_toWord]

end Worded

theorem plain_json (leaf : Leaf) : leaf.json.Plain := by
  refine .ofMembers (List.nodup_singleton _) (List.forall_mem_singleton.mpr ?_)
  exact Json.plain_map .bool _

theorem described_json (leaf : Leaf) : Described leaf.json leaf :=
  ⟨_, rfl, forall₂_map_self (fun _ => .inl rfl) _⟩

end Leaf

namespace Model

theorem ofLists_eq_ok {vertices : List Vertex} {leaves : List Leaf} {m : Model} :
    ofLists vertices leaves = .ok m ↔ vertices = m.vertices.toList ∧ leaves = m.leaves.toList := by
  rw [ofLists]
  simp only [Except.bind_eq_ok, sized_eq_ok, Except.ok.injEq]
  constructor
  · rintro ⟨_, rfl, _, rfl, rfl⟩
    exact ⟨rfl, rfl⟩
  · rintro ⟨rfl, rfl⟩
    exact ⟨_, rfl, _, rfl, rfl⟩

/-- The document describes this model. -/
structure Described (j : Json) (m : Model) : Prop where
  vertices : ∃ items, j.member? "internals" = some (.ofList items) ∧
    List.Forall₂ Vertex.Described items m.vertices.toList
  leaves : ∃ items, j.member? "leaves" = some (.ofList items) ∧
    List.Forall₂ Leaf.Described items m.leaves.toList

/-- No record in the document is written as an array. -/
structure InObjectForm (j : Json) : Prop where
  itself : j.InObjectForm
  vertices : ∀ list, j.member? "internals" = some list → ∀ item ∈ list.items, item.InObjectForm
  leaves : ∀ list, j.member? "leaves" = some list → ∀ item ∈ list.items, item.InObjectForm

theorem decoder_eq_ok {site : Json.Site} {j : Json} {m : Model} (sound : j.Sound)
    (form : InObjectForm j) : decoder site j = .ok m ↔ Described j m := by
  have different : "internals" ≠ "leaves" := by decide
  have vertices {vs : List Vertex} : j.Holds site "internals" (Json.list Vertex.decoder) vs ↔ _ :=
    Json.holds_list sound form.vertices Vertex.decoder_eq_ok
  have leaves {ls : List Leaf} : j.Holds site "leaves" (Json.list Leaf.decoder) ls ↔ _ :=
    Json.holds_list sound form.leaves Leaf.decoder_eq_ok
  rw [decoder, Json.Decoder.refine_eq_ok]
  simp only [partsDecoder, Json.twoFields_eq_ok different sound form.itself, vertices, leaves,
    Except.mapError_eq_ok, ofLists_eq_ok]
  constructor
  · rintro ⟨_, ⟨_, _, vertices, leaves, ⟨⟩⟩, rfl, rfl⟩
    exact ⟨vertices, leaves⟩
  · intro described
    exact ⟨_, ⟨_, _, described.vertices, described.leaves, rfl⟩, rfl, rfl⟩

/-- The document with words in place of the chosen digits of its leaves. -/
def worded (chosen : Nat → Nat → Bool) : Json → Json :=
  Json.mapMember "leaves" <| Json.mapItems fun i => Leaf.worded (chosen i)

theorem leaves_worded (chosen : Nat → Nat → Bool) (site : Json.Site) (j : Json) :
    Json.list Leaf.decoder site (Json.mapItems (fun i => Leaf.worded (chosen i)) j) =
      Json.list Leaf.decoder site j :=
  Json.list_mapItems_of_same (fun site i item => Leaf.decoder_worded (chosen i) site item) site j

/-- A digit in place of a word makes no difference. -/
theorem decoder_worded (chosen : Nat → Nat → Bool) (site : Json.Site) (j : Json) :
    decoder site (worded chosen j) = decoder site j := by
  have known : ∃ s ∈ [Json.slot "internals" (Json.list Vertex.decoder),
      Json.slot "leaves" (Json.list Leaf.decoder)], s.name = "leaves" :=
    ⟨_, List.mem_cons_of_mem _ List.mem_cons_self, rfl⟩
  have parts : partsDecoder site (worded chosen j) = partsDecoder site j := by
    refine Json.fields_mapMember known ?_ ?_ _ j
    · intro s inside named site value
      simp only [List.mem_cons, List.not_mem_nil, or_false] at inside
      obtain rfl | rfl := inside
      · exact absurd named (by decide)
      · simp only [Json.slot, Json.Decoder.map, leaves_worded]
    · intro fields
      have different : "internals" ≠ "leaves" := by decide
      have same (site : Json.Site) (value : Json) :
          Json.list Leaf.decoder site (Json.mapItems (fun i => Leaf.worded (chosen i)) value) =
            (Json.list Leaf.decoder site value).map id := by
        rw [leaves_worded, Except.map_id, id]
      rw [Json.Fields.get_mapField_of_ne different, Json.Fields.get_mapField same, Except.map_id,
        id]
  rw [decoder, Json.Decoder.refine, parts, Json.Decoder.refine]

theorem plain_json (m : Model) : m.json.Plain := by
  have distinct : ["internals", "leaves"].Nodup := by decide
  refine .ofMembers distinct ?_
  simp only [List.forall_mem_cons]
  exact ⟨Json.plain_map Vertex.plain_json _, Json.plain_map Leaf.plain_json _, nofun⟩

theorem inObjectForm_json (m : Model) : InObjectForm m.json where
  itself := Json.inObjectForm_ofMembers _
  vertices _ := Json.inObjectForm_map fun _ => Json.inObjectForm_ofMembers _
  leaves _ := Json.inObjectForm_map fun _ => Json.inObjectForm_ofMembers _

theorem described_json (m : Model) : Described m.json m where
  vertices := ⟨_, rfl, forall₂_map_self Vertex.described_json _⟩
  leaves := ⟨_, rfl, forall₂_map_self Leaf.described_json _⟩

theorem decodes_json (m : Model) : Json.Decodes decoder m.json m :=
  fun _ => (decoder_eq_ok m.plain_json.sound m.inObjectForm_json).mpr m.described_json

theorem ofText_eq_ok {text : String} {m : Model} :
    ofText text = .ok m ↔ decoder .top (Json.read text).1 = .ok m ∧
      Json.skipBlank ((Json.read text).2.getD []) = [] := by
  rw [ofText, Except.mapError_eq_ok, Json.decode_eq_ok]

theorem ofText_compact (m : Model) : ofText m.json.compact = .ok m := by
  rw [ofText, (m.decodes_json.text m.plain_json).1]
  rfl

theorem ofText_toText (m : Model) : ofText m.toText = .ok m := by
  rw [ofText, toText, (m.decodes_json.text m.plain_json).2]
  rfl

theorem load_of_save {m : Model} {d d' : Disk} {path : String} (saved : m.save d path = .ok d') :
    load d' path = .ok m := by
  rw [save] at saved
  rw [load, Disk.read_of_write saved]
  simp only [Except.mapError, bind, Except.bind, ofFile, fileText_toUTF8]
  exact m.ofText_toText

/-- Which documents are taken for which model and which texts are such documents; words and digits
are the same; and what is written of a model is read as that model. -/
theorem file_grammar :
    (∀ (site : Json.Site) (j : Json) (m : Model), j.Sound → InObjectForm j →
      (decoder site j = .ok m ↔ Described j m)) ∧
    (∀ (text : String) (m : Model), ofText text = .ok m ↔
      decoder .top (Json.read text).1 = .ok m ∧
        Json.skipBlank ((Json.read text).2.getD []) = []) ∧
    (∀ (cs rest : List Char) (n : Json.Numeral) (i : Int), Json.numeral cs = .ok (n, rest) →
      ((Json.readNumber cs).1 = .ofInt i ↔ n.IsInteger i)) ∧
    (∀ (chosen : Nat → Nat → Bool) (site : Json.Site) (j : Json),
      decoder site (worded chosen j) = decoder site j) ∧
    (∀ m : Model, ofText m.json.compact = .ok m) ∧
    ∀ (m : Model) (d d' : Disk) (path : String), m.save d path = .ok d' → load d' path = .ok m := by
  refine ⟨?_, ?_, ?_, ?_, ?_, ?_⟩
  · intro site j m sound form
    exact decoder_eq_ok sound form
  · intro text m
    exact ofText_eq_ok
  · intro cs rest n i spelled
    exact Json.readNumber_eq_ofInt spelled
  · exact decoder_worded
  · exact ofText_compact
  · intro m d d' path saved
    exact load_of_save saved

/-- The model of the worked example with digits, with members of no meaning and in another order. -/
theorem file_grammar_reference :
    let leaf : Leaf → Json := fun l => .ofMembers
      [("note", .null), ("classification", .ofList (l.classes.toList.map fun b => .ofNat b.toNat))]
    let j : Json := .ofMembers
      [("leaves", .ofList (reference.leaves.toList.map leaf)), ("title", .string "example"),
       ("internals", .ofList (reference.vertices.toList.map Vertex.json))]
    let d : Disk := ⟨[]⟩
    let d' := d.put ["model.json"] reference.toText.toUTF8
    j.Sound ∧ InObjectForm j ∧ decoder .top j = .ok reference ∧
      (Json.readNumber ['-', '0']).1 ≠ .ofInt 0 ∧
      reference.save d "model.json" = .ok d' ∧ load d' "model.json" = .ok reference := by
  intro leaf j d d'
  have plainLeaf (l : Leaf) : (leaf l).Plain := by
    have distinct : ["note", "classification"].Nodup := by decide
    refine .ofMembers distinct ?_
    simp only [List.forall_mem_cons]
    exact ⟨.null, Json.plain_map (fun b => Json.plain_ofNat (by cases b <;> decide)) _, nofun⟩
  have plain : j.Plain := by
    have distinct : ["leaves", "title", "internals"].Nodup := by decide
    refine .ofMembers distinct ?_
    simp only [List.forall_mem_cons]
    exact ⟨Json.plain_map plainLeaf _, .string _, Json.plain_map Vertex.plain_json _, nofun⟩
  have form : InObjectForm j := by
    refine ⟨Json.inObjectForm_ofMembers _, fun _ => ?_, fun _ => ?_⟩
    · exact Json.inObjectForm_map fun _ => Json.inObjectForm_ofMembers _
    · exact Json.inObjectForm_map fun _ => Json.inObjectForm_ofMembers _
  have described : Described j reference := by
    refine ⟨⟨_, rfl, forall₂_map_self Vertex.described_json _⟩, ⟨_, rfl, forall₂_map_self ?_ _⟩⟩
    exact fun l => ⟨_, rfl, forall₂_map_self (fun _ => .inr rfl) _⟩
  have saved : reference.save d "model.json" = .ok d' := by
    have reached : d.target "model.json" = .ok ["model.json"] := rfl
    rw [save, Disk.write, reached]
    rfl
  obtain ⟨documents, -, numbers, -, -, files⟩ := file_grammar
  refine ⟨plain.sound, form, (documents .top j reference plain.sound form).mpr described, ?_,
    saved, files reference d d' _ saved⟩
  intro zero
  exact ((numbers ['-', '0'] [] ⟨true, [0], none, none⟩ 0 rfl).mp zero).2.2.1 rfl

end Model

end SealedTree
