import SealedTree.Proofs.Candidate
import SealedTree.Proofs.OneHotResult

/-!
What a variable is read as, for every payload. Only the length of a payload and which of eight bytes
are one make a difference: too short payloads are told apart by what is missing of them, and a
result has the label at the place of the only one.
-/

namespace SealedTree

namespace OneHot

/-- Which of the bytes that make up the result are one. -/
def marks (payload : List UInt8) : Vector Bool 8 :=
  Vector.ofFn fun i => payload[32 + i.val]? == some 1

/-- How many of the bytes from 32 to 40 are one. -/
def ones (payload : List UInt8) : Nat := ((payload.drop 32).take 8).count 1

/-- The entry is one where the payload has a one, and zero everywhere else. -/
def Shows (r : OneHot) (payload : List UInt8) : Prop :=
  ∀ i : Fin 8, (payload[32 + i.val]? = some 1 → r.entries.get i = 1) ∧
    (payload[32 + i.val]? ≠ some 1 → r.entries.get i = 0)

variable {payload : List UInt8}

theorem shows_marks (payload : List UInt8) : (ofBools (marks payload)).Shows payload := by
  intro i
  have entry : (ofBools (marks payload)).entries.get i =
      if payload[32 + i.val]? == some 1 then 1 else 0 := by
    change (ofBools (marks payload)).entries[i.val] = _
    simp [ofBools, marks]
  rw [entry]
  exact ⟨fun one => if_pos (beq_iff_eq.mpr one), fun other => if_neg (mt beq_iff_eq.mp other)⟩

theorem Shows.eq {r r' : OneHot} (h : r.Shows payload) (h' : r'.Shows payload) : r = r' := by
  obtain ⟨entries⟩ := r
  obtain ⟨entries'⟩ := r'
  rw [OneHot.mk.injEq]
  refine Vector.ext fun i inside => ?_
  by_cases one : payload[32 + i]? = some 1
  · exact ((h ⟨i, inside⟩).1 one).trans ((h' ⟨i, inside⟩).1 one).symm
  · exact ((h ⟨i, inside⟩).2 one).trans ((h' ⟨i, inside⟩).2 one).symm

theorem shows_iff {r : OneHot} : r.Shows payload ↔ r = ofBools (marks payload) := by
  constructor
  · exact fun shown => shown.eq (shows_marks payload)
  · rintro rfl
    exact shows_marks payload

theorem toList_marks (enough : 40 ≤ payload.length) :
    (marks payload).toList = ((payload.drop 32).take 8).map (· == 1) := by
  refine List.ext_getElem? fun i => ?_
  rw [marks, Vector.toList_ofFn, List.getElem?_ofFn, List.getElem?_map, List.getElem?_take,
    List.getElem?_drop]
  by_cases inside : i < 8
  · have there : 32 + i < payload.length := by omega
    simp [inside, there]
  · simp [inside]

theorem isOneHot_marks (enough : 40 ≤ payload.length) :
    (ofBools (marks payload)).isOneHot = true ↔ ones payload = 1 := by
  rw [isOneHot, beq_iff_eq, setCount_ofBools, toList_marks enough, ones, List.count_eq_countP,
    List.countP_map, List.count_eq_countP]
  simp [Function.comp_def]

theorem marks_eq {payload' : List UInt8}
    (same : ∀ i < 8, payload[32 + i]? = some 1 ↔ payload'[32 + i]? = some 1) :
    marks payload = marks payload' := by
  refine Vector.ext fun i inside => ?_
  rw [marks, marks, Vector.getElem_ofFn, Vector.getElem_ofFn, Bool.eq_iff_iff, beq_iff_eq,
    beq_iff_eq]
  exact same i inside

theorem onlyAt_marks_iff {c : Fin 8} :
    OnlyAt (marks payload) c ↔ ∀ j : Fin 8, payload[32 + j.val]? = some 1 ↔ j = c := by
  have set (j : Fin 8) : (marks payload).get j = true ↔ payload[32 + j.val]? = some 1 := by
    change (marks payload)[j.val] = true ↔ _
    rw [marks, Vector.getElem_ofFn, beq_iff_eq]
  exact forall_congr' fun j => iff_congr (set j) Iff.rfl

theorem ofPayload_of_cut (cut : payload.length < 32) :
    ofPayload payload = .error (.underrun "result_prefix" 32 payload.length) := by
  have failed : (Reader.take "result_prefix" 32).run payload = .error _ :=
    Reader.take_eq_error_iff.mpr ⟨cut, rfl⟩
  rw [ofPayload, Reader.front, reader, StateT.run_bind]
  change Except.map _ ((Reader.take "result_prefix" 32).run payload >>= _) = _
  rw [failed]
  rfl

/-- Once 32 bytes are passed over, all depends on what is behind them. -/
theorem ofPayload_of_lead (lead : 32 ≤ payload.length) :
    ofPayload payload = ((Reader.take "result" 8).run (payload.drop 32)).map fun taken =>
      ofBools (Vector.ofFn fun i => taken.1[i.val]? == some 1) := by
  have taken : (Reader.take "result_prefix" 32).run payload =
      .ok (payload.take 32, payload.drop 32) := if_neg (Nat.not_lt_of_le lead)
  rw [ofPayload, Reader.front, reader, StateT.run_bind]
  change Except.map _ ((Reader.take "result_prefix" 32).run payload >>= _) = _
  rw [taken]
  change Except.map _ ((Reader.take "result" 8).run (payload.drop 32) >>= _) = _
  cases (Reader.take "result" 8).run (payload.drop 32) <;> rfl

theorem ofPayload_of_short (lead : 32 ≤ payload.length) (short : payload.length < 40) :
    ofPayload payload = .error (.underrun "result" 8 (payload.length - 32)) := by
  have behind : (payload.drop 32).length = payload.length - 32 := List.length_drop
  have failed : (Reader.take "result" 8).run (payload.drop 32) = .error _ :=
    Reader.take_eq_error_iff.mpr ⟨by omega, rfl⟩
  rw [ofPayload_of_lead lead, failed, behind]
  rfl

theorem ofPayload_of_enough (enough : 40 ≤ payload.length) :
    ofPayload payload = .ok (ofBools (marks payload)) := by
  have behind : ¬(payload.drop 32).length < 8 := by
    rw [List.length_drop]
    omega
  have taken : (Reader.take "result" 8).run (payload.drop 32) =
      .ok ((payload.drop 32).take 8, (payload.drop 32).drop 8) := if_neg behind
  have same : (Vector.ofFn fun i : Fin 8 => ((payload.drop 32).take 8)[i.val]? == some 1) =
      marks payload := by
    refine Vector.ext fun i inside => ?_
    simp only [marks, Vector.getElem_ofFn, List.getElem?_take_of_lt inside, List.getElem?_drop]
  rw [ofPayload_of_lead (by omega), taken, Except.map, same]

end OneHot

namespace Variable

/-- What has to be the case for a reading. -/
def Tells (v : Variable) : Reading → Prop
  | .processing => v.transaction = none
  | .awaitingPayload => v.transaction ≠ none ∧ (v.payload = none ∨ v.payload = some [])
  | .malformed cause =>
      ∃ payload, v.Carries payload ∧
        (payload.length < 32 ∧ cause = .underrun "result_prefix" 32 payload.length ∨
          32 ≤ payload.length ∧ payload.length < 40 ∧
            cause = .underrun "result" 8 (payload.length - 32))
  | .ready r =>
      ∃ payload, v.Carries payload ∧ 40 ≤ payload.length ∧ r.Shows payload ∧
        OneHot.ones payload = 1
  | .notOneHot r =>
      ∃ payload, v.Carries payload ∧ 40 ≤ payload.length ∧ r.Shows payload ∧
        OneHot.ones payload ≠ 1

variable {v : Variable} {payload : List UInt8}

theorem Carries.reading_of_enough (h : v.Carries payload) (enough : 40 ≤ payload.length)
    {r : OneHot} (shown : r.Shows payload) :
    v.reading = if OneHot.ones payload = 1 then .ready r else .notOneHot r := by
  rw [h.reading, OneHot.ofPayload_of_enough enough, OneHot.shows_iff.mp shown]
  simp only [OneHot.isOneHot_marks enough]

/-- A variable without a transaction, without a payload, or with both. -/
theorem cases_carries (v : Variable) :
    v.transaction = none ∨ v.transaction ≠ none ∧ (v.payload = none ∨ v.payload = some []) ∨
      ∃ payload, v.Carries payload := by
  by_cases owned : v.transaction = none
  · exact .inl owned
  · cases held : v.payload with
    | none => exact .inr (.inl ⟨owned, .inl rfl⟩)
    | some payload =>
        by_cases filled : payload = []
        · exact .inr (.inl ⟨owned, .inr (congrArg some filled)⟩)
        · exact .inr (.inr ⟨payload, owned, held, filled⟩)

theorem reading_of_no_transaction (h : v.transaction = none) : v.reading = .processing := by
  rw [reading, h]

theorem reading_of_no_payload (owned : v.transaction ≠ none)
    (empty : v.payload = none ∨ v.payload = some []) : v.reading = .awaitingPayload := by
  obtain ⟨tx, owner⟩ := Option.ne_none_iff_exists'.mp owned
  rcases empty with none | empty
  · rw [reading, owner, none]
  · rw [reading, owner, empty]

theorem tells_reading (v : Variable) : v.Tells v.reading := by
  rcases v.cases_carries with free | ⟨owned, empty⟩ | ⟨payload, carries⟩
  · rw [reading_of_no_transaction free]
    exact free
  · rw [reading_of_no_payload owned empty]
    exact ⟨owned, empty⟩
  · by_cases cut : payload.length < 32
    · rw [carries.reading, OneHot.ofPayload_of_cut cut]
      exact ⟨payload, carries, .inl ⟨cut, rfl⟩⟩
    · by_cases short : payload.length < 40
      · rw [carries.reading, OneHot.ofPayload_of_short (Nat.le_of_not_lt cut) short]
        exact ⟨payload, carries, .inr ⟨Nat.le_of_not_lt cut, short, rfl⟩⟩
      · have enough := Nat.le_of_not_lt short
        have shown := OneHot.shows_marks payload
        rw [carries.reading_of_enough enough shown]
        split
        · next one => exact ⟨payload, carries, enough, shown, one⟩
        · next several => exact ⟨payload, carries, enough, shown, several⟩

theorem Tells.reading_eq {told : Reading} (h : v.Tells told) : v.reading = told := by
  cases told with
  | processing => exact reading_of_no_transaction h
  | awaitingPayload => exact reading_of_no_payload h.1 h.2
  | malformed cause =>
      obtain ⟨payload, carries, ⟨cut, rfl⟩ | ⟨lead, short, rfl⟩⟩ := h
      · rw [carries.reading, OneHot.ofPayload_of_cut cut]
      · rw [carries.reading, OneHot.ofPayload_of_short lead short]
  | ready r =>
      obtain ⟨payload, carries, enough, shown, one⟩ := h
      rw [carries.reading_of_enough enough shown, if_pos one]
  | notOneHot r =>
      obtain ⟨payload, carries, enough, shown, several⟩ := h
      rw [carries.reading_of_enough enough shown, if_neg several]

theorem reading_eq_iff {told : Reading} : v.reading = told ↔ v.Tells told := by
  constructor
  · rintro rfl
    exact v.tells_reading
  · exact Tells.reading_eq

/-- Nothing but the ones matters. -/
theorem reading_eq_of_same_ones {w : Variable} {payload' : List UInt8} (hv : v.Carries payload)
    (hw : w.Carries payload') (enough : 40 ≤ payload.length) (enough' : 40 ≤ payload'.length)
    (same : ∀ i < 8, payload[32 + i]? = some 1 ↔ payload'[32 + i]? = some 1) :
    v.reading = w.reading := by
  rw [hv.reading, hw.reading, OneHot.ofPayload_of_enough enough, OneHot.ofPayload_of_enough enough',
    OneHot.marks_eq same]

/-- A result has the label at the place of the only one. -/
theorem label_of_ready {r : OneHot} (h : v.reading = .ready r) :
    ∃ (payload : List UInt8) (c : Fin 8) (p : Personality), v.Carries payload ∧
      (∀ j : Fin 8, payload[32 + j.val]? = some 1 ↔ j = c) ∧ p.index = c ∧
        r.interpret = .label p := by
  obtain ⟨payload, carries, enough, shown, one⟩ := reading_eq_iff.mp h
  obtain rfl := OneHot.shows_iff.mp shown
  obtain ⟨c, only⟩ := (OneHot.isOneHot_ofBools_iff _).mp ((OneHot.isOneHot_marks enough).mpr one)
  obtain ⟨p, place, label⟩ := OneHot.interpret_ofBools only
  exact ⟨payload, c, p, carries, OneHot.onlyAt_marks_iff.mp only, place, label⟩

/-- Every variable is read as exactly what its transaction, the length of its payload and the ones
in it ask for; other bytes make no difference, and what is ready has its label. -/
theorem reading_exact :
    (∀ (v : Variable) (told : Reading), v.reading = told ↔ v.Tells told) ∧
    (∀ (v w : Variable) (payload payload' : List UInt8), v.transaction ≠ none →
      w.transaction ≠ none → v.payload = some payload → w.payload = some payload' →
      40 ≤ payload.length → 40 ≤ payload'.length →
      (∀ i < 8, payload[32 + i]? = some 1 ↔ payload'[32 + i]? = some 1) →
        v.reading = w.reading) ∧
    ∀ (v : Variable) (r : OneHot), v.reading = .ready r →
      ∃ (payload : List UInt8) (c : Fin 8) (p : Personality), v.Carries payload ∧
        (∀ j : Fin 8, payload[32 + j.val]? = some 1 ↔ j = c) ∧ p.index = c ∧
          r.interpret = .label p := by
  refine ⟨fun v told => reading_eq_iff, ?_, fun v r => label_of_ready⟩
  intro v w payload payload' ownedV ownedW heldV heldW enough enough' same
  have filled {bytes : List UInt8} (long : 40 ≤ bytes.length) : bytes ≠ [] :=
    List.ne_nil_of_length_pos (by omega)
  exact reading_eq_of_same_ones ⟨ownedV, heldV, filled enough⟩ ⟨ownedW, heldW, filled enough'⟩
    enough enough' same

/-- A byte that is neither zero nor one does not count, and a byte behind the result does not
either. -/
theorem reading_exact_second :
    let v : Variable := ⟨1, some ⟨"a"⟩, some (List.replicate 32 1 ++ [2, 1, 0, 0, 0, 0, 0, 0])⟩
    let w : Variable :=
      ⟨2, some ⟨"b"⟩, some (List.replicate 32 0 ++ [0, 1, 255, 0, 0, 0, 0, 0, 1])⟩
    v.reading = .ready ⟨#v[0, 1, 0, 0, 0, 0, 0, 0]⟩ ∧ v.reading = w.reading ∧
      ∃ (payload : List UInt8) (c : Fin 8) (p : Personality), v.Carries payload ∧
        (∀ j : Fin 8, payload[32 + j.val]? = some 1 ↔ j = c) ∧ p.index = c ∧
          (⟨#v[0, 1, 0, 0, 0, 0, 0, 0]⟩ : OneHot).interpret = .label p := by
  intro v w
  have ready : v.reading = .ready ⟨#v[0, 1, 0, 0, 0, 0, 0, 0]⟩ :=
    (reading_exact.1 v _).mpr
      ⟨_, ⟨nofun, rfl, nofun⟩, by decide, by unfold OneHot.Shows; decide, by decide⟩
  have same := reading_exact.2.1 v w _ _ nofun nofun rfl rfl (by decide) (by decide) (by decide)
  exact ⟨ready, same, reading_exact.2.2 v _ ready⟩

end Variable

end SealedTree
