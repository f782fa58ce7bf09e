import SealedTree.Poll.Outcome

/-!
Which variable answers a transaction. The precedence is a specification of the chosen candidate: its
rank says what the variable is and what the snapshot lacks, so that a variable is taken for a
transaction that it does not belong to only if the snapshot holds none that does, and then it is the
latest one with a payload. A result is read off the payload of the chosen variable and of no other.
-/

namespace SealedTree

namespace Variable

theorem isFor_iff {v : Variable} {tx : TransactionId} :
    v.isFor tx = true ↔ v.transaction = some tx := by
  rw [isFor, beq_iff_eq]

/-- There is a payload, and it is not empty. -/
def Filled (v : Variable) : Prop := ∃ payload, v.payload = some payload ∧ payload ≠ []

theorem filled_iff {v : Variable} : v.hasPayload = true ↔ v.Filled := by
  rw [hasPayload, Option.any_eq_true, Filled]
  simp

/-- The payload of the variable is read as `r`. -/
def Holds (v : Variable) (r : OneHot) : Prop :=
  ∃ payload, v.payload = some payload ∧ OneHot.ofPayload payload = .ok r

/-- There is a transaction, and there is something in the payload. -/
def Carries (v : Variable) (payload : List UInt8) : Prop :=
  v.transaction ≠ none ∧ v.payload = some payload ∧ payload ≠ []

theorem Carries.reading {v : Variable} {payload : List UInt8} (h : v.Carries payload) :
    v.reading =
      match OneHot.ofPayload payload with
      | .ok r => if r.isOneHot then .ready r else .notOneHot r
      | .error cause => .malformed cause := by
  obtain ⟨owned, held, filled⟩ := h
  obtain ⟨tx, owner⟩ := Option.ne_none_iff_exists'.mp owned
  cases payload with
  | nil => exact absurd rfl filled
  | cons b rest =>
      have whole : v.reading = Variable.reading ⟨v.key, some tx, some (b :: rest)⟩ := by
        rw [← owner, ← held]
      exact whole

theorem reading_of_decoded {v : Variable} {tx : TransactionId} {payload : List UInt8} {r : OneHot}
    (owner : v.transaction = some tx) (held : v.payload = some payload) (filled : payload ≠ [])
    (decoded : OneHot.ofPayload payload = .ok r) :
    v.reading = if r.isOneHot then .ready r else .notOneHot r := by
  have carries : v.Carries payload := ⟨by simp [owner], held, filled⟩
  rw [carries.reading, decoded]

theorem reading_eq_ready {v : Variable} {r : OneHot} (h : v.reading = .ready r) :
    (∃ tx, v.transaction = some tx) ∧ v.hasPayload = true ∧ v.Holds r ∧ r.isOneHot = true := by
  cases owner : v.transaction with
  | none => simp [reading, owner] at h
  | some tx =>
      cases held : v.payload with
      | none => simp [reading, owner, held] at h
      | some payload =>
          cases payload with
          | nil => simp [reading, owner, held] at h
          | cons b rest =>
              have filled : v.hasPayload = true :=
                filled_iff.mpr ⟨b :: rest, held, List.cons_ne_nil b rest⟩
              simp only [reading, owner, held] at h
              cases decoded : OneHot.ofPayload (b :: rest) with
              | error cause => simp [decoded] at h
              | ok result =>
                  cases oneHot : result.isOneHot with
                  | false => simp [decoded, oneHot] at h
                  | true =>
                      simp only [decoded, oneHot, if_true, Reading.ready.injEq] at h
                      subst h
                      exact ⟨⟨tx, rfl⟩, filled, ⟨b :: rest, held, decoded⟩, oneHot⟩

end Variable

namespace Snapshot

variable {vs : Snapshot} {tx : TransactionId}

/-- The first variable of a kind, and where it stands. -/
def First (vs : Snapshot) (kind : Variable → Prop) (i : Nat) (v : Variable) : Prop :=
  vs[i]? = some v ∧ kind v ∧ ∀ j < i, ∀ u, vs[j]? = some u → ¬kind u

/-- No variable with a payload has a higher key. -/
def Latest (vs : Snapshot) (v : Variable) : Prop :=
  v.Filled ∧ ∀ u ∈ vs, u.Filled → u.key ≤ v.key

/-- What the precedence asks of a candidate: a rank counts where those before it have none. -/
def Chooses (vs : Snapshot) (tx : TransactionId) (c : Candidate) : Prop :=
  match c.rank with
  | .exact => vs.First (fun v => v.transaction = some tx ∧ v.Filled) c.position c.found
  | .transaction =>
      (¬∃ v ∈ vs, v.transaction = some tx ∧ v.Filled) ∧
        vs.First (·.transaction = some tx) c.position c.found
  | .latestPayload =>
      (¬∃ v ∈ vs, v.transaction = some tx) ∧ vs.First vs.Latest c.position c.found
  | .last =>
      (¬∃ v ∈ vs, v.transaction = some tx) ∧ (¬∃ v ∈ vs, v.Filled) ∧
        vs[c.position]? = some c.found ∧ c.position + 1 = vs.length

section First

variable {p : Variable → Bool} {kind : Variable → Prop} {i : Nat} {v : Variable}

theorem first_iff (same : ∀ u ∈ vs, p u = true ↔ kind u) :
    vs.First kind i v ↔ vs.findIdx? p = some i ∧ vs[i]? = some v := by
  rw [List.findIdx?_eq_some_iff_getElem]
  constructor
  · rintro ⟨here, holds, before⟩
    obtain ⟨inside, rfl⟩ := List.getElem?_eq_some_iff.mp here
    refine ⟨⟨inside, (same _ (List.getElem_mem inside)).mpr holds, fun j early => ?_⟩, here⟩
    have there : j < vs.length := Nat.lt_trans early inside
    exact mt (same _ (List.getElem_mem there)).mp
      (before j early _ (List.getElem?_eq_getElem there))
  · rintro ⟨⟨inside, holds, before⟩, here⟩
    obtain ⟨_, rfl⟩ := List.getElem?_eq_some_iff.mp here
    refine ⟨here, (same _ (List.getElem_mem inside)).mp holds, fun j early u there => ?_⟩
    obtain ⟨_, rfl⟩ := List.getElem?_eq_some_iff.mp there
    exact mt (same _ (List.getElem_mem _)).mpr (before j early)

theorem First.find? (h : vs.First kind i v) (same : ∀ u ∈ vs, p u = true ↔ kind u) :
    vs.find? p = some v := by
  obtain ⟨first, here⟩ := (first_iff same).mp h
  obtain ⟨inside, holds, before⟩ := List.findIdx?_eq_some_iff_getElem.mp first
  obtain ⟨_, rfl⟩ := List.getElem?_eq_some_iff.mp here
  exact List.find?_eq_some_iff_getElem.mpr
    ⟨holds, i, inside, rfl, fun j early => by simpa using before j early⟩

theorem findIdx?_eq_none_iff (same : ∀ u ∈ vs, p u = true ↔ kind u) :
    vs.findIdx? p = none ↔ ¬∃ u ∈ vs, kind u := by
  rw [List.findIdx?_eq_none_iff]
  constructor
  · rintro none ⟨u, hu, holds⟩
    have fails := none u hu
    rw [(same u hu).mpr holds] at fails
    cases fails
  · intro none u hu
    rw [← Bool.not_eq_true, same u hu]
    exact fun holds => none ⟨u, hu, holds⟩

theorem exists_first (some : ∃ u ∈ vs, kind u) : ∃ i v, vs.First kind i v := by
  classical
  have same : ∀ u ∈ vs, decide (kind u) = true ↔ kind u := fun _ _ => decide_eq_true_iff
  cases first : vs.findIdx? fun u => decide (kind u) with
  | none => exact absurd some ((findIdx?_eq_none_iff same).mp first)
  | some i =>
      obtain ⟨inside, -⟩ := List.findIdx?_eq_some_iff_getElem.mp first
      exact ⟨i, vs[i], (first_iff same).mpr ⟨first, List.getElem?_eq_getElem inside⟩⟩

end First

theorem lawfulMax : Std.LawfulOrderMax UInt64 := by
  have max_def (a b : UInt64) : max a b = if a ≤ b then b else a := rfl
  refine .of_max_le_iff (fun a b c => ?_) (fun a b => ?_)
  · rw [max_def]
    split <;> simp only [UInt64.le_iff_toNat_le] at * <;> omega
  · rw [max_def]
    split
    · exact .inr rfl
    · exact .inl rfl

theorem latestKey?_eq_some_iff {key : UInt64} :
    vs.latestKey? = some key ↔
      (∃ v ∈ vs, v.hasPayload = true ∧ v.key = key) ∧
        ∀ u ∈ vs, u.hasPayload = true → u.key ≤ key := by
  have := lawfulMax
  rw [latestKey?, List.max?_eq_some_iff]
  simp only [List.mem_map, List.mem_filter, and_assoc]
  constructor
  · rintro ⟨held, highest⟩
    exact ⟨held, fun u hu filled => highest u.key ⟨u, hu, filled, rfl⟩⟩
  · rintro ⟨held, highest⟩
    refine ⟨held, ?_⟩
    rintro _ ⟨u, hu, filled, rfl⟩
    exact highest u hu filled

theorem latestKey?_eq_none_iff : vs.latestKey? = none ↔ ¬∃ v ∈ vs, v.Filled := by
  rw [latestKey?, List.max?_eq_none_iff, List.map_eq_nil_iff, List.filter_eq_nil_iff]
  simp only [Variable.filled_iff, not_exists, not_and]

theorem latest_iff {key : UInt64} (highest : vs.latestKey? = some key) :
    ∀ u ∈ vs, (u.hasPayload && u.key == key) = true ↔ vs.Latest u := by
  obtain ⟨⟨v, hv, filled, rfl⟩, above⟩ := latestKey?_eq_some_iff.mp highest
  intro u hu
  rw [Bool.and_eq_true, beq_iff_eq, Variable.filled_iff, Latest]
  constructor
  · rintro ⟨held, same⟩
    refine ⟨held, fun w hw other => ?_⟩
    rw [same]
    exact above w hw (Variable.filled_iff.mpr other)
  · rintro ⟨held, most⟩
    exact ⟨held, UInt64.le_antisymm (above u hu (Variable.filled_iff.mpr held))
      (most v hv (Variable.filled_iff.mp filled))⟩

theorem Latest.latestKey? {v : Variable} (h : vs.Latest v) (hv : v ∈ vs) :
    vs.latestKey? = some v.key :=
  latestKey?_eq_some_iff.mpr ⟨⟨v, hv, Variable.filled_iff.mpr h.1, rfl⟩,
    fun u hu filled => h.2 u hu (Variable.filled_iff.mp filled)⟩

theorem exists_latest (some : ∃ u ∈ vs, u.Filled) : ∃ u ∈ vs, vs.Latest u := by
  cases highest : vs.latestKey? with
  | none => exact absurd some (latestKey?_eq_none_iff.mp highest)
  | some key =>
      obtain ⟨⟨u, hu, filled, same⟩, -⟩ := latestKey?_eq_some_iff.mp highest
      refine ⟨u, hu, (latest_iff highest u hu).mp ?_⟩
      rw [Bool.and_eq_true, beq_iff_eq]
      exact ⟨filled, same⟩

theorem exact_iff (v : Variable) :
    (v.isFor tx && v.hasPayload) = true ↔ v.transaction = some tx ∧ v.Filled := by
  rw [Bool.and_eq_true, Variable.isFor_iff, Variable.filled_iff]

theorem position?_eq_some_iff {rank : Rank} {i : Nat} :
    vs.position? tx = some (rank, i) ↔
      match rank with
      | .exact => vs.findIdx? (fun v => v.isFor tx && v.hasPayload) = some i
      | .transaction =>
          vs.findIdx? (fun v => v.isFor tx && v.hasPayload) = none ∧
            vs.findIdx? (·.isFor tx) = some i
      | .latestPayload =>
          vs.findIdx? (fun v => v.isFor tx && v.hasPayload) = none ∧
            vs.findIdx? (·.isFor tx) = none ∧
            ∃ key, vs.latestKey? = some key ∧
              vs.findIdx? (fun v => v.hasPayload && v.key == key) = some i
      | .last =>
          vs.findIdx? (fun v => v.isFor tx && v.hasPayload) = none ∧
            vs.findIdx? (·.isFor tx) = none ∧ vs.latestKey? = none ∧ i + 1 = vs.length := by
  rw [position?]
  cases exact : vs.findIdx? fun v => v.isFor tx && v.hasPayload with
  | some j => cases rank <;> simp
  | none =>
      cases owned : vs.findIdx? fun v => v.isFor tx with
      | some j => cases rank <;> simp
      | none =>
          cases latest : vs.latestKey? with
          | some key => cases rank <;> simp
          | none =>
              cases vs with
              | nil => cases rank <;> simp
              | cons v rest => cases rank <;> simp [eq_comm]

theorem select?_eq_some_iff_position? {c : Candidate} :
    vs.select? tx = some c ↔
      vs.position? tx = some (c.rank, c.position) ∧ vs[c.position]? = some c.found := by
  obtain ⟨rank, i, v⟩ := c
  simp only [select?, Option.bind_eq_bind, Option.bind_eq_some_iff, Prod.exists]
  constructor
  · rintro ⟨rank, i, position, v, here, same⟩
    cases same
    exact ⟨position, here⟩
  · rintro ⟨position, here⟩
    exact ⟨rank, i, position, v, here, rfl⟩

/-- A candidate is chosen just if it is what the precedence asks for. -/
theorem select?_eq_some_iff {c : Candidate} : vs.select? tx = some c ↔ vs.Chooses tx c := by
  have exact : ∀ u ∈ vs, (u.isFor tx && u.hasPayload) = true ↔
      u.transaction = some tx ∧ u.Filled := fun u _ => exact_iff u
  have owned : ∀ u ∈ vs, u.isFor tx = true ↔ u.transaction = some tx :=
    fun _ _ => Variable.isFor_iff
  have foreign (none : ¬∃ v ∈ vs, v.transaction = some tx) :
      ¬∃ v ∈ vs, v.transaction = some tx ∧ v.Filled := fun ⟨v, hv, own, _⟩ => none ⟨v, hv, own⟩
  rw [select?_eq_some_iff_position?, position?_eq_some_iff, Chooses]
  cases c.rank with
  | exact => exact (first_iff exact).symm
  | transaction => rw [first_iff owned, findIdx?_eq_none_iff exact, and_assoc]
  | latestPayload =>
      rw [findIdx?_eq_none_iff exact, findIdx?_eq_none_iff owned]
      constructor
      · rintro ⟨⟨-, none, key, highest, first⟩, here⟩
        exact ⟨none, (first_iff (latest_iff highest)).mpr ⟨first, here⟩⟩
      · rintro ⟨none, first⟩
        have highest := first.2.1.latestKey? (List.mem_of_getElem? first.1)
        obtain ⟨found, here⟩ := (first_iff (latest_iff highest)).mp first
        exact ⟨⟨foreign none, none, _, highest, found⟩, here⟩
  | last =>
      rw [findIdx?_eq_none_iff exact, findIdx?_eq_none_iff owned, latestKey?_eq_none_iff]
      constructor
      · rintro ⟨⟨-, none, bare, last⟩, here⟩
        exact ⟨none, bare, here, last⟩
      · rintro ⟨none, bare, here, last⟩
        exact ⟨⟨foreign none, none, bare, last⟩, here⟩

theorem exists_chooses (tx : TransactionId) (some : vs ≠ []) : ∃ c, vs.Chooses tx c := by
  by_cases exact : ∃ v ∈ vs, v.transaction = .some tx ∧ v.Filled
  · obtain ⟨i, v, first⟩ := exists_first exact
    exact ⟨⟨.exact, i, v⟩, first⟩
  by_cases owned : ∃ v ∈ vs, v.transaction = .some tx
  · obtain ⟨i, v, first⟩ := exists_first owned
    exact ⟨⟨.transaction, i, v⟩, exact, first⟩
  by_cases filled : ∃ v ∈ vs, v.Filled
  · obtain ⟨i, v, first⟩ := exists_first (exists_latest filled)
    exact ⟨⟨.latestPayload, i, v⟩, owned, first⟩
  · refine ⟨⟨.last, vs.length - 1, vs.getLast some⟩, owned, filled, ?_, ?_⟩
    · rw [← List.getLast?_eq_getElem?, List.getLast?_eq_some_getLast some]
    · exact Nat.sub_add_cancel (List.length_pos_iff.mpr some)

theorem select?_eq_none_iff : vs.select? tx = none ↔ vs = [] := by
  constructor
  · intro none
    refine Classical.byContradiction fun some => ?_
    obtain ⟨c, chosen⟩ := exists_chooses tx some
    rw [← select?_eq_some_iff, none] at chosen
    cases chosen
  · rintro rfl
    rfl

theorem mem_of_select? {c : Candidate} (h : vs.select? tx = some c) : c.found ∈ vs :=
  List.mem_of_getElem? (select?_eq_some_iff_position?.mp h).2

/-- The first variable for a transaction that has a payload is chosen, whatever else there is. -/
theorem select?_of_exact {before : Snapshot} (rest : Snapshot) {v : Variable}
    (earlier : ∀ u ∈ before, u.isFor tx = true → u.hasPayload = false)
    (owned : v.isFor tx = true) (filled : v.hasPayload = true) :
    select? (before ++ v :: rest) tx = some ⟨.exact, before.length, v⟩ := by
  refine select?_eq_some_iff.mpr ⟨by simp,
    ⟨Variable.isFor_iff.mp owned, Variable.filled_iff.mp filled⟩, fun j early u there => ?_⟩
  rw [List.getElem?_append_left early] at there
  rintro ⟨own, held⟩
  have bare := earlier u (List.mem_of_getElem? there) (Variable.isFor_iff.mpr own)
  rw [Variable.filled_iff.mpr held] at bare
  cases bare

end Snapshot

end SealedTree
