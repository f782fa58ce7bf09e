import SealedTree.Cursor
import SealedTree.Proofs.Revealing

/-!
What reading from a place keeps. The units that a cursor has passed are those of the values read so
far, in their order: that is the invariant. A read that succeeds passes the units of its own value,
one that fails passes nothing; so after any reads, failed ones among them, the place is not beyond
the end, and what the next read gives is decided by what stands there.
-/

namespace SealedTree

/-- A tape whose units stand in a row: a slice that does not reach beyond its end is a part of
it. -/
class LawfulTape (σ : Type) {τ : outParam Type} [Tape σ τ] where
  units : σ → List τ
  length_units (s : σ) : (units s).length = Tape.size s
  slice_eq (s : σ) {place n : Nat} : place + n ≤ Tape.size s →
    Tape.slice s place n = ((units s).drop place).take n

/-- Kinds whose values are written again as the units they were read from. -/
class LawfulKind (κ : Type) {τ ν : outParam Type} [ReadKind κ τ ν] where
  units : ν → List τ
  units_value (kind : κ) {xs : List τ} : xs.length = ReadKind.width kind →
    units (ReadKind.value kind xs) = xs

namespace Cursor

variable {σ τ κ ν : Type} [Tape σ τ] [ReadKind κ τ ν]

/-- Reads that are tried one after the other, whether they succeed or not. -/
def reads (c : Cursor σ) : List (String × κ) → List (Except PayloadError ν) × Cursor σ
  | [] => ([], c)
  | (field, kind) :: rest =>
      let (result, next) := c.read field kind
      let (results, last) := next.reads rest
      (result :: results, last)

/-- What the reads that succeeded gave. -/
def values (results : List (Except PayloadError ν)) : List ν := results.filterMap Except.toOption

theorem values_cons (result : Except PayloadError ν) (rest : List (Except PayloadError ν)) :
    values (result :: rest) = result.toOption.toList ++ values rest := by
  cases result <;> rfl

/-- What a read comes to. It succeeds just if enough is left, and then goes over the units of its
value; else it says what is lacking and stays, and what fits is still read afterwards. -/
structure Sound (c : Cursor σ) (field : String) (kind : κ) (Means : ν → Prop) : Prop where
  ok_iff : (∃ v, (c.read field kind).1 = .ok v) ↔ ReadKind.width kind ≤ c.remaining
  ok (v : ν) : (c.read field kind).1 = .ok v →
    (c.read field kind).2 = c.advance (ReadKind.width kind) ∧ Means v
  error (e : PayloadError) : (c.read field kind).1 = .error e →
    e = .underrun field (ReadKind.width kind) c.remaining ∧ (c.read field kind).2 = c ∧
      ∀ (other : String) (narrower : κ), ReadKind.width narrower ≤ c.remaining →
        ∃ v, ((c.read field kind).2.read other narrower).1 = .ok v

/-- The place is not beyond the end. -/
def Inside (c : Cursor σ) : Prop := c.pos ≤ Tape.size c.tape

variable {c : Cursor σ} {field : String} {kind : κ} {n : Nat}

theorem Inside.pos_add_remaining (h : c.Inside) : c.pos + c.remaining = Tape.size c.tape :=
  Nat.add_sub_of_le h

theorem Inside.advance (h : c.Inside) (fits : n ≤ c.remaining) : (c.advance n).Inside := by
  change c.pos + n ≤ Tape.size c.tape
  rw [← h.pos_add_remaining]
  exact Nat.add_le_add_left fits c.pos

theorem take_of_short (field : String) (short : c.remaining < n) :
    c.take field n = (.error (.underrun field n c.remaining), c) :=
  if_pos short

theorem read_of_short (field : String) (short : c.remaining < ReadKind.width kind) :
    c.read field kind = (.error (.underrun field (ReadKind.width kind) c.remaining), c) := by
  rw [read, take_of_short field short]
  rfl

theorem fits_of_ok {v : ν} (given : (c.read field kind).1 = .ok v) :
    ReadKind.width kind ≤ c.remaining := by
  by_contra lacks
  rw [read_of_short field (Nat.lt_of_not_le lacks)] at given
  cases given

theorem tape_read (c : Cursor σ) (field : String) (kind : κ) :
    (c.read field kind).2.tape = c.tape := by
  change (c.take field (ReadKind.width kind)).2.tape = c.tape
  rw [take]
  split <;> rfl

variable [LawfulTape σ]

def passed (c : Cursor σ) : List τ := (LawfulTape.units c.tape).take c.pos

def left (c : Cursor σ) : List τ := (LawfulTape.units c.tape).drop c.pos

theorem length_left (c : Cursor σ) : c.left.length = c.remaining := by
  rw [left, List.length_drop, LawfulTape.length_units, remaining]

theorem length_take_left (fits : n ≤ c.remaining) : (c.left.take n).length = n := by
  rw [List.length_take, length_left, Nat.min_eq_left fits]

theorem passed_advance (c : Cursor σ) (n : Nat) :
    (c.advance n).passed = c.passed ++ c.left.take n :=
  List.take_add

theorem left_advance (c : Cursor σ) (n : Nat) : (c.advance n).left = c.left.drop n :=
  List.drop_drop.symm

theorem take_of_fits (h : c.Inside) (field : String) (fits : n ≤ c.remaining) :
    c.take field n = (.ok (c.left.take n), c.advance n) := by
  rw [take, if_neg (Nat.not_lt.mpr fits), LawfulTape.slice_eq c.tape (h.advance fits)]
  rfl

theorem read_of_fits (h : c.Inside) (field : String) (fits : ReadKind.width kind ≤ c.remaining) :
    c.read field kind =
      (.ok (ReadKind.value kind (c.left.take (ReadKind.width kind))),
        c.advance (ReadKind.width kind)) := by
  rw [read, take_of_fits h field fits]
  rfl

theorem short_of_error (h : c.Inside) {e : PayloadError}
    (refused : (c.read field kind).1 = .error e) : c.remaining < ReadKind.width kind := by
  by_contra fits
  rw [read_of_fits h field (Nat.not_lt.mp fits)] at refused
  cases refused

theorem Inside.read (h : c.Inside) (field : String) (kind : κ) :
    (c.read field kind).2.Inside := by
  by_cases fits : ReadKind.width kind ≤ c.remaining
  · rw [read_of_fits h field fits]
    exact h.advance fits
  · rw [read_of_short field (Nat.lt_of_not_le fits)]
    exact h

/-- A read that finds enough gives the value of the units that come next. -/
theorem sound (h : c.Inside) (field : String) (kind : κ) {Means : ν → Prop}
    (means : ReadKind.width kind ≤ c.remaining →
      Means (ReadKind.value kind (c.left.take (ReadKind.width kind)))) :
    c.Sound field kind Means where
  ok_iff := by
    constructor
    · rintro ⟨v, given⟩
      exact fits_of_ok given
    · intro fits
      exact ⟨_, congrArg Prod.fst (read_of_fits h field fits)⟩
  ok v given := by
    have fits := fits_of_ok given
    rw [read_of_fits h field fits] at given ⊢
    cases given
    exact ⟨rfl, means fits⟩
  error e refused := by
    have short := short_of_error h refused
    rw [read_of_short field short] at refused ⊢
    cases refused
    refine ⟨rfl, rfl, fun other narrower room => ?_⟩
    exact ⟨_, congrArg Prod.fst (read_of_fits h other room)⟩

section Run

variable [LawfulKind κ]

/-- The values are all that the cursor has passed on this tape. -/
structure Holds (κ : Type) [ReadKind κ τ ν] [LawfulKind κ] (tape : σ) (c : Cursor σ)
    (values : List ν) : Prop where
  tape_eq : c.tape = tape
  inside : c.Inside
  passed_eq : values.flatMap (LawfulKind.units κ) = c.passed

theorem holds_start (tape : σ) : Holds κ tape { tape } [] where
  tape_eq := rfl
  inside := Nat.zero_le _
  passed_eq := List.take_zero.symm

theorem Holds.read {tape : σ} {vs : List ν} (h : Holds κ tape c vs) (field : String) (kind : κ) :
    Holds κ tape (c.read field kind).2 (vs ++ (c.read field kind).1.toOption.toList) where
  tape_eq := (tape_read c field kind).trans h.tape_eq
  inside := h.inside.read field kind
  passed_eq := by
    by_cases fits : ReadKind.width kind ≤ c.remaining
    · have units := LawfulKind.units_value kind (length_take_left fits)
      simp only [read_of_fits h.inside field fits, passed_advance, ← h.passed_eq,
        List.flatMap_append, Except.toOption, Option.toList_some, List.flatMap_singleton, units]
    · rw [read_of_short field (Nat.lt_of_not_le fits)]
      exact (congrArg _ (List.append_nil vs)).trans h.passed_eq

theorem Holds.reads {tape : σ} {vs : List ν} (h : Holds κ tape c vs)
    (fields : List (String × κ)) :
    Holds κ tape (c.reads fields).2 (vs ++ values (c.reads fields).1) := by
  induction fields generalizing c vs with
  | nil => simpa [reads, values] using h
  | cons f rest ih =>
      have later := ih (h.read f.1 f.2)
      rwa [List.append_assoc, ← values_cons] at later

/-- After any reads the place is not beyond the end and the values read are the units before it;
the next read gives the value of the units at the place if there are enough of them. -/
theorem reads_in_bounds (tape : σ) (before : List (String × κ))
    {P : σ → Nat → κ → ν → Prop}
    (means : ∀ (c : Cursor σ) (kind : κ), ReadKind.width kind ≤ c.remaining →
      P c.tape c.pos kind (ReadKind.value kind (c.left.take (ReadKind.width kind)))) :
    let (results, c) := ({ tape } : Cursor σ).reads before
    c.tape = tape ∧ c.pos ≤ Tape.size tape ∧ c.pos + c.remaining = Tape.size tape ∧
      (values results).flatMap (LawfulKind.units κ) = (LawfulTape.units tape).take c.pos ∧
      ∀ (field : String) (kind : κ), c.Sound field kind (P tape c.pos kind) := by
  have held := (holds_start (κ := κ) tape).reads before
  generalize ({ tape } : Cursor σ).reads before = run at held
  obtain ⟨results, c⟩ := run
  obtain ⟨rfl, inside, passed⟩ := held
  refine ⟨rfl, inside, inside.pos_add_remaining, passed, fun field kind => ?_⟩
  exact sound inside field kind (means c kind)

end Run

section Readers

/-- Taking from a place is taking from what is left there. -/
theorem run_take_left (h : c.Inside) (field : String) (n : Nat) :
    (Reader.take field n).run c.left =
      (c.take field n).1.map fun units => (units, (c.take field n).2.left) := by
  by_cases fits : n ≤ c.remaining
  · rw [take_of_fits h field fits]
    simp only [Except.map, left_advance]
    exact if_neg (by rwa [length_left, Nat.not_lt])
  · rw [take_of_short field (Nat.lt_of_not_le fits), ← length_left]
    exact if_pos (by rwa [length_left, ← Nat.not_le])

theorem run_read_left (h : c.Inside) (field : String) (kind : κ) :
    (ReadKind.value kind <$> Reader.take field (ReadKind.width kind)).run c.left =
      (c.read field kind).1.map fun v => (v, (c.read field kind).2.left) := by
  rw [StateT.run_map, run_take_left h, read]
  rcases c.take field (ReadKind.width kind) with ⟨_ | units, next⟩ <;> rfl

/-- The reader of these values in a row. -/
def row (fields : List (String × κ)) : Reader τ (List ν) :=
  fields.mapM fun f => ReadKind.value f.2 <$> Reader.take f.1 (ReadKind.width f.2)

theorem row_cons (f : String × κ) (rest : List (String × κ)) :
    row (f :: rest) = ReadKind.value f.2 <$> Reader.take f.1 (ReadKind.width f.2) >>= fun v =>
      (v :: ·) <$> row rest := by
  simp only [row, List.mapM_cons, map_eq_pure_bind]

/-- A reader of several values in a row differs from the reads of a cursor in this only, that it
stops at the first one that fails. -/
theorem run_row_left (h : c.Inside) (fields : List (String × κ)) :
    (row fields).run c.left =
      ((c.reads fields).1.mapM id).map fun vs => (vs, (c.reads fields).2.left) := by
  induction fields generalizing c with
  | nil => rfl
  | cons f rest ih =>
      have first := run_read_left h f.1 f.2
      have later := ih (h.read f.1 f.2)
      rw [row_cons, StateT.run_bind, first, reads]
      simp only [StateT.run_map]
      generalize c.read f.1 f.2 = step at later ⊢
      obtain ⟨_ | v, next⟩ := step
      · rfl
      · simp only [Except.map, Except.bind, bind, later, List.mapM_cons, id]
        cases (next.reads rest).1.mapM id <;> rfl

end Readers

end Cursor

end SealedTree
