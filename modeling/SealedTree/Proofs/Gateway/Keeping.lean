import Mathlib.Data.List.Nodup
import SealedTree.Gateway
import SealedTree.Proofs.Poll.Turn

/-!
What the gateway keeps. Its table holds one search for a transaction, and the searches are numbered
in the order of their coming. Whatever is tracked, however the searches go on and however the limit
changes, a search under way is never given up, and of the ended ones the latest stay.
-/

namespace SealedTree

theorem Poll.Session.tx_move (s : Poll.Session) (m : Poll.Desk.Move) : (s.move m).tx = s.tx := by
  have noted (acts : List Poll.Act) (s : Poll.Session) : (acts.foldl note s).tx = s.tx := by
    induction acts generalizing s with
    | nil => rfl
    | cons a rest ih => rw [List.foldl_cons, ih]; cases a <;> rfl
  exact (noted _ _).trans (s.desk.tx_move m)

theorem Poll.Session.tx_moves (s : Poll.Session) (moves : List Poll.Desk.Move) :
    (moves.foldl move s).tx = s.tx := by
  induction moves generalizing s with
  | nil => rfl
  | cons m rest ih => rw [List.foldl_cons, ih, tx_move]

namespace Gateway

/-- What is left of some entries when no more than `limit` ended searches are kept: those under way
and the latest of the others. -/
structure Trimmed (limit : Nat) (before after : List Entry) : Prop where
  sublist : after.Sublist before
  pending : ∀ e ∈ before, e.isPending = true → e ∈ after
  count : after.countP (!·.isPending) = min limit (before.countP (!·.isPending))
  latest : ∀ e ∈ before, e ∉ after → ∀ kept ∈ after, kept.isPending = false →
    e.number < kept.number

namespace Table

/-- What may become of a table. -/
inductive Change
  | track (s : Poll.Session)
  | limit (n : Nat)
  /-- A search goes on by the moves of its task and of those who ask it to retry. -/
  | progress (tx : TransactionId) (moves : List Poll.Desk.Move)

def Change.isTrack : Change → Bool
  | .track _ => true
  | .limit _ | .progress _ _ => false

def on (t : Table) : Change → Table
  | .track s =>
      match t.track s with
      | .ok t' => t'
      | .error _ => t
  | .limit n => t.setMaxSettled n
  | .progress tx moves => t.update tx fun s => moves.foldl Poll.Session.move s

def after (t : Table) (changes : List Change) : Table := changes.foldl on t

structure Valid (t : Table) : Prop where
  owned : ∀ e ∈ t.entries, e.key = e.search.tx
  single : (t.entries.map Entry.key).Nodup
  ordered : t.entries.Pairwise (·.number < ·.number)
  numbered : ∀ e ∈ t.entries, e.number < t.nextNumber

/-- A transaction whose search is under way. -/
def Searching (t : Table) (tx : TransactionId) : Prop :=
  ∃ e ∈ t.entries, e.search.tx = tx ∧ e.search.status = .pending

/-- What each change does to a table. -/
structure Keeps (t : Table) : Prop where
  refused (s : Poll.Session) : t.Searching s.tx →
    t.track s = .error (.alreadyPolled s.tx) ∧ t.on (.track s) = t
  tracked (s : Poll.Session) : ¬t.Searching s.tx →
    t.track s = .ok (t.on (.track s)) ∧
      (t.on (.track s)).nextNumber = t.nextNumber + 1 ∧
      (t.on (.track s)).maxSettled = t.maxSettled ∧
      Trimmed t.maxSettled (t.entries.filter (·.key != s.tx) ++ [⟨s.tx, s, t.nextNumber⟩])
        (t.on (.track s)).entries
  limited (n : Nat) :
    (t.on (.limit n)).nextNumber = t.nextNumber ∧
      (t.on (.limit n)).maxSettled = n ∧ Trimmed n t.entries (t.on (.limit n)).entries
  /-- A search leaves the table when it has ended and another one comes in its place, or when enough
  ended ones came after it. -/
  departs (c : Change) : ∀ e ∈ t.entries, (∀ kept ∈ (t.on c).entries, kept.number ≠ e.number) →
    e.search.status ≠ .pending ∧
      ((∃ s, c = .track s ∧ s.tx = e.search.tx ∧ t.track s = .ok (t.on c)) ∨
        (t.on c).maxSettled ≤
          (t.on c).entries.countP fun kept => !kept.isPending && e.number < kept.number)

end Table

theorem Entry.isPending_iff {e : Entry} : e.isPending = true ↔ e.search.status = .pending := by
  rw [isPending, beq_iff_eq]

/-- In an order by numbers, those with fewer than `limit` after them are the last ones. -/
theorem latest_eq_drop {es : List Entry} (ordered : es.Pairwise (·.number < ·.number))
    (limit : Nat) :
    es.filter (fun e => es.countP (e.number < ·.number) < limit) = es.drop (es.length - limit) := by
  induction es with
  | nil => simp
  | cons e rest ih =>
      rw [List.pairwise_cons] at ordered
      obtain ⟨first, ordered⟩ := ordered
      have behind : (e :: rest).countP (e.number < ·.number) = rest.length := by
        rw [List.countP_cons_of_neg (by simp), List.countP_eq_length]
        exact fun x hx => decide_eq_true (first x hx)
      have same : ∀ x ∈ rest, decide ((e :: rest).countP (x.number < ·.number) < limit) =
          decide (rest.countP (x.number < ·.number) < limit) := by
        intro x hx
        rw [List.countP_cons_of_neg (by simpa using Nat.le_of_lt (first x hx))]
      rw [List.filter_cons, behind, List.filter_congr same, ih ordered, List.length_cons]
      by_cases few : rest.length < limit
      · rw [if_pos (decide_eq_true few), Nat.sub_eq_zero_of_le (Nat.le_of_lt few),
          Nat.sub_eq_zero_of_le few]
        rfl
      · rw [if_neg (by simpa using few), Nat.succ_sub (Nat.le_of_not_lt few), List.drop_succ_cons]

theorem Trimmed.departs {limit : Nat} {before after : List Entry} (h : Trimmed limit before after)
    {e : Entry} (tracked : e ∈ before) (gone : e ∉ after) :
    e.isPending = false ∧
      limit ≤ after.countP fun kept => !kept.isPending && e.number < kept.number := by
  have ended : e.isPending = false := by
    rw [← Bool.not_eq_true]
    exact fun pending => gone (h.pending e tracked pending)
  have later : after.countP (fun kept => !kept.isPending && e.number < kept.number) =
      after.countP (!·.isPending) := by
    refine List.countP_congr fun kept here => ?_
    simpa using h.latest e tracked gone kept here
  -- An ended search went, so the limit is what bounds the number of those that are left.
  have fewer : after.countP (!·.isPending) < before.countP (!·.isPending) := by
    refine Nat.lt_of_le_of_ne h.sublist.countP_le fun same => gone ?_
    rw [List.countP_eq_length_filter, List.countP_eq_length_filter] at same
    have whole := (h.sublist.filter (!·.isPending)).eq_of_length same
    have left : e ∈ after.filter (!·.isPending) := by
      rw [whole]
      exact List.mem_filter.mpr ⟨tracked, by simp [ended]⟩
    exact (List.mem_filter.mp left).1
  rw [h.count] at fewer
  refine ⟨ended, ?_⟩
  rw [later, h.count]
  omega

namespace Table

variable {t : Table}

theorem settled_filter (p : Entry → Bool) :
    (t.entries.filter fun e => e.isPending || p e).filter (!·.isPending) = t.settled.filter p := by
  rw [settled, List.filter_filter, List.filter_filter]
  refine List.filter_congr fun e _ => ?_
  cases e.isPending <;> simp

theorem trimmed_evictSettled (ordered : t.entries.Pairwise (·.number < ·.number)) :
    Trimmed t.maxSettled t.entries t.evictSettled.entries := by
  have keep {e : Entry} : e ∈ t.evictSettled.entries ↔ e ∈ t.entries ∧
      (e.isPending = true ∨ t.settled.countP (e.number < ·.number) < t.maxSettled) := by
    simp [evictSettled]
  refine ⟨List.filter_sublist, fun e here pending => keep.mpr ⟨here, .inl pending⟩, ?_, ?_⟩
  · have left : t.evictSettled.entries.filter (!·.isPending) =
        t.settled.drop (t.settled.length - t.maxSettled) :=
      (settled_filter _).trans (latest_eq_drop (ordered.filter _) _)
    rw [List.countP_eq_length_filter, left, List.countP_eq_length_filter, ← settled,
      List.length_drop]
    omega
  · intro e here gone kept stays ended
    rw [keep, not_and_or, not_or] at gone
    obtain ⟨-, many⟩ := gone.resolve_left (not_not_intro here)
    have few := (keep.mp stays).2.resolve_left (by simp [ended])
    -- What comes after the later of two comes after the other one too.
    by_contra above
    refine many (Nat.lt_of_le_of_lt (List.countP_mono_left fun x _ beyond => ?_) few)
    simp only [decide_eq_true_eq] at beyond ⊢
    omega

theorem Valid.evictSettled (h : t.Valid) : t.evictSettled.Valid where
  owned e here := h.owned e (List.mem_filter.mp here).1
  single := h.single.sublist (List.filter_sublist.map _)
  ordered := h.ordered.filter _
  numbered e here := h.numbered e (List.mem_filter.mp here).1

theorem Valid.insert (h : t.Valid) (s : Poll.Session) : (t.insert s).Valid := by
  have others {e : Entry} (here : e ∈ t.entries.filter (·.key != s.tx)) :
      e ∈ t.entries ∧ e.key ≠ s.tx := by
    simpa using here
  refine ⟨fun e here => ?_, ?_, ?_, fun e here => ?_⟩
  · rcases List.mem_append.mp here with old | new
    · exact h.owned e (others old).1
    · rw [List.mem_singleton.mp new]
  · rw [Table.insert, List.map_append, List.nodup_append]
    refine ⟨h.single.sublist (List.filter_sublist.map _), by simp, ?_⟩
    intro key old other new
    obtain ⟨e, here, rfl⟩ := List.mem_map.mp old
    rw [show other = s.tx by simpa using new]
    exact (others here).2
  · refine List.pairwise_append.mpr ⟨h.ordered.filter _, List.pairwise_singleton _ _, ?_⟩
    intro e old new last
    rw [List.mem_singleton.mp last]
    exact h.numbered e (others old).1
  · rcases List.mem_append.mp here with old | new
    · exact Nat.lt_succ_of_lt (h.numbered e (others old).1)
    · rw [List.mem_singleton.mp new]
      exact Nat.lt_succ_self _

theorem Valid.update (h : t.Valid) (tx : TransactionId) {f : Poll.Session → Poll.Session}
    (owner : ∀ s, s.tx = tx → (f s).tx = tx) : (t.update tx f).Valid := by
  have key (e : Entry) :
      (if e.key = tx then { e with search := f e.search } else e).key = e.key := by
    split <;> rfl
  have number (e : Entry) :
      (if e.key = tx then { e with search := f e.search } else e).number = e.number := by
    split <;> rfl
  refine ⟨fun e here => ?_, ?_, ?_, fun e here => ?_⟩
  · obtain ⟨old, before, rfl⟩ := List.mem_map.mp here
    rw [key]
    split
    · next here => exact here.trans (owner _ ((h.owned old before).symm.trans here)).symm
    · exact h.owned old before
  · rw [Table.update, List.map_map, show Entry.key ∘ _ = Entry.key from funext key]
    exact h.single
  · refine List.pairwise_map.mpr (h.ordered.imp fun less => ?_)
    rwa [number, number]
  · obtain ⟨old, before, rfl⟩ := List.mem_map.mp here
    rw [number]
    exact h.numbered old before

theorem Valid.find?_eq_some_iff (h : t.Valid) {tx : TransactionId} {e : Entry} :
    t.find? tx = some e ↔ e ∈ t.entries ∧ e.search.tx = tx := by
  constructor
  · intro found
    have here := List.mem_of_find?_eq_some found
    exact ⟨here, (h.owned e here).symm.trans (by simpa using List.find?_some found)⟩
  · rintro ⟨here, owner⟩
    have key := (h.owned e here).trans owner
    have some : (t.find? tx).isSome = true := List.find?_isSome.mpr ⟨e, here, by simpa using key⟩
    obtain ⟨e', found⟩ := Option.isSome_iff_exists.mp some
    have key' : e'.key = tx := by simpa using List.find?_some found
    have same := List.inj_on_of_nodup_map h.single (List.mem_of_find?_eq_some found) here
      (key'.trans key.symm)
    rw [found, same]

theorem Valid.isPending_iff (h : t.Valid) {tx : TransactionId} :
    t.isPending tx = true ↔ t.Searching tx := by
  simp only [Table.isPending, Option.any_eq_true, h.find?_eq_some_iff, Entry.isPending_iff,
    Searching, and_assoc]

theorem Valid.track_of_searching (h : t.Valid) {s : Poll.Session} (searching : t.Searching s.tx) :
    t.track s = .error (.alreadyPolled s.tx) ∧ t.on (.track s) = t := by
  have refused : t.track s = .error (.alreadyPolled s.tx) := by
    rw [track, if_pos (h.isPending_iff.mpr searching)]
  exact ⟨refused, by rw [Table.on, refused]⟩

theorem Valid.track_of_not_searching (h : t.Valid) {s : Poll.Session}
    (free : ¬t.Searching s.tx) :
    t.track s = .ok (t.insert s).evictSettled ∧ t.on (.track s) = (t.insert s).evictSettled := by
  have accepted : t.track s = .ok (t.insert s).evictSettled := by
    rw [track, if_neg (mt h.isPending_iff.mp free)]
  exact ⟨accepted, by rw [Table.on, accepted]⟩

theorem Valid.on (h : t.Valid) (c : Change) : (t.on c).Valid := by
  cases c with
  | track s =>
      by_cases searching : t.Searching s.tx
      · rwa [(h.track_of_searching searching).2]
      · rw [(h.track_of_not_searching searching).2]
        exact (h.insert s).evictSettled
  | limit n =>
      have same : Valid { t with maxSettled := n } :=
        ⟨h.owned, h.single, h.ordered, h.numbered⟩
      exact same.evictSettled
  | progress tx moves => exact h.update tx fun s owner => (s.tx_moves moves).trans owner

theorem Valid.after (h : t.Valid) (changes : List Change) : (t.after changes).Valid := by
  induction changes generalizing t with
  | nil => exact h
  | cons c rest ih => exact ih (h.on c)

theorem nextNumber_on (t : Table) (c : Change) :
    (t.on c).nextNumber ≤ t.nextNumber + if c.isTrack then 1 else 0 := by
  cases c with
  | limit _ | progress _ _ => exact Nat.le_refl _
  | track s =>
      rw [on, track]
      by_cases pending : t.isPending s.tx = true
      · rw [if_pos pending]
        exact Nat.le_succ _
      · rw [if_neg pending]
        exact Nat.le_refl _

/-- Numbers are given out to tracked searches only. -/
theorem nextNumber_after (t : Table) (changes : List Change) :
    (t.after changes).nextNumber ≤ t.nextNumber + changes.countP Change.isTrack := by
  induction changes generalizing t with
  | nil => exact Nat.le_refl _
  | cons c rest ih =>
      rw [List.countP_cons]
      have first := t.nextNumber_on c
      have others := ih (t.on c)
      rw [after] at others ⊢
      rw [List.foldl_cons]
      omega

theorem stats_tracked (t : Table) :
    t.stats.tracked = t.stats.pending + t.stats.resolved + t.stats.exhausted + t.stats.failed := by
  simp only [stats, count]
  induction t.entries with
  | nil => rfl
  | cons e rest ih =>
      simp only [List.countP_cons, List.length_cons]
      cases e.search.status <;> simp <;> omega

theorem Valid.trimmed_limit (h : t.Valid) (n : Nat) :
    Trimmed n t.entries (t.on (.limit n)).entries :=
  trimmed_evictSettled (t := { t with maxSettled := n }) h.ordered

theorem Valid.departs (h : t.Valid) (c : Change) {e : Entry} (here : e ∈ t.entries)
    (gone : ∀ kept ∈ (t.on c).entries, kept.number ≠ e.number) :
    e.search.status ≠ .pending ∧
      ((∃ s, c = .track s ∧ s.tx = e.search.tx ∧ t.track s = .ok (t.on c)) ∨
        (t.on c).maxSettled ≤
          (t.on c).entries.countP fun kept => !kept.isPending && e.number < kept.number) := by
  have absent : e ∉ (t.on c).entries := fun stays => gone e stays rfl
  cases c with
  | track s =>
      by_cases searching : t.Searching s.tx
      · rw [(h.track_of_searching searching).2] at absent
        exact absurd here absent
      · obtain ⟨accepted, after⟩ := h.track_of_not_searching searching
        rw [after] at absent ⊢
        by_cases same : s.tx = e.search.tx
        · exact ⟨fun pending => searching ⟨e, here, same.symm, pending⟩,
            .inl ⟨s, rfl, same, accepted⟩⟩
        · have other : e ∈ (t.insert s).entries := by
            refine List.mem_append_left _ (List.mem_filter.mpr ⟨here, ?_⟩)
            rw [h.owned e here]
            simpa using Ne.symm same
          have trimmed := trimmed_evictSettled (h.insert s).ordered
          obtain ⟨ended, enough⟩ := trimmed.departs other absent
          exact ⟨by simpa [Entry.isPending] using ended, .inr enough⟩
  | limit n =>
      obtain ⟨ended, enough⟩ := (h.trimmed_limit n).departs here absent
      exact ⟨by simpa [Entry.isPending] using ended, .inr enough⟩
  | progress tx moves =>
      refine absurd ?_ (gone _ (List.mem_map_of_mem here))
      split <;> rfl

theorem Valid.keeps (h : t.Valid) : t.Keeps where
  refused _ searching := h.track_of_searching searching
  tracked s free := by
    obtain ⟨accepted, after⟩ := h.track_of_not_searching free
    rw [after]
    exact ⟨accepted, rfl, rfl, trimmed_evictSettled (h.insert s).ordered⟩
  limited n := ⟨rfl, rfl, h.trimmed_limit n⟩
  departs c _ here gone := h.departs c here gone

theorem valid_empty : ({} : Table).Valid :=
  ⟨by simp, List.nodup_nil, List.Pairwise.nil, by simp⟩

end Table

/-- The table of a gateway that was just started, after whatever becomes of it. -/
theorem table_keeps {settings : Settings} {g : Gateway} (started : start settings = .ok g)
    (changes : List Table.Change) :
    (g.table.after changes).Valid ∧
      (g.table.after changes).nextNumber ≤ changes.countP Table.Change.isTrack ∧
      (g.table.after changes).stats.tracked =
        (g.table.after changes).stats.pending + (g.table.after changes).stats.resolved +
          (g.table.after changes).stats.exhausted + (g.table.after changes).stats.failed ∧
      (g.table.after changes).Keeps := by
  have empty : g.table = {} := by
    rw [start] at started
    cases valid : settings.schedule.validate with
    | error e =>
        rw [valid] at started
        cases started
    | ok =>
        rw [valid] at started
        cases started
        rfl
  have valid := Table.valid_empty.after changes
  rw [empty]
  refine ⟨valid, ?_, Table.stats_tracked _, valid.keeps⟩
  simpa using Table.nextNumber_after {} changes

/-- Of two searches that have ended only the later one stays, and one under way beside it. -/
theorem table_keeps_latest :
    let g : Gateway := { settings := {} }
    let search (tx : String) : Poll.Session := .ofTask <|
      .launch ⟨tx⟩ ((Poll.Machine.new { maxRetries := 1 }).after [.track ⟨tx⟩]) (.wait 0)
    let fruitless : List Poll.Desk.Move :=
      [.task .go, .task .woke, .task (.answered (.ok []) 0)]
    let changes : List Table.Change :=
      [.limit 1, .track (search "a1"), .track (search "a2"), .progress ⟨"a1"⟩ fruitless,
        .progress ⟨"a2"⟩ fruitless, .track (search "a3")]
    start {} = .ok g ∧
      (g.table.after changes).entries.map (fun e => (e.key, e.search.status, e.number)) =
        [(⟨"a2"⟩, .exhausted, 1), (⟨"a3"⟩, .pending, 2)] ∧
      (g.table.after changes).Valid ∧ (g.table.after changes).Keeps := by
  intro g search fruitless changes
  have valid : ({} : Schedule).validate = .ok () := by decide +kernel
  have started : start {} = .ok g := by
    rw [start, valid]
    rfl
  obtain ⟨valid, -, -, keeps⟩ := table_keeps started changes
  exact ⟨started, by decide +kernel, valid, keeps⟩

end Gateway

end SealedTree
