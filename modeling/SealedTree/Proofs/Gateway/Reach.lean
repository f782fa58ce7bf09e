import SealedTree.Proofs.Gateway.Submission
import SealedTree.Proofs.Poll.Asking
import SealedTree.Proofs.Success

/-!
The gateways that there can be: one that was just started, and whatever becomes of it by requests
that are handled one after the other and by searches that go on. A request that is not granted
leaves the table as it was; one that is begins a search or renews one. At every such gateway the
table is in order, and nobody waits at any of its searches.
-/

namespace SealedTree.Gateway

/-- A search goes on by a signal. -/
def went (g : Gateway) (tx : TransactionId) (x : Poll.Signal) : Gateway :=
  { g with table := g.table.update tx (·.move (.task x)) }

/-- The gateways that there can be when requests do not overlap. -/
inductive Reached : Gateway → Prop
  | started {settings : Settings} {g : Gateway} (maxSettled : Nat) (showsMetrics : Bool) :
      start settings = .ok g →
      Reached { g with table := g.table.setMaxSettled maxSettled, showsMetrics }
  | asked {g : Gateway} (r : Request) (world : World) : Reached g → Reached (g.handle r world).1
  | went {g : Gateway} (tx : TransactionId) (x : Poll.Signal) : Reached g → Reached (g.went tx x)

/-- What a request comes to, by the status of the answer. -/
inductive Turn (g : Gateway) : Nat → Gateway → Prop
  | same (status : Nat) (metrics : Metrics) : g.Turn status { g with metrics }
  | began (metrics : Metrics) {tx : TransactionId} {t : Poll.Task} {opening : List Poll.Event}
      {first : Duration} {table : Table} :
      t.Started g.settings.schedule tx opening first → g.table.track (.ofTask t) = .ok table →
      g.Turn 200 { g with table, metrics }
  | renewed (metrics : Metrics) {tx : TransactionId} {s s' : Poll.Session} :
      g.table.search tx = .ok s → s.retry = (s', .ok ()) →
      g.Turn 200 { g with table := g.table.update tx fun _ => s', metrics }

section Turn

variable (g : Gateway)

end Turn

variable {g after : Gateway} {status : Nat}

theorem Turn.unchanged (h : g.Turn status after) (refused : status ≠ 200) :
    after.table = g.table := by
  cases h with
  | same _ _ => rfl
  | began _ _ _ | renewed _ _ _ => exact absurd rfl refused

/-- The table is in order, and nobody waits at any of its searches. -/
structure InOrder (g : Gateway) : Prop where
  valid : g.table.Valid
  atRest : ∀ e ∈ g.table.entries, e.search.AtRest g.settings.schedule

/-- A search that the table has for the transaction. -/
def Table.Tracks (t : Table) (tx : TransactionId) (s : Poll.Session) : Prop :=
  ∃ e ∈ t.entries, e.search = s ∧ s.tx = tx

theorem Table.Valid.search_eq_ok_iff {t : Table} (h : t.Valid) {tx : TransactionId}
    {s : Poll.Session} : t.search tx = .ok s ↔ t.Tracks tx s := by
  rw [search, Tracks]
  cases found : t.find? tx with
  | none =>
      refine iff_of_false nofun ?_
      rintro ⟨e, here, rfl, owner⟩
      rw [h.find?_eq_some_iff.mpr ⟨here, owner⟩] at found
      cases found
  | some e =>
      rw [Except.ok.injEq]
      constructor
      · rintro rfl
        obtain ⟨here, owner⟩ := h.find?_eq_some_iff.mp found
        exact ⟨e, here, rfl, owner⟩
      · rintro ⟨e', here, rfl, owner⟩
        rw [h.find?_eq_some_iff.mpr ⟨here, owner⟩] at found
        rw [Option.some.inj found]

theorem InOrder.tracked (h : g.InOrder) {tx : TransactionId} {s : Poll.Session}
    (tracks : g.table.Tracks tx s) : s.AtRest g.settings.schedule := by
  obtain ⟨e, here, rfl, -⟩ := tracks
  exact h.atRest e here

theorem InOrder.update (h : g.InOrder) {tx : TransactionId} {f : Poll.Session → Poll.Session}
    (owner : ∀ s, s.tx = tx → (f s).tx = tx)
    (atRest : ∀ s, g.table.Tracks tx s → (f s).AtRest g.settings.schedule) :
    InOrder { g with table := g.table.update tx f } := by
  refine ⟨h.valid.update tx owner, fun e here => ?_⟩
  obtain ⟨old, before, rfl⟩ := List.mem_map.mp here
  split
  · next key => exact atRest _ ⟨old, before, rfl, (h.valid.owned old before).symm.trans key⟩
  · exact h.atRest old before

theorem InOrder.track (h : g.InOrder) {s : Poll.Session} {table : Table}
    (tracked : g.table.track s = .ok table) (atRest : s.AtRest g.settings.schedule) :
    InOrder { g with table } := by
  have same : g.table.on (.track s) = table := by rw [Table.on, tracked]
  refine ⟨same ▸ h.valid.on (.track s), fun e here => ?_⟩
  rw [Table.track] at tracked
  split at tracked
  · cases tracked
  · cases tracked
    rcases List.mem_append.mp (List.mem_filter.mp here).1 with old | new
    · exact h.atRest e (List.mem_filter.mp old).1
    · rw [List.mem_singleton.mp new]
      exact atRest

theorem InOrder.turn (h : g.InOrder) (turn : g.Turn status after) : after.InOrder := by
  cases turn with
  | same _ _ => exact ⟨h.valid, h.atRest⟩
  | began _ started tracked =>
      have begun := h.track tracked (Poll.Session.atRest_of_started started)
      exact ⟨begun.valid, begun.atRest⟩
  | renewed _ found asked =>
      have tracks := h.valid.search_eq_ok_iff.mp found
      obtain ⟨-, renewed⟩ := (h.tracked tracks).renewed_of_retry asked
      obtain ⟨-, -, -, owner⟩ := tracks
      have updated := h.update (fun _ _ => renewed.tx_eq.trans owner) fun _ _ => renewed.atRest
      exact ⟨updated.valid, updated.atRest⟩

theorem reached_of_build {settings : Settings} {maxSettled : Nat} {showsMetrics : Bool}
    (built : build settings maxSettled showsMetrics = .ok g) : g.Reached := by
  rw [build] at built
  obtain ⟨-, -, built⟩ := Except.bind_eq_ok.mp built
  obtain ⟨_, started, same⟩ := Except.bind_eq_ok.mp built
  cases same
  exact .started maxSettled showsMetrics started

end SealedTree.Gateway
