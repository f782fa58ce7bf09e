import SealedTree.Proofs.CircuitWalk
import SealedTree.Proofs.Poll.Origin
import SealedTree.Proofs.RequestTransport

/-!
From the request to the label. The network reads the model and the sample out of their secrets,
evaluates the circuit and publishes what comes out behind 32 bytes of its own. Whatever else stands
in the snapshot, that is what a machine is told, and the label it resolves with is the class of the
leaf that the walk reaches.
-/

namespace SealedTree

namespace OneHot

theorem ofBools_entries (bits : Vector Bool 8) :
    ofBools ((ofBools bits).entries.map (· == 1)) = ofBools bits := by
  congr 1
  ext i hi
  cases set : bits[i] <;> simp [ofBools, set]

theorem reads_result {lead : List UInt8} (size : lead.length = 32) (entries : Vector UInt8 8) :
    Reader.Reads reader (lead ++ entries.toList) (ofBools (entries.map (· == 1))) := by
  have bits : (Vector.ofFn fun i : Fin 8 => entries.toList[i.val]? == some 1) =
      entries.map (· == 1) := by
    ext i
    simp
  have result := (Reader.Reads.take "result" entries.length_toList).map
    fun bytes => ofBools (Vector.ofFn fun i => bytes[i.val]? == some 1)
  rw [bits] at result
  exact (Reader.Reads.take "result_prefix" size).bind result

theorem ofPayload_published {lead : List UInt8} (size : lead.length = 32) (bits : Vector Bool 8)
    (trail : List UInt8) :
    ofPayload (lead ++ (ofBools bits).entries.toList ++ trail) = .ok (ofBools bits) := by
  have read := (reads_result size (ofBools bits).entries).front trail
  rwa [ofBools_entries] at read

end OneHot

/-- The snapshot holds `result` for the transaction, and nothing for it before that. -/
def Snapshot.Publishes (vs : Snapshot) (tx : TransactionId) (result : OneHot) : Prop :=
  ∃ (before : Snapshot) (v : Variable) (rest : Snapshot) (lead trail : List UInt8),
    vs = before ++ v :: rest ∧
      (∀ u ∈ before, u.transaction = some tx → u.hasPayload = false) ∧
      v.transaction = some tx ∧ lead.length = 32 ∧
      v.payload = some (lead ++ result.entries.toList ++ trail)

namespace Poll

/-- A published result is what a snapshot is read as, unless it is not one-hot. -/
theorem Outcome.ofSnapshot_of_publishes {vs : Snapshot} {tx : TransactionId}
    {bits : Vector Bool 8} (h : vs.Publishes tx (.ofBools bits)) :
    ofSnapshot vs tx =
      if (OneHot.ofBools bits).isOneHot then .ready (.ofBools bits) else .pending .notOneHot := by
  obtain ⟨before, v, rest, lead, trail, rfl, earlier, owner, size, held⟩ := h
  have filled : lead ++ (OneHot.ofBools bits).entries.toList ++ trail ≠ [] := by
    intro empty
    have := congrArg List.length empty
    simp [size] at this
  have chosen := Snapshot.select?_of_exact rest
    (fun u hu owned => earlier u hu (Variable.isFor_iff.mp owned))
    (Variable.isFor_iff.mpr owner) (Variable.filled_iff.mpr ⟨_, held, filled⟩)
  have reading := Variable.reading_of_decoded owner held filled
    (OneHot.ofPayload_published size bits trail)
  rw [ofSnapshot, chosen]
  dsimp only
  rw [reading]
  split <;> rfl

/-- What is published for a model and a sample resolves a machine if and only if the leaf that the
walk reaches stands for exactly one class, and the label is that class. -/
theorem published_result (r r' : Requester) (m : Model) (s : Sample)
    (few : r.scaling.length < 2 ^ 31) :
    ∃ uploaded sampled m' s', r.upload m = .ok uploaded ∧ r'.sample s = .ok sampled ∧
      reveal Model uploaded.secret = .ok m' ∧ reveal Sample sampled.secret = .ok s' ∧
      ∀ tx : TransactionId,
        (∀ c, OneHot.OnlyAt (m.reachedLeaf s).classes c →
          ∀ vs : Snapshot, vs.Publishes tx (m'.evaluate s') →
            Outcome.ofSnapshot vs tx = .ready (m.evaluate s) ∧
            ∀ (machine : Machine) (jitter : Duration),
              machine.phase = .awaitingFirstPoll ∨ machine.phase = .polling →
              ∃ p : Personality, p.index = c ∧
                (machine.record (.ofSnapshot vs tx) jitter).1.phase = .resolved (.label p)) ∧
        ((∀ c, ¬OneHot.OnlyAt (m.reachedLeaf s).classes c) →
          (∀ vs : Snapshot, vs.Publishes tx (m'.evaluate s') →
            Outcome.ofSnapshot vs tx = .pending .notOneHot) ∧
          ∀ (machine : Machine) (events : List Event), (∀ c, machine.phase ≠ .resolved c) →
            (∀ o jitter, .record o jitter ∈ events →
              ∃ vs : Snapshot, vs.Publishes tx (m'.evaluate s') ∧ o = .ofSnapshot vs tx) →
            ∀ c, (machine.after events).phase ≠ .resolved c) := by
  refine ⟨_, _, m, s, r.upload_eq_ok m few, r'.sample_eq_ok s, reveal_conceal m,
    reveal_conceal s, fun tx => ⟨?_, ?_⟩⟩
  · intro c only vs published
    rw [Model.evaluate_eq] at published ⊢
    have oneHot : (OneHot.ofBools (m.reachedLeaf s).classes).isOneHot = true :=
      (OneHot.isOneHot_ofBools_iff _).mpr ⟨c, only⟩
    have ready := Outcome.ofSnapshot_of_publishes published
    rw [if_pos oneHot] at ready
    refine ⟨ready, fun machine jitter expecting => ?_⟩
    have polling : machine.phase.isPolling = true := by
      rcases expecting with phase | phase <;> rw [phase] <;> rfl
    obtain ⟨p, place, label⟩ := OneHot.interpret_ofBools only
    refine ⟨p, place, ?_⟩
    have resolves := Machine.record_of_stop polling
      (o := .ready (.ofBools (m.reachedLeaf s).classes)) (.inl oneHot) jitter
    rw [ready, resolves]
    simp only [Outcome.verdict, oneHot, if_true, label]
  · -- A resolution comes from a result that was recorded, and these snapshots give none.
    intro several
    have notOneHot : ¬(OneHot.ofBools (m.reachedLeaf s).classes).isOneHot = true := by
      rw [OneHot.isOneHot_ofBools_iff, not_exists]
      exact several
    have pending (vs : Snapshot) (published : vs.Publishes tx (m.evaluate s)) :
        Outcome.ofSnapshot vs tx = .pending .notOneHot := by
      rw [Model.evaluate_eq] at published
      rw [Outcome.ofSnapshot_of_publishes published, if_neg notOneHot]
    refine ⟨pending, ?_⟩
    intro machine events unresolved reads c resolved
    rcases Machine.resolved_after events resolved with before | ⟨result, jitter, told, -⟩
    · exact unresolved c before
    · obtain ⟨vs, published, read⟩ := reads _ _ told
      rw [pending vs published] at read
      cases read

/-- Zeros lead to a leaf of one class, which is what the label says; a leaf of two classes leaves
the machine waiting. -/
theorem published_result_reference :
    let r : Requester := ⟨⟨1⟩, .zero, [1000, 1000]⟩
    let s : Sample := ⟨.replicate 10 0⟩
    let tied : Model := ⟨Model.reference.vertices,
      .replicate 8 ⟨#v[true, true, false, false, false, false, false, false]⟩⟩
    let theirs : Variable := ⟨9, some ⟨"theirs"⟩, some [1]⟩
    let published (entries : List UInt8) : Variable :=
      ⟨4, some ⟨"7f"⟩, some (List.replicate 32 9 ++ entries ++ [5])⟩
    let m : Machine := ⟨{}, .polling, some ⟨"7f"⟩, 3, 0⟩
    r.scaling.length < 2 ^ 31 ∧
      OneHot.OnlyAt (Model.reference.reachedLeaf s).classes 1 ∧
      (m.record (.ofSnapshot [theirs, published [0, 1, 0, 0, 0, 0, 0, 0]] ⟨"7f"⟩) 0).1.phase =
        .resolved (.label .nftEnthusiast) ∧
      (∀ c, ¬OneHot.OnlyAt (tied.reachedLeaf s).classes c) ∧
      Outcome.ofSnapshot [theirs, published [1, 1, 0, 0, 0, 0, 0, 0]] ⟨"7f"⟩ =
        .pending .notOneHot ∧
      ∀ c, (m.after [.record (.ofSnapshot [theirs, published [1, 1, 0, 0, 0, 0, 0, 0]] ⟨"7f"⟩)
        0]).phase ≠ .resolved c := by
  intro r s tied theirs published m
  have few : r.scaling.length < 2 ^ 31 := by decide
  have only : OneHot.OnlyAt (Model.reference.reachedLeaf s).classes 1 := by
    unfold OneHot.OnlyAt
    decide +kernel
  have several (c : Fin 8) : ¬OneHot.OnlyAt (tied.reachedLeaf s).classes c := by
    intro only
    have first : 0 = c := (only 0).mp (by decide +kernel)
    have second : 1 = c := (only 1).mp (by decide +kernel)
    exact absurd (first.trans second.symm) (by decide)
  have publishes (entries : Vector UInt8 8) :
      Snapshot.Publishes [theirs, published entries.toList] ⟨"7f"⟩ ⟨entries⟩ := by
    refine ⟨[theirs], published entries.toList, [], .replicate 32 9, [5], rfl, ?_, rfl, rfl, rfl⟩
    intro u hu owned
    rw [List.mem_singleton.mp hu] at owned
    exact absurd owned (by decide)
  refine ⟨few, only, ?_, several, ?_⟩
  · obtain ⟨_, _, m', s', up, sampled, hm, hs, main⟩ := published_result r r .reference s few
    rw [r.upload_eq_ok .reference few] at up
    cases up
    cases sampled
    rw [reveal_conceal] at hm hs
    cases hm
    cases hs
    have evaluated : Model.reference.evaluate s = ⟨#v[0, 1, 0, 0, 0, 0, 0, 0]⟩ := by decide +kernel
    have held := publishes #v[0, 1, 0, 0, 0, 0, 0, 0]
    rw [← evaluated] at held
    obtain ⟨-, resolves⟩ := (main ⟨"7f"⟩).1 1 only _ held
    obtain ⟨p, place, resolved⟩ := resolves m 0 (.inr rfl)
    obtain rfl : p = .nftEnthusiast := by
      cases p <;> first | rfl | cases place
    exact resolved
  · obtain ⟨_, _, m', s', up, sampled, hm, hs, main⟩ := published_result r r tied s few
    rw [r.upload_eq_ok tied few] at up
    cases up
    cases sampled
    rw [reveal_conceal] at hm hs
    cases hm
    cases hs
    have evaluated : tied.evaluate s = ⟨#v[1, 1, 0, 0, 0, 0, 0, 0]⟩ := by decide +kernel
    have held := publishes #v[1, 1, 0, 0, 0, 0, 0, 0]
    rw [← evaluated] at held
    obtain ⟨pending, unresolved⟩ := (main ⟨"7f"⟩).2 several
    refine ⟨pending _ held, unresolved m _ nofun fun o jitter told => ?_⟩
    cases List.mem_singleton.mp told
    exact ⟨_, held, rfl⟩

end Poll

end SealedTree
