import SealedTree.Proofs.Gateway.Submission

/-!
What the counters of submissions account for. The answer to a submission says which counter was
raised for it: none for one that names a transaction that is searched for already, and just one for
every other.
-/

namespace SealedTree.Gateway

/-- The answers in a request that gets to where samples are handed in. -/
def Request.answers? (r : Request) : Option (List Int16) :=
  if r.method = "POST" ∧ Route.ofTarget? r.target = some .submit then
    (r.read Submission.decoder).toOption.map Submission.answers
  else none

/-- What happens to a gateway: it is asked, or its searches go on and its limit changes. -/
inductive Event
  | request (r : Request) (world : World)
  | change (c : Table.Change)

/-- The gateway after an event, and the status answered to a submission if it was one. -/
def on (g : Gateway) : Event → Gateway × List Nat
  | .request r world =>
      let (after, response, _) := g.handle r world
      (after, if r.answers?.isSome then [response.status] else [])
  | .change c => ({ g with table := g.table.on c }, [])

def run (g : Gateway) : List Event → Gateway × List Nat
  | [] => (g, [])
  | e :: rest =>
      let (g, first) := g.on e
      let (g, more) := g.run rest
      (g, first ++ more)

/-- Under which outcome a submission was counted, by what was answered to it. -/
def SubmissionOutcome.ofStatus? : (status : Nat) → Option SubmissionOutcome
  | 200 => some .ok
  | 400 => some .clientError
  | 502 | 503 => some .networkError
  | _ => none

/-- The second numbers are the first ones with one submission counted for each of the answers that
says so. -/
def Counted (before after : Metrics) (statuses : List Nat) : Prop :=
  ∀ o, after.submissions o =
    before.submissions o + (statuses.filterMap SubmissionOutcome.ofStatus?).count o

theorem Counted.append {first second third : Metrics} {statuses more : List Nat}
    (h : Counted first second statuses) (h' : Counted second third more) :
    Counted first third (statuses ++ more) := by
  intro o
  rw [h' o, h o, List.filterMap_append, List.count_append, Nat.add_assoc]

theorem counted_recordSubmission (m : Metrics) {o : SubmissionOutcome} {status : Nat}
    (h : SubmissionOutcome.ofStatus? status = some o) :
    Counted m (m.recordSubmission o) [status] := by
  intro p
  rw [List.filterMap_cons_some h, List.filterMap_nil, List.count_singleton]
  simp only [Metrics.recordSubmission, beq_iff_eq, eq_comm (a := o)]
  split
  · rfl
  · rfl

theorem Table.track_eq_error {t : Table} {s : Poll.Session} {e : Error}
    (h : t.track s = .error e) : e = .alreadyPolled s.tx := by
  rw [track] at h
  split at h
  · exact (Except.error.inj h).symm
  · cases h

/-- A submission is answered in one of five ways, and counted as its answer says. -/
theorem counted_submit (g : Gateway) (answers : List Int16) (world : World) :
    let status := (answer Submitted.json (g.submit answers world).2.1).status
    status ∈ [200, 400, 409, 502, 503] ∧
      Counted g.metrics (g.submit answers world).1.metrics [status] := by
  by_cases ten : answers.length = 10
  · obtain ⟨s, -, sealed⟩ := g.settings.requester.answers_of_length ten
    rw [Requester.sample_eq_ok] at sealed
    generalize Envelope.mk _ _ = e at sealed
    cases reply : g.relay.transaction (world (g.relay.request e g.settings.sampleFee)) with
    | error cause =>
        rw [submit_of_error g sealed reply]
        simp only [answer, Error.response, Error.status_ofClient_network]
        split
        · exact ⟨by decide, counted_recordSubmission g.metrics rfl⟩
        · exact ⟨by decide, counted_recordSubmission g.metrics rfl⟩
    | ok tx =>
        rw [submit_of_receipt g sealed reply]
        cases tracked : g.table.track (launched g.settings.schedule tx) with
        | error refusal =>
            obtain rfl := Table.track_eq_error tracked
            exact ⟨(by decide : 409 ∈ [200, 400, 409, 502, 503]), fun _ => rfl⟩
        | ok table =>
            exact ⟨(by decide : 200 ∈ [200, 400, 409, 502, 503]),
              counted_recordSubmission g.metrics rfl⟩
  · rw [submit_of_wrong_length g ten]
    exact ⟨(by decide : 400 ∈ [200, 400, 409, 502, 503]), counted_recordSubmission g.metrics rfl⟩

section Other

variable (g : Gateway) (tx : TransactionId)

theorem submissions_check : (g.check tx).1.metrics.submissions = g.metrics.submissions := by
  rw [check]
  cases g.table.search tx with
  | error e => rfl
  | ok s => rfl

theorem submissions_retry : (g.retry tx).1.metrics.submissions = g.metrics.submissions := by
  rw [retry]
  cases g.table.search tx with
  | error e => rfl
  | ok s =>
      dsimp only
      split
      · rfl
      · rfl

theorem submissions_watch : (g.watch tx).1.metrics.submissions = g.metrics.submissions := by
  rw [watch]
  split
  · rfl
  · split
    · rfl
    · split
      · rfl
      · rfl

end Other

theorem submissions_serve {route : Route} (other : route ≠ .submit) (g : Gateway) (r : Request)
    (world : World) : (g.serve route r world).1.metrics.submissions = g.metrics.submissions := by
  cases route with
  | health => rfl
  | submit => exact absurd rfl other
  | metrics =>
      rw [serve]
      cases g.renderMetrics with
      | ok text => rfl
      | error e => rfl
  | result part =>
      dsimp only [serve]
      cases Url.Percent.text? part with
      | none => rfl
      | some text => exact g.submissions_check ⟨text⟩
  | retry part =>
      dsimp only [serve]
      cases Url.Percent.text? part with
      | none => rfl
      | some text => exact g.submissions_retry ⟨text⟩
  | watch part =>
      dsimp only [serve]
      cases Url.Percent.text? part with
      | none => rfl
      | some text => exact g.submissions_watch ⟨text⟩

/-- A request that does not get to where samples are handed in counts for none. -/
theorem submissions_handle {r : Request} (other : r.answers? = none) (g : Gateway)
    (world : World) : (g.handle r world).1.metrics.submissions = g.metrics.submissions := by
  rw [handle]
  cases target : Route.ofTarget? r.target with
  | none => rfl
  | some route =>
      dsimp only
      by_cases submit : route = .submit
      · subst submit
        simp only [Route.isRead, Bool.false_eq_true, if_false, false_and]
        split
        · next post =>
            rw [Request.answers?, if_pos ⟨post, target⟩] at other
            rw [serve]
            cases body : r.read Submission.decoder with
            | error rejection => rfl
            | ok submission => simp [body, Except.toOption] at other
        · rfl
      · generalize (if route.isRead = true then "GET" else "POST") = method
        split
        · exact submissions_serve submit g r world
        · split
          · exact submissions_serve submit g r world
          · rfl

theorem handle_submission {r : Request} {answers : List Int16} (h : r.answers? = some answers)
    (g : Gateway) (world : World) :
    g.handle r world = ((g.submit answers world).1,
      answer Submitted.json (g.submit answers world).2.1, (g.submit answers world).2.2) := by
  rw [Request.answers?] at h
  split at h
  · next there =>
      obtain ⟨post, route⟩ := there
      cases body : r.read Submission.decoder with
      | error rejection => simp [body, Except.toOption] at h
      | ok submission =>
          obtain rfl : submission.answers = answers := by simpa [body, Except.toOption] using h
          simp only [handle, route, Route.isRead, post, Bool.false_eq_true, if_false, if_true,
            serve, body]
  · cases h

theorem counted_on (g : Gateway) (e : Event) :
    (∀ status ∈ (g.on e).2, status ∈ [200, 400, 409, 502, 503]) ∧
      Counted g.metrics (g.on e).1.metrics (g.on e).2 := by
  cases e with
  | change c => exact ⟨nofun, fun _ => rfl⟩
  | request r world =>
      rw [on]
      cases read : r.answers? with
      | none => exact ⟨nofun, congrFun (submissions_handle read g world)⟩
      | some answers =>
          obtain ⟨possible, counted⟩ := g.counted_submit answers world
          rw [handle_submission read g world]
          exact ⟨List.forall_mem_singleton.mpr possible, counted⟩

theorem counted_run (g : Gateway) (events : List Event) :
    (∀ status ∈ (g.run events).2, status ∈ [200, 400, 409, 502, 503]) ∧
      Counted g.metrics (g.run events).1.metrics (g.run events).2 := by
  induction events generalizing g with
  | nil => exact ⟨nofun, fun _ => rfl⟩
  | cons e rest ih =>
      obtain ⟨possible, counted⟩ := g.counted_on e
      obtain ⟨later, laterCounted⟩ := ih (g.on e).1
      exact ⟨List.forall_mem_append.mpr ⟨possible, later⟩, counted.append laterCounted⟩

/-- How often each outcome is counted, and how many answers there are, by the answers. -/
theorem count_outcomes {statuses : List Nat}
    (possible : ∀ status ∈ statuses, status ∈ [200, 400, 409, 502, 503]) :
    let outcomes := statuses.filterMap SubmissionOutcome.ofStatus?
    outcomes.count .ok = statuses.count 200 ∧
    outcomes.count .clientError = statuses.count 400 ∧
    outcomes.count .networkError = statuses.count 502 + statuses.count 503 ∧
    outcomes.length + statuses.count 409 = statuses.length := by
  induction statuses with
  | nil => exact ⟨rfl, rfl, rfl, rfl⟩
  | cons status rest ih =>
      rw [List.forall_mem_cons] at possible
      obtain ⟨ok, clientError, networkError, length⟩ := ih possible.2
      have first := possible.1
      simp only [List.mem_cons, List.not_mem_nil, or_false] at first
      rcases first with rfl | rfl | rfl | rfl | rfl <;>
        simp [SubmissionOutcome.ofStatus?, ok, clientError, networkError] <;> omega

theorem length_eq_counts (outcomes : List SubmissionOutcome) :
    outcomes.length =
      outcomes.count .ok + outcomes.count .clientError + outcomes.count .networkError := by
  induction outcomes with
  | nil => rfl
  | cons o rest ih => cases o <;> simp [ih] <;> omega

theorem Counted.total {before after : Metrics} {statuses : List Nat}
    (h : Counted before after statuses) :
    after.submissionTotal =
      before.submissionTotal + (statuses.filterMap SubmissionOutcome.ofStatus?).length := by
  rw [length_eq_counts, Metrics.submissionTotal, Metrics.submissionTotal, h .ok, h .clientError,
    h .networkError]
  omega

/-- Every submission that is handled raises one counter, that of accepted ones just if it is
answered with 200; only those answered with 409 raise none. -/
theorem submissions_accounted (g : Gateway) (events : List Event) :
    let after := (g.run events).1.metrics
    let statuses := (g.run events).2
    (∀ status ∈ statuses, status ∈ [200, 400, 409, 502, 503]) ∧
    after.submissions .ok = g.metrics.submissions .ok + statuses.count 200 ∧
    after.submissions .clientError = g.metrics.submissions .clientError + statuses.count 400 ∧
    after.submissions .networkError =
      g.metrics.submissions .networkError + (statuses.count 502 + statuses.count 503) ∧
    after.submissionTotal + statuses.count 409 = g.metrics.submissionTotal + statuses.length := by
  intro after statuses
  obtain ⟨possible, counted⟩ := g.counted_run events
  obtain ⟨ok, clientError, networkError, length⟩ := count_outcomes possible
  refine ⟨possible, ?_, ?_, ?_, ?_⟩
  · rw [counted, ok]
  · rw [counted, clientError]
  · rw [counted, networkError]
  · rw [counted.total, Nat.add_assoc, length]

/-- A submission for which the relay names a transaction that is watched already is handled, and no
counter knows of it. -/
theorem conflict_uncounted :
    let g : Gateway := { settings := {} }
    let world : World := fun _ => .answered 200 (.ofText "\x7b\"identifier\":\"t1\"\x7d")
    let watch : Request := ⟨"POST", "/watch/t1", none, .empty⟩
    let submit : Request := ⟨"POST", "/submit", some "application/json",
      "\x7b\"answers\":[1,1,1,1,1,1,1,1,1,1]\x7d".toUTF8⟩
    let after := g.run [.request watch world, .request submit world]
    submit.answers? = some (.replicate 10 1) ∧ after.2 = [409] ∧
      after.1.metrics.submissionTotal = 0 := by
  decide +kernel

end SealedTree.Gateway
