import SealedTree.Proofs.Gateway.Keeping
import SealedTree.Proofs.Reaction
import SealedTree.Proofs.RequestTransport

/-!
Handing in a sample through the gateway. What the relay does with the order decides what is
answered, and only a receipt for a transaction that is not searched for yet changes the table: it
gains the one search, and loses what the limit takes.
-/

namespace SealedTree

theorem Requester.answers_of_length (r : Requester) {answers : List Int16}
    (ten : answers.length = 10) :
    ∃ s : Sample, s.answers.toList = answers ∧ r.answers answers = r.sample s := by
  let s : Sample := ⟨⟨answers.toArray, by simpa using ten⟩⟩
  exact ⟨s, rfl, r.answers_toList s⟩

theorem Requester.answers_of_wrong_length (r : Requester) {answers : List Int16}
    (wrong : answers.length ≠ 10) :
    r.answers answers = .error (.lengthMismatch "sample" 10 answers.length) := by
  rw [Requester.answers, Sample.ofList, sized, dif_neg wrong]
  rfl

namespace Gateway

theorem Error.status_ofClient_network (e : NetworkError) :
    (Error.ofClient (.network e)).status = if e.isTransient then 503 else 502 := by
  cases e <;> rfl

/-- The search that begins when the relay has named the transaction. -/
def launched (schedule : Schedule) (tx : TransactionId) : Poll.Session :=
  .ofTask ⟨tx, ⟨schedule, .awaitingFirstPoll, some tx, 0, schedule.floor⟩,
    .launching schedule.initialDelay⟩

section Submit

variable (g : Gateway) {answers : List Int16} {world : World} {e : Envelope}

theorem submit_of_wrong_length (wrong : answers.length ≠ 10) :
    g.submit answers world =
      ({ g with metrics := g.metrics.recordSubmission .clientError },
        .error (.invalidRequest (ShapeError.lengthMismatch "sample" 10 answers.length).message),
        []) := by
  rw [submit, Requester.answers_of_wrong_length _ wrong]

theorem submit_of_error (sealed : g.settings.requester.answers answers = .ok e)
    {cause : NetworkError}
    (h : g.relay.transaction (world (g.relay.request e g.settings.sampleFee)) = .error cause) :
    g.submit answers world =
      ({ g with metrics := g.metrics.recordSubmission .networkError },
        .error (.ofClient (.network cause)), [g.relay.request e g.settings.sampleFee]) := by
  rw [submit, sealed]
  dsimp only
  rw [h]
  rfl

theorem submit_of_receipt (sealed : g.settings.requester.answers answers = .ok e)
    {tx : TransactionId}
    (h : g.relay.transaction (world (g.relay.request e g.settings.sampleFee)) = .ok tx) :
    g.submit answers world =
      match g.table.track (launched g.settings.schedule tx) with
      | .error refusal => (g, .error refusal, [g.relay.request e g.settings.sampleFee])
      | .ok table =>
          ({ g with table, metrics := g.metrics.recordSubmission .ok }, .ok ⟨tx, true⟩,
            [g.relay.request e g.settings.sampleFee]) := by
  rw [submit, sealed]
  dsimp only
  rw [h]
  rfl

end Submit

section Settles

variable {g : Gateway} {o : Http.Outcome}

end Settles

end Gateway

end SealedTree
