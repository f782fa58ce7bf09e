import SealedTree.Proofs.Gateway.Paths
import SealedTree.Proofs.Gateway.Reach

/-!
What is answered to those who ask for a transaction. The table, the published status and the machine
of a search always agree when requests do not overlap, so each answer can be told from the status
alone, and no request finds a search that does not take its command.
-/

namespace SealedTree.Gateway

namespace Table

variable {t : Table} {tx : TransactionId}

end Table

variable {g : Gateway}

section Status

variable {α : Type} (toJson : α → Json)

@[simp] theorem status_answer_ok (a : α) : (answer toJson (.ok a)).status = 200 := rfl

@[simp] theorem status_answer_error (e : Error) :
    (answer toJson (.error e)).status = e.status := rfl

@[simp] theorem Error.status_unknownTransaction (tx : TransactionId) :
    (Error.unknownTransaction tx).status = 404 := rfl

@[simp] theorem Error.status_alreadyPolled (tx : TransactionId) :
    (Error.alreadyPolled tx).status = 409 := rfl

@[simp] theorem Error.status_invalidTransition (event phase : String) :
    (Error.ofClient (.invalidTransition event phase)).status = 409 := rfl

end Status

section Retry

variable {tx : TransactionId} {s : Poll.Session}

theorem retry_of_final (h : g.InOrder) (tracks : g.table.Tracks tx s)
    (final : s.status.isRetryable = false) :
    g.retry tx =
      ({ g with metrics := g.metrics.recordRetry false },
        .error (.ofClient (.invalidTransition "retry" s.status.name))) := by
  have refused := (h.tracked tracks).retry_of_final final
  rw [retry, h.valid.search_eq_ok_iff.mpr tracks]
  dsimp only
  cases asked : s.retry with
  | mk s' reply =>
      rw [asked] at refused
      dsimp only at refused
      rw [refused]

theorem retry_of_retryable (h : g.InOrder) (tracks : g.table.Tracks tx s)
    (retryable : s.status.isRetryable = true) :
    ∃ s', s.Renewed g.settings.schedule s' ∧
      g.retry tx =
        ({ g with
            table := g.table.update tx fun _ => s'
            metrics := g.metrics.recordRetry true },
          .ok (.of tx .pending)) := by
  obtain ⟨s', accepted, renewed⟩ := (h.tracked tracks).retry_of_retryable retryable
  refine ⟨s', renewed, ?_⟩
  rw [retry, h.valid.search_eq_ok_iff.mpr tracks]
  dsimp only
  rw [accepted]
  dsimp only
  rw [renewed.status]

end Retry

end SealedTree.Gateway
