import SealedTree.Gateway.Error
import SealedTree.Poll.Status

/-!
What the gateway counts. Only how things went is counted, never what was in them.
-/

namespace SealedTree.Gateway

inductive SubmissionOutcome
  | ok
  | clientError
  | networkError
  deriving DecidableEq

def SubmissionOutcome.label : SubmissionOutcome → String
  | .ok => "ok"
  | .clientError => "client_error"
  | .networkError => "upstream_error"

/-- The counters. One that has never been raised is not shown. -/
structure Metrics where
  submissions : SubmissionOutcome → Nat := fun _ => 0
  resultChecks : (statusName : String) → Nat := fun _ => 0
  retriesDone : Nat := 0
  retriesRefused : Nat := 0
  /-- The searches, and those of them under way, when somebody last asked. -/
  searches : Option (Nat × Nat) := none

namespace Metrics

def recordSubmission (m : Metrics) (o : SubmissionOutcome) : Metrics :=
  { m with submissions := fun p => if p = o then m.submissions p + 1 else m.submissions p }

def recordCheck (m : Metrics) (s : Poll.Status) : Metrics :=
  { m with resultChecks := fun name =>
      if name = s.name then m.resultChecks name + 1 else m.resultChecks name }

def recordRetry (m : Metrics) (done : Bool) : Metrics :=
  if done then { m with retriesDone := m.retriesDone + 1 }
  else { m with retriesRefused := m.retriesRefused + 1 }

def setSearches (m : Metrics) (tracked pending : Nat) : Metrics :=
  { m with searches := some (tracked, pending) }

def submissionTotal (m : Metrics) : Nat :=
  m.submissions .ok + m.submissions .clientError + m.submissions .networkError

/-- The lines of one measure: its kind, and a value for each label. -/
def family (name kind ending label : String) (values : List (String × Nat)) : List String :=
  match values.filter (·.2 != 0) with
  | [] => []
  | values =>
      ("# TYPE " ++ name ++ " " ++ kind) :: values.map fun (value, n) =>
        name ++ ending ++ "\x7b" ++ label ++ "=\"" ++ value ++ "\"\x7d " ++ toString n

def gauge (name : String) (value : Nat) : List String :=
  ["# TYPE " ++ name ++ " gauge", name ++ " " ++ toString value]

def lines (m : Metrics) : List String :=
  let submissions := [SubmissionOutcome.ok, .clientError, .networkError].map fun o =>
    (o.label, m.submissions o)
  let checks := ["pending", "resolved", "exhausted", "fatal"].map fun name =>
    (name, m.resultChecks name)
  let retries := [("ok", m.retriesDone), ("client_error", m.retriesRefused)]
  let searches := m.searches.elim [] fun (tracked, pending) =>
    gauge "classify_pollers_tracked" tracked ++ gauge "classify_pollers_pending" pending
  family "classify_submissions_total" "counter" "" "outcome" submissions ++
    family "classify_result_checks_total" "counter" "" "status" checks ++
    family "classify_manual_retries_total" "counter" "" "outcome" retries ++
    searches ++
    family "classify_submission_duration_seconds" "summary" "_count" "outcome" submissions

def render (m : Metrics) : String := String.join (m.lines.map (· ++ "\n"))

end Metrics

/-- Puts the recorder of the numbers in place, unless one is `present`. -/
def installRecorder (present : Bool) : Except Error Unit :=
  if present then
    .error (.internal ("Failed to install Prometheus recorder: failed to install exporter as " ++
      "global recorder: attempted to set a recorder after the metrics system was already " ++
      "initialized"))
  else .ok ()

end SealedTree.Gateway
