import SealedTree.Gateway.Document
import SealedTree.Gateway.Http
import SealedTree.Gateway.Metrics
import SealedTree.Network.Node
import SealedTree.Network.Relay
import SealedTree.Settings

/-!
The gateway takes answers from users, hands them to the relay, searches for the results, and tells
how a search stands.
-/

namespace SealedTree

structure Gateway where
  settings : Settings
  table : Gateway.Table := {}
  metrics : Gateway.Metrics := {}
  showsMetrics : Bool := false

namespace Gateway

def start (settings : Settings) : Except Error Gateway := do
  settings.schedule.validate.mapError fun e => .ofInput (.config e.reason)
  .ok { settings }

def build (settings : Settings) (maxSettled : Nat) (showsMetrics : Bool) :
    Except Error Gateway := do
  settings.validate.mapError fun e => .ofInput (.config e.reason)
  let g ← start settings
  .ok { g with table := g.table.setMaxSettled maxSettled, showsMetrics := showsMetrics }

def relay (g : Gateway) : Relay := .ofUrl g.settings.relayUrl g.settings.contract

def node (g : Gateway) : Node := .ofUrl g.settings.nodeUrl

/-- What comes of the requests that the gateway sends. -/
abbrev World := Http.Request → Http.Outcome

/-- Hands in a sample and begins to search for the result. The second part is the answer, the third
what was sent. -/
def submit (g : Gateway) (answers : List Int16) (world : World) :
    Gateway × Except Error Submitted × List Http.Request :=
  match g.settings.requester.answers answers with
  | .error e =>
      ({ g with metrics := g.metrics.recordSubmission .clientError },
        .error (.invalidRequest e.message), [])
  | .ok envelope =>
      let request := g.relay.request envelope g.settings.sampleFee
      match Poll.Task.submit g.settings.schedule (g.relay.transaction (world request)) with
      | .error e =>
          ({ g with metrics := g.metrics.recordSubmission .networkError },
            .error (.ofClient e), [request])
      | .ok task =>
          match g.table.track (.ofTask task) with
          | .error e => (g, .error e, [request])
          | .ok table =>
              ({ g with table := table, metrics := g.metrics.recordSubmission .ok },
                .ok ⟨task.tx, true⟩, [request])

def check (g : Gateway) (tx : TransactionId) : Gateway × Except Error Report :=
  match g.table.search tx with
  | .error e => (g, .error e)
  | .ok s => ({ g with metrics := g.metrics.recordCheck s.status }, .ok (.of tx s.status))

def retry (g : Gateway) (tx : TransactionId) : Gateway × Except Error Report :=
  match g.table.search tx with
  | .error e => (g, .error e)
  | .ok s =>
      match s.retry with
      | (_, .error e) => ({ g with metrics := g.metrics.recordRetry false }, .error (.ofClient e))
      | (s, .ok ()) =>
          ({ g with
              table := g.table.update tx fun _ => s
              metrics := g.metrics.recordRetry true },
            .ok (.of tx s.status))

/-- Begins to search for a transaction that was submitted elsewhere. -/
def watch (g : Gateway) (tx : TransactionId) : Gateway × Except Error Report :=
  if g.table.isPending tx then (g, .error (.alreadyPolled tx))
  else
    match Poll.Task.watch g.settings.schedule tx with
    | .error e => (g, .error (.ofClient e))
    | .ok task =>
        match g.table.track (.ofTask task) with
        | .error e => (g, .error e)
        | .ok table => ({ g with table := table }, .ok (.of tx .pending))

def health (g : Gateway) : Gateway × Health :=
  let stats := g.table.stats
  ({ g with metrics := g.metrics.setSearches stats.tracked stats.pending },
    ⟨"ok", g.settings.contract, stats⟩)

def renderMetrics (g : Gateway) : Except Error String :=
  if g.showsMetrics then .ok g.metrics.render else .error .metricsDisabled

structure Request where
  method : String
  /-- What is asked for: a path, or a whole URL. -/
  target : String
  contentType : Option String
  body : ByteArray

structure Response where
  status : Nat
  body : String
  deriving DecidableEq

/-- What is answered to whom asks in a way that is not understood. -/
inductive Rejection
  | notFound
  | wrongMethod
  | noText (parameter : String)
  | notJson
  | bodyTooLong
  | malformedBody
  | wrongBody (mismatch : Json.Mismatch) (way : List Json.Step)

def Rejection.response : Rejection → Response
  | .notFound => ⟨404, ""⟩
  | .wrongMethod => ⟨405, ""⟩
  | .noText parameter =>
      ⟨400, "Invalid URL: Invalid UTF-8 in " ++ Json.ticked parameter⟩
  | .notJson => ⟨415, "Expected request with " ++ Json.ticked "Content-Type: application/json"⟩
  | .bodyTooLong => ⟨413, "Failed to buffer the request body: length limit exceeded"⟩
  | .malformedBody => ⟨400, "Failed to parse the request body as JSON"⟩
  | .wrongBody m way =>
      let place := if way.isEmpty then "" else Json.wayText way ++ ": "
      ⟨422, "Failed to deserialize the JSON body into the target type: " ++ place ++ m.message⟩

def Error.response (e : Error) : Response := ⟨e.status, e.message⟩

def answer (toJson : α → Json) : Except Error α → Response
  | .ok a => ⟨200, (toJson a).compact⟩
  | .error e => e.response

def longestBody : Nat := 2097152

/-- The document in a body. What follows it does not matter. -/
def Request.read (r : Request) (d : Json.Decoder α) : Except Rejection α :=
  if r.contentType.any MediaType.isJson then
    if longestBody < r.body.size then .error .bodyTooLong
    else
      match Json.decodeFront d r.body with
      | .ok a => .ok a
      | .error (.malformed _) => .error .malformedBody
      | .error (.mismatch m way) => .error (.wrongBody m way)
  else .error .notJson

def serve (g : Gateway) (route : Route) (r : Request) (world : World) :
    Gateway × Response × List Http.Request :=
  let withText (part : String) (f : TransactionId → Gateway × Except Error Report) :=
    match Url.Percent.text? part with
    | none => (g, (Rejection.noText "tx").response, [])
    | some text =>
        let (g, report) := f ⟨text⟩
        (g, answer Report.json report, [])
  match route with
  | .health =>
      let (g, health) := g.health
      (g, answer Health.json (.ok health), [])
  | .submit =>
      match r.read Submission.decoder with
      | .error rejection => (g, rejection.response, [])
      | .ok submission =>
          let (g, submitted, sent) := g.submit submission.answers world
          (g, answer Submitted.json submitted, sent)
  | .metrics =>
      match g.renderMetrics with
      | .ok text => (g, ⟨200, text⟩, [])
      | .error e => (g, e.response, [])
  | .result tx => withText tx g.check
  | .retry tx => withText tx g.retry
  | .watch tx => withText tx g.watch

/-- Answers a request. Where something can be read, it can be asked for without the body too. -/
def handle (g : Gateway) (r : Request) (world : World) :
    Gateway × Response × List Http.Request :=
  match Route.ofTarget? r.target with
  | none => (g, Rejection.notFound.response, [])
  | some route =>
      if r.method = (if route.isRead then "GET" else "POST") then g.serve route r world
      else if route.isRead ∧ r.method = "HEAD" then
        let (g, response, sent) := g.serve route r world
        (g, { response with body := "" }, sent)
      else (g, Rejection.wrongMethod.response, [])

def answers (g : Gateway) (world : World) : Poll.Answers := fun _ =>
  some (g.node.snapshot g.settings.contract
    (world (g.node.variablesRequest g.settings.contract)))

def settle (g : Gateway) (tx : TransactionId) (world : World) : Gateway :=
  { g with table := g.table.update tx fun s => s.settle (g.answers world) 0 }

end Gateway

end SealedTree
