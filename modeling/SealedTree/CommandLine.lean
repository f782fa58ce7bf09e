import SealedTree.CommandLine.Arguments
import SealedTree.Disk
import SealedTree.Gateway
import SealedTree.Model.Evaluation

/-!
The client and the gateway as programs. A program asks the system it runs on for files, answers from
the network, sleep and chance; on a system whose steps are pure the whole program is.
-/

namespace SealedTree.CommandLine

/-- What a program needs. What fails does so with the words of the operating system. -/
structure System (m : Type → Type) where
  readFile : (path : String) → m (Except String ByteArray)
  writeFile : (path : String) → (text : String) → m (Except String Unit)
  send : Http.Request → m Http.Outcome
  sleep : Duration → m Unit
  jitter : Duration → m Duration
  serve : Gateway → (port : UInt16) → m String
  print : String → m Unit

/-- Why a program ends before it is done: the words it ends with. -/
abbrev Run (m : Type → Type) := ExceptT String m

variable {m : Type → Type} [Monad m]

def lift (step : m α) : Run m α := ExceptT.lift step

def orFail (message : ε → String) : Except ε α → Run m α
  | .ok a => pure a
  | .error e => throw (message e)

def System.load (s : System m) (path : String) (f : ByteArray → Except InputError α) : Run m α := do
  let content ← lift (s.readFile path)
  orFail InputError.message (content.mapError InputError.io >>= f)

def System.say (s : System m) (text : String) : Run m Unit := lift (s.print (text ++ "\n"))

/-- The settings of the file, as far as the options leave them; all of them have to fit together. -/
def System.settings (s : System m) (i : Invocation) : Run m Settings := do
  let base ← match i.config with
    | some path => s.load path Settings.ofFile
    | none => pure {}
  let settings := { base with
    nodeUrl := i.nodeUrl.getD base.nodeUrl
    relayUrl := i.relayUrl.getD base.relayUrl
    contract := i.contract.getD base.contract
    receiver := i.receiver.getD base.receiver }
  orFail ConfigError.message settings.validate
  pure settings

def System.model (s : System m) : Option String → Run m Model
  | some path => s.load path Model.ofFile
  | none => pure .reference

def System.query (s : System m) (c : Settings) : m (Except NetworkError Snapshot) := do
  let node := Node.ofUrl c.nodeUrl
  let outcome ← s.send (node.variablesRequest c.contract)
  pure (node.snapshot c.contract outcome)

def System.follow (s : System m) (c : Settings) : (fuel : Nat) → Poll.Session → m Poll.Session
  | 0, session => pure session
  | fuel + 1, session =>
      match session.desk.task.stage with
      | .launching _ => s.follow c fuel (session.move (.task .go))
      | .sleeping => do
          s.sleep (session.sleeps.getLast?.getD 0)
          s.follow c fuel (session.move (.task .woke))
      | .querying => do
          let answer ← s.query c
          let jitter ← s.jitter c.schedule.maxJitter
          s.follow c fuel (session.move (.task (.answered answer jitter)))
      | .idle | .ended => pure session

def System.wait (s : System m) (c : Settings) (task : Poll.Task) : Run m Unit := do
  let session ← lift (s.follow c (2 * c.schedule.maxRetries.toNat + 4) (.ofTask task))
  s.say session.status.json.pretty

def shownEntries (r : OneHot) : String :=
  "[" ++ ", ".intercalate (r.entries.toList.map fun b => toString b.toNat) ++ "]"

def System.execute (s : System m) (c : Settings) : Command → Run m Unit
  | .writeSettings out => do
      orFail (fun e => (InputError.io e).message) (← lift (s.writeFile out c.toText))
      s.say ("[OK] Wrote " ++ out)
  | .uploadModel path => do
      let model ← s.model path
      let envelope ← orFail ShapeError.message (c.requester.upload model)
      let relay := Relay.ofUrl c.relayUrl c.contract
      let outcome ← lift <| s.send (relay.request envelope c.modelFee)
      let tx ← orFail NetworkError.message (relay.transaction outcome)
      s.say ("[OK] Model upload submitted: " ++ tx.text)
  | .submit answers watch => do
      let envelope ← orFail ShapeError.message (c.requester.answers answers)
      let relay := Relay.ofUrl c.relayUrl c.contract
      let outcome ← lift <| s.send (relay.request envelope c.sampleFee)
      let task ← orFail ClientError.message
        (Poll.Task.submit c.schedule (relay.transaction outcome))
      s.say ("[OK] Sample submitted: " ++ task.tx.text)
      if watch then s.wait c task
  | .check tx => do
      let answer ← lift (s.query c)
      match Poll.Outcome.ofAnswer answer ⟨tx⟩ with
      | .ready result => s.say ("[OK] " ++ result.interpret.name)
      | .pending reason => s.say ("Pending: " ++ reason.message)
      | .malformed e => throw ("Undecodable result: " ++ e.message)
      | .readError e => throw ("State query failed: " ++ e.message)
  | .watch tx => do
      let task ← orFail ClientError.message (Poll.Task.watch c.schedule ⟨tx⟩)
      s.wait c task
  | .state => do
      let node := Node.ofUrl c.nodeUrl
      let outcome ← lift <| s.send (node.stateRequest c.contract)
      let state ← orFail ClientError.message (node.state c.contract outcome)
      s.say ("[OK] Model owner: " ++ state.owner.hex)
  | .evaluate answers path => do
      let model ← s.model path
      let sample ← orFail ShapeError.message (Sample.ofList answers)
      let result := model.evaluate sample
      s.say (shownEntries result ++ " -> " ++ result.interpret.name)

def System.run (s : System m) (i : Invocation) : Run m Unit := do
  let settings ← s.settings i
  s.execute settings i.command

def System.runServer (s : System m) (i : ServerInvocation) : Run m Unit := do
  let settings ← s.load i.config Settings.ofFile
  let gateway ← orFail Gateway.Error.message
    (Gateway.build settings i.maxSettled i.showsMetrics)
  let failure ← lift (s.serve gateway i.port)
  throw (Gateway.Error.io failure).message

/-- How a program has ended: with a status, and words about what went wrong if that was said. -/
structure Ending where
  code : UInt8
  message : Option String
  deriving DecidableEq

def ending (r : m (Except String Unit)) : m Ending := do
  match ← r with
  | .ok () => pure ⟨0, none⟩
  | .error message => pure ⟨1, some ("Error: " ++ message)⟩

def System.client (s : System m) (words : List String) : m Ending :=
  match Invocation.ofWords? words with
  | some i => ending (s.run i).run
  | none => pure ⟨2, none⟩

def System.server (s : System m) (words : List String) : m Ending :=
  match ServerInvocation.ofWords? words with
  | some i => ending (s.runServer i).run
  | none => pure ⟨2, none⟩

end SealedTree.CommandLine
