import SealedTree.Address

/-!
What the words of a command line ask for. Options have long names; a value follows its option as the
next word or after an equals sign.
-/

namespace SealedTree.CommandLine

inductive Takes
  | nothing
  | value
  /-- Several values, together or with the option repeated; a value may begin with a hyphen. -/
  | values
  deriving DecidableEq

structure Switch where
  name : String
  takes : Takes

abbrev Given := List (String × String)

/-- A word that begins with a hyphen and is more than that. -/
def isHyphened (word : String) : Bool :=
  match word.toList with
  | '-' :: _ :: _ => true
  | _ => false

def asOption? (word : String) : Option (String × Option String) :=
  match word.toList with
  | '-' :: '-' :: c :: rest =>
      let cs := c :: rest
      let name := String.ofList (cs.takeWhile (· ≠ '='))
      match cs.dropWhile (· ≠ '=') with
      | _ :: value => some (name, some (String.ofList value))
      | [] => some (name, none)
  | _ => none

/-- An option that does not go by a list of values can be given once. -/
def add (o : Switch) (given : Given) (value : String) : Option Given :=
  if o.takes ≠ .values ∧ (given.lookup o.name).isSome then none
  else some (given ++ [(o.name, value)])

/-- The options at the front of the words, and the words from the first on that is none. There is no
result for words that cannot be understood. -/
def scan (options : List Switch) : Given → List String → Option (Given × List String)
  | given, [] => some (given, [])
  | given, word :: rest =>
      match asOption? word with
      | none =>
          if word = "--" ∧ rest = [] then some (given, [])
          else if isHyphened word then none
          else some (given, word :: rest)
      | some (name, attached) =>
          match options.find? (·.name == name) with
          | none => none
          | some o =>
              match o.takes, attached, rest with
              | .nothing, some _, _ => none
              | .nothing, none, rest => (add o given "").bind fun given => scan options given rest
              | _, some value, rest =>
                  (add o given value).bind fun given => scan options given rest
              | _, none, [] => none
              | takes, none, value :: rest =>
                  if takes ≠ .values ∧ isHyphened value then none
                  else (add o given value).bind fun given => scan options given rest

def integer? (text : String) : Option Int :=
  let magnitude (cs : List Char) : Option Int :=
    if cs.isEmpty then none
    else cs.foldl
      (fun n c => n.bind fun n => if c.isDigit then some (10 * n + (c.toNat - 48 : Nat)) else none)
      (some 0)
  match text.toList with
  | '-' :: cs => (magnitude cs).map (- ·)
  | '+' :: cs => magnitude cs
  | cs => magnitude cs

def within? (low high : Int) (text : String) : Option Int :=
  (integer? text).filter fun i => low ≤ i && i ≤ high

def answers? (text : String) : Option (List Int16) :=
  (text.splitOn ",").mapM fun part => (within? (-32768) 32767 part).map Int16.ofInt

/-- The name of a file cannot be empty. -/
def fileName? (text : String) : Option String := if text.isEmpty then none else some text

def address? (text : String) : Option Address := (Address.parse text).toOption

def optional (given : Given) (name : String) (f : String → Option α) : Option (Option α) :=
  match given.lookup name with
  | none => some none
  | some text => (f text).map some

def allAnswers (given : Given) : Option (List Int16) :=
  (given.mapM fun (name, text) =>
    if name = "answers" then answers? text else some []).map List.flatten

inductive Command
  | writeSettings (out : String)
  | uploadModel (model : Option String)
  | submit (answers : List Int16) (watch : Bool)
  | check (tx : String)
  | watch (tx : String)
  | state
  | evaluate (answers : List Int16) (model : Option String)
  deriving DecidableEq

structure Invocation where
  config : Option String
  nodeUrl : Option String
  relayUrl : Option String
  contract : Option Address
  receiver : Option Address
  command : Command
  deriving DecidableEq

def onlyOptions (options : List Switch) (words : List String) : Option Given :=
  match scan options [] words with
  | some (given, []) => some given
  | _ => none

def Command.ofWords? : List String → Option Command
  | "init-config" :: words => do
      let given ← onlyOptions [⟨"out", .value⟩] words
      let out ← optional given "out" fileName?
      some (.writeSettings (out.getD "client.json"))
  | "upload-model" :: words => do
      let given ← onlyOptions [⟨"model", .value⟩] words
      some (.uploadModel (← optional given "model" fileName?))
  | "submit" :: words => do
      let given ← onlyOptions [⟨"answers", .values⟩, ⟨"watch", .nothing⟩] words
      some (.submit (← allAnswers given) (given.lookup "watch").isSome)
  | "check" :: words => do
      let given ← onlyOptions [⟨"tx", .value⟩] words
      some (.check (← given.lookup "tx"))
  | "watch" :: words => do
      let given ← onlyOptions [⟨"tx", .value⟩] words
      some (.watch (← given.lookup "tx"))
  | "state" :: words => do
      let _ ← onlyOptions [] words
      some .state
  | "evaluate" :: words => do
      let given ← onlyOptions [⟨"answers", .values⟩, ⟨"model", .value⟩] words
      let answers ← allAnswers given
      some (.evaluate answers (← optional given "model" fileName?))
  | _ => none

/-- The options of the client stand before the command. -/
def Invocation.ofWords? (words : List String) : Option Invocation := do
  let (given, words) ← scan
    [⟨"config", .value⟩, ⟨"node-url", .value⟩, ⟨"relay-url", .value⟩, ⟨"contract", .value⟩,
     ⟨"receiver", .value⟩] [] words
  let config ← optional given "config" fileName?
  let nodeUrl ← optional given "node-url" some
  let relayUrl ← optional given "relay-url" some
  let contract ← optional given "contract" address?
  let receiver ← optional given "receiver" address?
  let command ← Command.ofWords? words
  some { config, nodeUrl, relayUrl, contract, receiver, command }

structure ServerInvocation where
  config : String
  port : UInt16
  maxSettled : Nat
  showsMetrics : Bool
  deriving DecidableEq

/-- A count is written without a minus sign. -/
def count? (text : String) : Option Nat :=
  if text.toList.head? = some '-' then none
  else (within? 0 18446744073709551615 text).map Int.toNat

def ServerInvocation.ofWords? (words : List String) : Option ServerInvocation := do
  let given ← onlyOptions
    [⟨"config", .value⟩, ⟨"port", .value⟩, ⟨"max-settled", .value⟩, ⟨"no-metrics", .nothing⟩] words
  let config ← fileName? (← given.lookup "config")
  let port ← optional given "port" (within? 0 65535)
  let maxSettled ← optional given "max-settled" count?
  some
    { config
      port := UInt16.ofNat ((port.map Int.toNat).getD 3000)
      maxSettled := maxSettled.getD 1024
      showsMetrics := (given.lookup "no-metrics").isNone }

end SealedTree.CommandLine
