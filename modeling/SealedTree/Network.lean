import SealedTree.Json.Decoder
import SealedTree.Url

/-!
Talking to the relay and the nodes of the network, over HTTP. A request is a value, and so is what
comes of it; nothing here sends anything.
-/

namespace SealedTree

inductive NetworkError
  /-- The next attempt may go better. -/
  | transient (message : String)
  | rejected (status : Nat) (message : String)
  | invalidResponse (message : String)
  deriving DecidableEq

namespace NetworkError

def isTransient : NetworkError → Bool
  | .transient _ => true
  | _ => false

def ofStatus (status : Nat) (message : String) : NetworkError :=
  if 500 ≤ status ∨ status = 429 then
    .transient ("status " ++ toString status ++ ": " ++ message)
  else .rejected status message

def message : NetworkError → String
  | .transient message => "Transient network error: " ++ message
  | .rejected status message => "Request rejected (" ++ toString status ++ "): " ++ message
  | .invalidResponse message => "Invalid response: " ++ message

end NetworkError

namespace Http

inductive Method
  | get
  | post
  deriving DecidableEq

structure Request where
  method : Method
  url : String
  body : Option Json

/-- What comes with an answer: its bytes, and the text that the client makes of them by the charset
that the answer names. -/
structure Body where
  bytes : ByteArray
  text : String

def Body.ofText (text : String) : Body := ⟨text.toUTF8, text⟩

inductive Outcome
  | unreachable
  | answered (status : Nat) (body : Body)

def baseUrl (url : String) : String :=
  String.ofList (url.toList.reverse.dropWhile (· = '/')).reverse

/-- Why nothing came back for a URL. Not every text is one, and not to every one can a request be
sent. -/
def silence (url : String) : String :=
  match Url.parse? url with
  | none => "builder error"
  | some u =>
      let u := u.withoutCredentials
      (if u.isRequestable then "error sending request" else "builder error") ++
        " for url (" ++ u.text ++ ")"

def Outcome.read (o : Outcome) (url : String) (d : Json.Decoder α) : Except NetworkError α :=
  match o with
  | .unreachable => .error (.transient (silence url))
  | .answered status body =>
      if 200 ≤ status ∧ status < 300 then
        (Json.decodeBytes d body.bytes).mapError fun _ =>
          .invalidResponse "error decoding response body"
      else .error (.ofStatus status body.text)

end Http

end SealedTree
