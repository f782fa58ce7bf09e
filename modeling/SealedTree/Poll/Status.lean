import SealedTree.Verdict.Document

/-!
How the search for a result stands, as users see it.
-/

namespace SealedTree.Poll

inductive Status
  | pending
  | resolved (classification : Classification)
  /-- All attempts are used up; a retry may still find the result. -/
  | exhausted
  | fatal (error : String)
  deriving DecidableEq

namespace Status

def isTerminal : Status → Bool
  | .pending => false
  | _ => true

def isRetryable : Status → Bool
  | .exhausted | .fatal _ => true
  | _ => false

def name : Status → String
  | .pending => "pending"
  | .resolved _ => "resolved"
  | .exhausted => "exhausted"
  | .fatal _ => "fatal"

def json (s : Status) : Json :=
  .ofMembers <| ("state", .string s.name) ::
    match s with
    | .resolved c => [("classification", c.json)]
    | .fatal error => [("error", .string error)]
    | _ => []

def resolvedDecoder : Json.Decoder Status := fun site j => do
  let fields ← Json.fields "struct variant PollStatus::Resolved"
    [Json.slot "classification" Classification.decoder] site j
  let c ← fields.get site "classification" Classification.decoder
  .ok (.resolved c)

def fatalDecoder : Json.Decoder Status := fun site j => do
  let fields ← Json.fields "struct variant PollStatus::Fatal" [Json.slot "error" Json.text] site j
  let error ← fields.get site "error" Json.text
  .ok (.fatal error)

def forms : Json.Mixed Status where
  title := "internally tagged enum PollStatus"
  nameField := "state"
  forms := ["pending", "resolved", "exhausted", "fatal"]
  content form :=
    if form = "resolved" then resolvedDecoder
    else if form = "fatal" then fatalDecoder
    else if form = "exhausted" then Json.Mixed.nothing .exhausted
    else Json.Mixed.nothing .pending

def decoder : Json.Decoder Status := forms.decoder

end Status

end SealedTree.Poll
