import SealedTree.Text.Parts

/-!
What the gateway understands of HTTP: which route a path belongs to, and whether a body is said to
be JSON.
-/

namespace SealedTree.Gateway

/-- The places the gateway answers at. The transaction is written as in the path. -/
inductive Route
  | health
  | submit
  | metrics
  | result (tx : String)
  | retry (tx : String)
  | watch (tx : String)
  deriving DecidableEq

/-- The path in what a request asks for. A scheme and a machine may stand before it; what follows a
question mark or a number sign does not matter. -/
def pathIn (target : String) : List Char :=
  let target := target.toList.takeWhile fun c => c ≠ '?' ∧ c ≠ '#'
  if target.head? = some '/' then target
  else match target.dropWhile (· ≠ ':') with
    | ':' :: '/' :: '/' :: rest => rest.dropWhile (· ≠ '/')
    | _ => target

/-- The route that a request asks for. A transaction at the end of a path has a name. -/
def Route.ofTarget? (target : String) : Option Route :=
  match (Text.parts (· = '/') (pathIn target)).map String.ofList with
  | ["", "health"] => some .health
  | ["", "submit"] => some .submit
  | ["", "metrics"] => some .metrics
  | ["", "result", tx] => if tx.isEmpty then none else some (.result tx)
  | ["", "result", tx, "retry"] => some (.retry tx)
  | ["", "watch", tx] => if tx.isEmpty then none else some (.watch tx)
  | _ => none

def Route.isRead : Route → Bool
  | .health | .metrics | .result _ => true
  | .submit | .retry _ | .watch _ => false

namespace MediaType

def isTokenChar (c : Char) : Bool :=
  c.isAlphanum || "!#$%&'*+-.^_|~".toList.contains c || c.toNat = 0x60

def token (cs : List Char) : List Char × List Char :=
  (cs.takeWhile isTokenChar, cs.dropWhile isTokenChar)

/-- A character that may stand between the quotes around a value. -/
def isQuotable (c : Char) : Bool := 31 < c.toNat && c.toNat ≠ 127

/-- What follows the value of a parameter, from the next parameter on. A value between quotes has at
least one character, which may be a quote itself. -/
def afterValue? : List Char → Option (List Char)
  | '"' :: c :: rest =>
      match isQuotable c, rest.dropWhile fun c => isQuotable c && c ≠ '"' with
      | true, '"' :: rest =>
          match rest.dropWhile (· = ' ') with
          | [] => some []
          | ';' :: rest => some rest
          | _ => none
      | _, _ => none
  | cs =>
      match token cs with
      | (_, []) => some []
      | (_ :: _, ';' :: rest) => some rest
      | _ => none

/-- The parameters after a media type are well written; there may be none. -/
def parametersOk : (fuel : Nat) → List Char → Bool
  | 0, _ => false
  | fuel + 1, cs =>
      match cs.dropWhile (· = ' ') with
      | [] => true
      | cs =>
          match token cs with
          | (_ :: _, '=' :: rest) => (afterValue? rest).any (parametersOk fuel)
          | _ => false

/-- The main name and the suffix behind its last plus sign. -/
def splitSuffix (subtype : List Char) : List Char × Option (List Char) :=
  let suffix := subtype.reverse.takeWhile (· ≠ '+')
  match subtype.reverse.dropWhile (· ≠ '+') with
  | '+' :: c :: rest => ((c :: rest).reverse, some suffix.reverse)
  | _ => (subtype, none)

def lower (cs : List Char) : String := String.ofList (cs.map Char.toLower)

/-- Visible ASCII, blanks and tabs. -/
def isPlain (c : Char) : Bool := (32 ≤ c.toNat && c.toNat < 127) || c = '\t'

/-- Whether a media type says that the body is JSON. -/
def isJson (contentType : String) : Bool :=
  contentType.toList.all isPlain &&
  match token contentType.toList with
  | (main, '/' :: rest) =>
      let (subtype, rest) := token rest
      let wellWritten := match rest with
        | [] => true
        | ';' :: rest => !subtype.isEmpty && parametersOk (rest.length + 1) rest
        | _ => false
      let (name, suffix) := splitSuffix subtype
      wellWritten && lower main == "application" &&
        (lower name == "json" || suffix.any fun s => lower s == "json")
  | _ => false

end MediaType

end SealedTree.Gateway
