import SealedTree.Json.Fault

/-!
JSON documents, as far as a text is one. A document read from a text that stops being JSON at some
place ends there: the array or object that was open keeps what it had so far and the fault that
stopped it. A document made by the program has no such place, and is `Whole`.
-/

namespace SealedTree

namespace Json

/-- A number written without point and exponent is an integer if 64 bits hold it. -/
inductive Number
  | integer (value : Int)
  | real (value : Float)
  deriving DecidableEq

end Json

inductive Json
  | null
  | bool (value : Bool)
  | number (value : Json.Number)
  | string (value : String)
  /-- The items up to the closing bracket, or up to the flaw that stands in its place. -/
  | array (items : List Json) (stop : Option Json.Flaw)
  /-- The members up to the closing brace. A name may be written without being any text. -/
  | object (members : List (Except Json.Fault String × Json)) (stop : Option Json.Flaw)
  /-- A number or string that is well written and yet has no value. -/
  | valueless (fault : Json.Fault)
  | broken (flaw : Json.Flaw)

namespace Json

def ofNat (n : Nat) : Json := .number (.integer n)

def ofInt (i : Int) : Json := .number (.integer i)

def ofList (items : List Json) : Json := .array items none

def ofMembers (members : List (String × Json)) : Json :=
  .object (members.map fun (name, value) => (.ok name, value)) none

def ofOption (value : Option Json) : Json := value.getD .null

mutual

def Whole : Json → Prop
  | .null | .bool _ | .number _ | .string _ => True
  | .array items stop => stop = none ∧ AllWhole items
  | .object members stop => stop = none ∧ AllMembersWhole members
  | .valueless _ | .broken _ => False

def AllWhole : List Json → Prop
  | [] => True
  | item :: rest => item.Whole ∧ AllWhole rest

def AllMembersWhole : List (Except Fault String × Json) → Prop
  | [] => True
  | (name, value) :: rest => name.isOk ∧ value.Whole ∧ AllMembersWhole rest

end

end Json

end SealedTree
