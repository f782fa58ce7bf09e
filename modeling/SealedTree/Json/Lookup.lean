import SealedTree.Json.Basic

/-!
The parts of a document, for those who know its shape: what is not there has no members and no
items.
-/

namespace SealedTree.Json

def items : Json → List Json
  | .array items _ => items
  | _ => []

def members : Json → List (String × Json)
  | .object members _ => members.filterMap fun (name, value) => match name with
      | .ok name => some (name, value)
      | .error _ => none
  | _ => []

def member? (j : Json) (name : String) : Option Json := j.members.lookup name

theorem items_ofList (js : List Json) : (ofList js).items = js := rfl

theorem members_ofMembers (ms : List (String × Json)) : (ofMembers ms).members = ms := by
  induction ms with
  | nil => rfl
  | cons m rest ih => exact congrArg (m :: ·) ih

end SealedTree.Json
