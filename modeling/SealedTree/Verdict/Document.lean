import SealedTree.Json.Printer
import SealedTree.Json.Tagged
import SealedTree.Verdict

/-!
Results and what they say as documents.
-/

namespace SealedTree

namespace OneHot

def json (r : OneHot) : Json := .ofList (r.entries.toList.map fun b => .ofNat b.toNat)

/-- Entries are taken as they stand. -/
def decoder : Json.Decoder OneHot := fun site j => do
  let entries ← Json.exactly 8 Json.uint8 site j
  if h : entries.length = 8 then .ok ⟨⟨entries.toArray, by simpa using h⟩⟩
  else Json.fail (.wrongLength entries.length "an array of length 8")

end OneHot

namespace Personality

def json (p : Personality) : Json := .string p.name

def decoder : Json.Decoder Personality :=
  (Json.variant (all.map name)).refine fun text =>
    match ofName? text with
    | some p => .ok p
    | none => .error text

end Personality

namespace Classification

def json : Classification → Json
  | .label p => .ofMembers [("kind", .string "label"), ("label", p.json)]
  | .indeterminate => .ofMembers [("kind", .string "indeterminate")]

def forms : Json.Paired Classification where
  title := "adjacently tagged enum Classification"
  nameField := "kind"
  contentField := "label"
  forms := ["label", "indeterminate"]
  content form :=
    if form = "label" then Personality.decoder.map .label
    else Json.emptyForm "unit variant Classification::Indeterminate" .indeterminate
  alone form :=
    if form = "label" then Json.fail (.missingField "label") else .ok .indeterminate

def decoder : Json.Decoder Classification := forms.decoder

end Classification

end SealedTree
