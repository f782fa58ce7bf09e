import SealedTree.Json.Decoder
import SealedTree.Json.Printer
import SealedTree.Model

/-!
Models and samples as documents. A leaf may be written with zeros and ones in place of `false` and
`true`; it is always written back with the words.
-/

namespace SealedTree

namespace Vertex

def json (v : Vertex) : Json :=
  .ofMembers [("feature", .ofNat v.feature.toNat), ("threshold", .ofInt v.threshold.toInt)]

def decoder : Json.Decoder Vertex := fun site j => do
  let fields ← Json.fields "struct InternalVertex"
    [Json.slot "feature" Json.uint8, Json.slot "threshold" Json.int16] site j
  let feature ← fields.get site "feature" Json.uint8
  let threshold ← fields.get site "threshold" Json.int16
  .ok ⟨feature, threshold⟩

end Vertex

namespace Leaf

inductive Mark
  | word (value : Bool)
  | digit (value : UInt8)

def Mark.decoder : Json.Decoder Mark := fun site j => do
  Json.keep site.depth j
  match j with
  | .bool b => .ok (.word b)
  | .number (.integer i) =>
      if 0 ≤ i ∧ i < 256 then .ok (.digit (UInt8.ofNat i.toNat))
      else Json.fail (.noVariantOf "RawBit")
  | _ => Json.fail (.noVariantOf "RawBit")

def Mark.value : Mark → Except ShapeError Bool
  | .word b => .ok b
  | .digit 0 => .ok false
  | .digit 1 => .ok true
  | .digit n => .error (.outOfRange "classification" n.toNat)

def ofMarks (marks : List Mark) : Except ShapeError Leaf := do
  ofList (← marks.mapM Mark.value)

def json (leaf : Leaf) : Json :=
  .ofMembers [("classification", .ofList (leaf.classes.toList.map .bool))]

def marksDecoder : Json.Decoder (List Mark) := fun site j => do
  let fields ← Json.fields "struct RawLeaf"
    [Json.slot "classification" (Json.list Mark.decoder)] site j
  fields.get site "classification" (Json.list Mark.decoder)

def decoder : Json.Decoder Leaf :=
  marksDecoder.refine fun marks => (ofMarks marks).mapError ShapeError.message

end Leaf

namespace Model

def json (m : Model) : Json :=
  .ofMembers
    [("internals", .ofList (m.vertices.toList.map Vertex.json)),
     ("leaves", .ofList (m.leaves.toList.map Leaf.json))]

/-- The vertices and leaves, however many there are. -/
def partsDecoder : Json.Decoder (List Vertex × List Leaf) := fun site j => do
  let fields ← Json.fields "struct RawModel"
    [Json.slot "internals" (Json.list Vertex.decoder),
     Json.slot "leaves" (Json.list Leaf.decoder)] site j
  let vertices ← fields.get site "internals" (Json.list Vertex.decoder)
  let leaves ← fields.get site "leaves" (Json.list Leaf.decoder)
  .ok (vertices, leaves)

def decoder : Json.Decoder Model :=
  partsDecoder.refine fun (vertices, leaves) =>
    (ofLists vertices leaves).mapError ShapeError.message

end Model

namespace Sample

def json (s : Sample) : Json := .ofList (s.answers.toList.map fun n => .ofInt n.toInt)

def decoder : Json.Decoder Sample :=
  (Json.list Json.int16).refine fun answers => (ofList answers).mapError ShapeError.message

end Sample

end SealedTree
