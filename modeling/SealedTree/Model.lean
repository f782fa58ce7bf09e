import SealedTree.Error

/-!
The decision tree and the sample it is asked about. The tree has three levels: seven vertices that
each compare one answer with a threshold, and eight leaves.
-/

namespace SealedTree

/-- A comparison: the left branch is taken when the answer is at most the threshold. -/
structure Vertex where
  feature : UInt8
  threshold : Int16
  deriving DecidableEq

/-- The classes that a leaf stands for. A sensible leaf has one, but any number is allowed. -/
structure Leaf where
  classes : Vector Bool 8
  deriving DecidableEq

namespace Leaf

def ofList (bits : List Bool) : Except ShapeError Leaf :=
  (sized "classification" 8 bits).map Leaf.mk

/-- The leaf of one class, or of none if there is no such class. -/
def oneHot (index : Nat) : Leaf := ⟨Vector.ofFn fun i => i.val == index⟩

end Leaf

/-- The vertices in the order root, left child and its two children, right child and its two
children; the leaves from left to right. -/
structure Model where
  vertices : Vector Vertex 7
  leaves : Vector Leaf 8
  deriving DecidableEq

namespace Model

def ofLists (vertices : List Vertex) (leaves : List Leaf) : Except ShapeError Model := do
  let vertices ← sized "internals" 7 vertices
  let leaves ← sized "leaves" 8 leaves
  .ok ⟨vertices, leaves⟩

/-- The model of the worked example: answers are from 0 to 3, all zeros lead to the first leaf and
all threes to the last. -/
def reference : Model where
  vertices := #v[⟨0, 1⟩, ⟨1, 0⟩, ⟨2, 1⟩, ⟨9, 1⟩, ⟨3, 1⟩, ⟨5, 1⟩, ⟨6, 1⟩]
  leaves := #v[.oneHot 1, .oneHot 0, .oneHot 2, .oneHot 3, .oneHot 4, .oneHot 5, .oneHot 6,
    .oneHot 7]

end Model

structure Sample where
  answers : Vector Int16 10
  deriving DecidableEq

namespace Sample

def ofList (answers : List Int16) : Except ShapeError Sample :=
  (sized "sample" 10 answers).map Sample.mk

/-- The answer to a question; a question that was not asked counts as answered by zero. -/
def feature (s : Sample) (index : UInt8) : Int16 :=
  s.answers.toList.getD index.toNat 0

end Sample

end SealedTree
