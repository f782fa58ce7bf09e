import SealedTree.Model
import SealedTree.Verdict

/-!
Evaluating the tree for a sample, in two ways. The walk goes down from the root, one comparison a
level. The circuit is what the network computes over secret shares: it may not depend on the
answers which vertices it looks at, so it compares at every vertex, works out for every leaf
whether the path to it is taken, and joins the classes of all taken leaves.
-/

namespace SealedTree

inductive Tree
  | leaf (classes : Leaf)
  | vertex (test : Vertex) (left right : Tree)

def Tree.descend (s : Sample) : Tree → Leaf
  | .leaf l => l
  | .vertex v left right =>
      if s.feature v.feature ≤ v.threshold then left.descend s else right.descend s

def Model.tree (m : Model) : Tree :=
  .vertex m.vertices[0]
    (.vertex m.vertices[1]
      (.vertex m.vertices[2] (.leaf m.leaves[0]) (.leaf m.leaves[1]))
      (.vertex m.vertices[3] (.leaf m.leaves[2]) (.leaf m.leaves[3])))
    (.vertex m.vertices[4]
      (.vertex m.vertices[5] (.leaf m.leaves[4]) (.leaf m.leaves[5]))
      (.vertex m.vertices[6] (.leaf m.leaves[6]) (.leaf m.leaves[7])))

def Model.reachedLeaf (m : Model) (s : Sample) : Leaf := m.tree.descend s

/-- At each vertex, whether the left branch would be taken. -/
def Model.comparisons (m : Model) (s : Sample) : Vector Bool 7 :=
  m.vertices.map fun v => decide (s.feature v.feature ≤ v.threshold)

/-- For each leaf, whether the comparisons lead to it. -/
def pathsTaken (b : Vector Bool 7) : Vector Bool 8 :=
  #v[b[0] && b[1] && b[2],
     b[0] && b[1] && !b[2],
     b[0] && !b[1] && b[3],
     b[0] && !b[1] && !b[3],
     !b[0] && b[4] && b[5],
     !b[0] && b[4] && !b[5],
     !b[0] && !b[4] && b[6],
     !b[0] && !b[4] && !b[6]]

def Model.joinedClasses (m : Model) (taken : Vector Bool 8) : Vector Bool 8 :=
  Vector.ofFn fun c => (taken.zip m.leaves).any fun (t, leaf) => t && leaf.classes[c]

def Model.evaluate (m : Model) (s : Sample) : OneHot :=
  .ofBools (m.joinedClasses (pathsTaken (m.comparisons s)))

end SealedTree
