import SealedTree.Model
import SealedTree.SecretBits

/-!
How models and samples lie in a secret: a vertex as its feature and its threshold, a leaf as its
eight classes, a model as its vertices and then its leaves, a sample as its answers.
-/

namespace SealedTree

instance : SecretLayout Vertex where
  width := 24
  bits v := (BitValue.u8 v.feature).bits ++ (BitValue.i16 v.threshold).bits
  reader := do
    let feature ← Reader.uint8 "feature"
    let threshold ← Reader.int16 "threshold"
    pure ⟨feature, threshold⟩

instance : SecretLayout Leaf where
  width := 8
  bits leaf := leaf.classes.toList
  reader := Leaf.mk <$> (Reader.bool "classification").vector 8

instance : SecretLayout Model where
  width := 7 * 24 + 8 * 8
  bits m := m.vertices.toList.flatMap SecretLayout.bits ++ m.leaves.toList.flatMap SecretLayout.bits
  reader := do
    let vertices ← Reader.vector SecretLayout.reader 7
    let leaves ← Reader.vector SecretLayout.reader 8
    pure ⟨vertices, leaves⟩

instance : SecretLayout Sample where
  width := 10 * 16
  bits s := s.answers.toList.flatMap fun n => (BitValue.i16 n).bits
  reader := Sample.mk <$> (Reader.int16 "sample").vector 10

end SealedTree
