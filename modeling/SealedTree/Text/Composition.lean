import SealedTree.Text.Composition.Table

/-!
Texts in composed form. A letter with a mark is one character where there is one for both, also when
other marks stand between them, unless one of the same class does. The three parts of a Korean
syllable are one character too. Characters that are nothing but another way to write one or more
others are taken as they are.
-/

namespace SealedTree.Text

namespace Composition

/-- The class of a mark, and 0 for other characters. -/
def rank (c : Char) : Nat := (CodePoints.kind? classes c).getD 0

/-- The parts of a Korean syllable: the first two if it has no third, or those two and the third. -/
def splitSyllable? (n : Nat) : Option (Nat × Nat) :=
  if n < 0xAC00 ∨ 0xD7A3 < n then none
  else
    let i := n - 0xAC00
    if i % 28 = 0 then some (0x1100 + i / 588, 0x1161 + i % 588 / 28)
    else some (n - i % 28, 0x11A7 + i % 28)

def joinSyllable? (a b : Nat) : Option Nat :=
  if 0x1100 ≤ a ∧ a ≤ 0x1112 ∧ 0x1161 ≤ b ∧ b ≤ 0x1175 then
    some (0xAC00 + ((a - 0x1100) * 21 + (b - 0x1161)) * 28)
  else if 0xAC00 ≤ a ∧ a ≤ 0xD7A3 ∧ (a - 0xAC00) % 28 = 0 ∧ 0x11A8 ≤ b ∧ b ≤ 0x11C2 then
    some (a + (b - 0x11A7))
  else none

def split? (c : Char) : Option (Char × Char) :=
  let listed := joins.findSome? fun (b, firsts) =>
    (firsts.find? (·.2 = c.toNat)).map fun (a, _) => (a, b)
  (listed <|> splitSyllable? c.toNat).map fun (a, b) => (Char.ofNat a, Char.ofNat b)

def join? (a b : Char) : Option Char :=
  let listed := (joins.lookup b.toNat).bind (·.lookup a.toNat)
  (listed <|> joinSyllable? a.toNat b.toNat).map Char.ofNat

/-- A character in parts that are not composed themselves, split so many times at most. -/
def split : Nat → Char → List Char
  | 0, c => [c]
  | n + 1, c =>
      match split? c with
      | some (a, b) => split n a ++ [b]
      | none => [c]

/-- A character in all its parts: none is composed in more than three steps. -/
def taken (c : Char) : List Char := split 3 c

/-- Puts a character in front of a text, or behind the marks of lower classes there. -/
def insert (c : Char) : List Char → List Char
  | [] => [c]
  | d :: rest => if rank d ≠ 0 ∧ rank d < rank c then d :: insert c rest else c :: d :: rest

/-- Marks in the order of their classes; those of one class stay in their order. -/
def ordered : List Char → List Char
  | [] => []
  | c :: rest => insert c (ordered rest)

/-- Joins what follows to the character `base`; `held` are the marks after it that did not join. -/
def joined (base : Char) (held : List Char) : List Char → List Char
  | [] => base :: held
  | c :: rest =>
      let blocked := held.getLast?.any (rank c ≤ rank ·)
      match if blocked then none else join? base c with
      | some one => joined one held rest
      | none =>
          if rank c = 0 then base :: held ++ joined c [] rest
          else joined base (held ++ [c]) rest

end Composition

def composed (cs : List Char) : List Char :=
  match Composition.ordered (cs.flatMap Composition.taken) with
  | [] => []
  | c :: rest => Composition.joined c [] rest

namespace Composition

theorem insert_perm (c : Char) (cs : List Char) : (insert c cs).Perm (c :: cs) := by
  induction cs with
  | nil => exact List.Perm.refl _
  | cons d rest ih =>
      unfold insert
      split
      · exact (ih.cons d).trans (List.Perm.swap c d rest)
      · exact List.Perm.refl _

theorem ordered_perm (cs : List Char) : (ordered cs).Perm cs := by
  induction cs with
  | nil => exact List.Perm.refl _
  | cons c rest ih => exact (insert_perm c (ordered rest)).trans (ih.cons c)

end Composition

end SealedTree.Text
