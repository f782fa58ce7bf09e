import SealedTree.Text.Composition
import SealedTree.Text.Direction
import SealedTree.Text.Joining
import SealedTree.Url.Domain.Spelling
import SealedTree.Url.Punycode

/-!
One part of a name of a machine: what it reads, and how it is written in ASCII. It does not begin
with a mark, and has the characters that join letters, or keep them apart, only where they matter.
Where a name has letters written from right to left, each of its parts goes in one direction.
-/

namespace SealedTree.Url

namespace Spelling

def ofText? (cs : List Char) : Option (List Char) :=
  (cs.mapM ofChar?).map fun spelled => Text.composed spelled.flatten

def isOwn (cs : List Char) : Bool := ofText? cs == some cs

end Spelling

namespace Label

open Text (Direction Joining)

/-- A part in ASCII that stands for one beyond it begins like this. -/
def sign : List Char := ['x', 'n', '-', '-']

def nonJoiner : Char := '\u200c'

def joiner : Char := '\u200d'

/-- Whether the next letter, marks left aside, joins in one of the given ways. -/
def reaches (ways : List Joining) (cs : List Char) : Bool :=
  ((cs.dropWhile Joining.isTransparent).head?.bind Joining.ofChar?).any (ways.contains ·)

/-- Whether a joiner may stand here; `before` are the characters before it, the last one first.
After a mark that takes a vowel away, both kinds may. -/
def joinsHere (c : Char) (before after : List Char) : Bool :=
  match before with
  | [] => false
  | last :: _ =>
      Text.Composition.rank last = 9 ||
        (c = nonJoiner && reaches [.both, .after] before && reaches [.both, .before] after)

def joinersFit (before : List Char) : List Char → Bool
  | [] => true
  | c :: rest =>
      ((c ≠ nonJoiner && c ≠ joiner) || joinsHere c before rest) && joinersFit (c :: before) rest

/-- Whether a part goes in one direction, as it has to where some letters go from right to left. Its
last character, marks left aside, is a letter or a digit; digits are of one kind. -/
def goesOneWay (label : List Char) : Bool :=
  let ways := label.map Direction.ofChar
  let last := (ways.reverse.dropWhile (· = .mark)).head?
  match ways with
  | [] => true
  | .left :: _ =>
      ways.all ([.left, .digit, .neutral, .mark].contains ·) &&
        last.any ([.left, .digit].contains ·)
  | .right :: _ =>
      ways.all ([.right, .arabicDigit, .digit, .neutral, .mark].contains ·) &&
        last.any ([.right, .digit, .arabicDigit].contains ·) &&
        !(ways.contains .digit && ways.contains .arabicDigit)
  | _ => false

def goesRight (c : Char) : Bool := [.right, .arabicDigit].contains (Direction.ofChar c)

def isAscii (label : List Char) : Bool := label.all Punycode.isBasic

/-- Whether a part may stand in a name, as far as its direction does not matter. One beyond ASCII
has at most a thousand characters. -/
def isSound (label : List Char) : Bool :=
  !label.head?.any Text.isMark && joinersFit [] label &&
    (isAscii label || (!sign.isPrefixOf label && label.length ≤ 1000))

/-- What a part reads. One in ASCII that says to stand for another does so; its digits are at most
two thousand. -/
def read? (label : List Char) : Option (List Char) :=
  if sign.isPrefixOf label then
    let digits := label.drop sign.length
    if 2000 < digits.length then none
    else (Punycode.decode? digits).filter fun name => !isAscii name && Spelling.isOwn name
  else some label

def ascii (label : List Char) : List Char :=
  if isAscii label then label else sign ++ Punycode.encode label

end Label

end SealedTree.Url
