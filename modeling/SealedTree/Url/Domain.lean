import SealedTree.Url.Domain.Label

/-!
Names of machines, as they are known to the network: spelled in small letters, and a part of a name
that goes beyond ASCII in its form of letters and digits.
-/

namespace SealedTree.Url.Domain

/-- Characters that no name has: controls, blanks, and those that end a name in a URL. -/
def isForbidden (c : Char) : Bool :=
  c.toNat ≤ 0x20 || c.toNat = 0x7F || "%#/:<>?@[\\]^|".toList.contains c

def labels (cs : List Char) : List (List Char) := Text.parts (· = '.') cs

def isSound (parts : List (List Char)) : Bool :=
  match parts.mapM Label.read? with
  | none => false
  | some names =>
      names.all Label.isSound && (!names.any (·.any Label.goesRight) || names.all Label.goesOneWay)

def ofText? (text : String) : Option String := do
  let name ← Spelling.ofText? text.toList
  let parts := labels name
  if name.any isForbidden ∨ ¬isSound parts then none
  else some (".".intercalate (parts.map fun part => String.ofList (Label.ascii part)))

end SealedTree.Url.Domain
