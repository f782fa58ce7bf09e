/-!
Texts in parts: what stands between separators. There is one part more than there are separators,
and parts may be empty.
-/

namespace SealedTree.Text

def parts (separator : Char → Bool) : List Char → List (List Char)
  | [] => [[]]
  | c :: rest =>
      match parts separator rest with
      | [] => [[c]]
      | part :: others =>
          if separator c then [] :: part :: others else (c :: part) :: others

end SealedTree.Text
