import SealedTree.Json.Text
import SealedTree.Decimal.Layout

/-!
Writing a document: in one line without blanks, or with one element a line and two blanks for each
level. The place where a broken document ends is written as `null`.
-/

namespace SealedTree.Json

def Number.write : Number → String
  | .integer i => toString i
  | .real x => Decimal.Layout.document.write x

mutual

def compactChars : Json → List Char
  | .null => ['n', 'u', 'l', 'l']
  | .bool true => ['t', 'r', 'u', 'e']
  | .bool false => ['f', 'a', 'l', 's', 'e']
  | .number n => n.write.toList
  | .string s => writeText s
  | .array items _ => '[' :: compactItems items ++ [']']
  | .object members _ => '\x7b' :: compactMembers members ++ ['\x7d']
  | .valueless _ | .broken _ => ['n', 'u', 'l', 'l']

def compactItems : List Json → List Char
  | [] => []
  | [item] => compactChars item
  | item :: rest => compactChars item ++ ',' :: compactItems rest

def compactMembers : List (Except Fault String × Json) → List Char
  | [] => []
  | [(name, value)] => writeText (name.toOption.getD "") ++ ':' :: compactChars value
  | (name, value) :: rest =>
      writeText (name.toOption.getD "") ++ ':' :: compactChars value ++ ',' :: compactMembers rest

end

def compact (j : Json) : String := String.ofList j.compactChars

def lineAt (level : Nat) : List Char := '\n' :: List.replicate (2 * level) ' '

mutual

def prettyChars (level : Nat) : Json → List Char
  | .null => ['n', 'u', 'l', 'l']
  | .bool true => ['t', 'r', 'u', 'e']
  | .bool false => ['f', 'a', 'l', 's', 'e']
  | .number n => n.write.toList
  | .string s => writeText s
  | .array [] _ => ['[', ']']
  | .array items _ => '[' :: prettyItems (level + 1) items ++ lineAt level ++ [']']
  | .object [] _ => ['\x7b', '\x7d']
  | .object members _ => '\x7b' :: prettyMembers (level + 1) members ++ lineAt level ++ ['\x7d']
  | .valueless _ | .broken _ => ['n', 'u', 'l', 'l']

def prettyItems (level : Nat) : List Json → List Char
  | [] => []
  | [item] => lineAt level ++ prettyChars level item
  | item :: rest => lineAt level ++ prettyChars level item ++ ',' :: prettyItems level rest

def prettyMembers (level : Nat) : List (Except Fault String × Json) → List Char
  | [] => []
  | [(name, value)] =>
      lineAt level ++ writeText (name.toOption.getD "") ++ ':' :: ' ' :: prettyChars level value
  | (name, value) :: rest =>
      lineAt level ++ writeText (name.toOption.getD "") ++ ':' :: ' ' :: prettyChars level value ++
        ',' :: prettyMembers level rest

end

def pretty (j : Json) : String := String.ofList (j.prettyChars 0)

/-- Doubles that are no numbers have no written form, and are written as `null`. -/
def ofFloat (x : Float) : Json :=
  if Decimal.isFinite x then .number (.real x) else .null

end SealedTree.Json
