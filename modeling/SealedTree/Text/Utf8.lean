/-!
Bytes as characters. A byte at which no character of UTF-8 begins has a place of its own among them,
and the character there is missing.
-/

namespace SealedTree.Utf8

/-- The characters from a place on, at most `fuel` of them. -/
def charsFrom (bytes : ByteArray) : (fuel place : Nat) → List (Option Char)
  | 0, _ => []
  | fuel + 1, place =>
      if bytes.size ≤ place then []
      else
        match bytes.utf8DecodeChar? place with
        | none => none :: charsFrom bytes fuel (place + 1)
        | some c => some c :: charsFrom bytes fuel (place + c.utf8Size)

/-- Each character takes a byte at least, so there are no more of them than bytes. -/
def chars (bytes : ByteArray) : List (Option Char) := charsFrom bytes bytes.size 0

/-- The places where a character is missing, each by how many places are behind it. -/
def strays : List (Option Char) → List Nat
  | [] => []
  | none :: rest => rest.length :: strays rest
  | some _ :: rest => strays rest

end SealedTree.Utf8
