/-!
Values of the wrong shape, and bytes that end too soon.
-/

namespace SealedTree

inductive ShapeError
  | lengthMismatch (field : String) (expected actual : Nat)
  | outOfRange (field : String) (value : Int)
  deriving DecidableEq

def ShapeError.message : ShapeError → String
  | .lengthMismatch field expected actual =>
      "Length mismatch for " ++ field ++ ": expected " ++ toString expected ++ ", got " ++
        toString actual
  | .outOfRange field value => "Value out of range for " ++ field ++ ": " ++ toString value

inductive PayloadError
  | underrun (field : String) (needed remaining : Nat)
  | invalidHex (message : String)
  deriving DecidableEq

def PayloadError.message : PayloadError → String
  | .underrun field needed remaining =>
      "Buffer underrun reading " ++ field ++ ": need " ++ toString needed ++ " more, " ++
        toString remaining ++ " remaining"
  | .invalidHex message => "Invalid hex payload: " ++ message

def sized (field : String) (n : Nat) (xs : List α) : Except ShapeError (Vector α n) :=
  if h : xs.length = n then .ok ⟨xs.toArray, by simpa using h⟩
  else .error (.lengthMismatch field n xs.length)

theorem sized_toList (field : String) {n : Nat} (v : Vector α n) :
    sized field n v.toList = .ok v := by
  rcases v with ⟨a, rfl⟩
  simp [sized]

theorem sized_eq_ok {field : String} {n : Nat} {xs : List α} {v : Vector α n} :
    sized field n xs = .ok v ↔ xs = v.toList := by
  constructor
  · intro h
    rw [sized] at h
    split at h
    · cases h
      rfl
    · cases h
  · rintro rfl
    exact sized_toList field v

end SealedTree
