import SealedTree.Decimal.Binary
import SealedTree.Decimal.Shortest

/-!
How a decimal is written down: where the point goes, when an exponent is used, and what is written
for zero, the infinities and no number.
-/

namespace SealedTree.Decimal

structure Layout where
  /-- Whether a number whose first digit stands for `10 ^ e` is written without an exponent. -/
  positional : (e : Int) → Bool
  /-- What follows the digits of a whole number. -/
  wholeEnd : String
  notANumber : String
  infinity : String

/-- The form of a number in a document: from `1e-5` up to `1e16` without an exponent, and with a
digit after the point; an exponent always has a sign. Only finite numbers have this form. -/
def Layout.document : Layout where
  positional e := -5 ≤ e ∧ e < 16
  wholeEnd := ".0"
  notANumber := "null"
  infinity := "null"

/-- The form of a number in a message: never an exponent, and whole numbers without a point. -/
def Layout.plain : Layout where
  positional _ := true
  wholeEnd := ""
  notANumber := "NaN"
  infinity := "inf"

def Layout.place (l : Layout) (s : Scaled) : String :=
  let digits := Nat.toDigits 10 s.coefficient
  let count : Int := digits.length
  let e := s.point + count - 1
  if l.positional e then
    if 0 ≤ s.point then
      String.ofList (digits ++ List.replicate s.point.toNat '0') ++ l.wholeEnd
    else if 0 ≤ e then
      String.ofList (digits.take (e + 1).toNat ++ '.' :: digits.drop (e + 1).toNat)
    else
      String.ofList ('0' :: '.' :: List.replicate (-e - 1).toNat '0' ++ digits)
  else
    let sign := if e < 0 then "-" else "+"
    let mantissa := match digits with
      | [] => []
      | [d] => [d]
      | d :: rest => d :: '.' :: rest
    String.ofList mantissa ++ "e" ++ sign ++ toString e.natAbs

def Layout.write (l : Layout) (x : Float) : String :=
  match Binary.ofFloat x with
  | .notANumber => l.notANumber
  | .infinite false => l.infinity
  | .infinite true => "-" ++ l.infinity
  | .finite negative significand exponent =>
      let magnitude := if significand = 0 then "0" ++ l.wholeEnd
        else l.place (shortest significand exponent).trimmed
      if negative then "-" ++ magnitude else magnitude

def isFinite (x : Float) : Bool :=
  match Binary.ofFloat x with
  | .finite .. => true
  | _ => false

end SealedTree.Decimal
