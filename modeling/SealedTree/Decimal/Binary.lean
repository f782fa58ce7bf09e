/-!
What a double stands for: an infinity, no number, or a sign and a significand times a power of two.
-/

namespace SealedTree.Decimal

/-- A double taken apart. A finite one is `±significand · 2 ^ exponent`. -/
inductive Binary
  | notANumber
  | infinite (negative : Bool)
  | finite (negative : Bool) (significand : Nat) (exponent : Int)
  deriving DecidableEq

/-- The leading bit of a normal significand, which is not stored. -/
def implicitBit : Nat := 4503599627370496

/-- The exponent field selects between subnormal numbers, normal ones, and the rest. -/
def Binary.ofFloat (x : Float) : Binary :=
  let bits := x.toBits.toNat
  let negative := bits >>> 63 == 1
  let field : Nat := bits >>> 52 % 2048
  let fraction : Nat := bits % implicitBit
  if field = 2047 then
    if fraction = 0 then .infinite negative else .notANumber
  else if field = 0 then .finite negative fraction (-1074)
  else .finite negative (fraction + implicitBit) ((field : Int) - 1075)

end SealedTree.Decimal
