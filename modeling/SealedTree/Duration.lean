import SealedTree.Decimal.Binary

/-!
Lengths of time. A length of time can be multiplied by a double; the product is a whole number of
nanoseconds again, the nearest one.
-/

namespace SealedTree

/-- A length of time in nanoseconds. -/
abbrev Duration := Nat

namespace Duration

def ofMillis (ms : UInt64) : Duration := ms.toNat * 1000000

def millis (d : Duration) : UInt64 := UInt64.ofNat (d / 1000000)

def ofSecs (secs nanos : Nat) : Duration := secs * 1000000000 + nanos

/-- The whole seconds and the rest are turned into doubles one by one. -/
def toSeconds (d : Duration) : Float :=
  (UInt64.ofNat (d / 1000000000)).toFloat +
    (UInt64.ofNat (d % 1000000000)).toFloat / (1000000000 : UInt64).toFloat

end Duration

/-- The whole number nearest to a quotient; of two equally near the even one. -/
def nearest (n d : Nat) : Nat :=
  let down := n / d
  let left := n % d
  if 2 * left < d || (2 * left == d && down % 2 == 0) then down else down + 1

/-- A number of seconds as a length of time, unless it is negative, `2 ^ 64` or more, or no
number. -/
def Duration.ofSeconds? (seconds : Float) : Option Duration :=
  match Decimal.Binary.ofFloat seconds with
  | .finite negative significand exponent =>
      if negative && significand != 0 then none
      else
        let up := Nat.pow 2 exponent.toNat
        let down := Nat.pow 2 (-exponent).toNat
        if 18446744073709551616 * down ≤ significand * up then none
        else some (nearest (significand * 1000000000 * up) down)
  | _ => none

def Duration.times? (d : Duration) (factor : Float) : Option Duration :=
  ofSeconds? (d.toSeconds * factor)

end SealedTree
