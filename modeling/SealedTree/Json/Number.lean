import SealedTree.Json.Basic

/-!
Reading numbers. The digits before and after the point go into one significand of 64 bits, as many
as it holds; the digits that no longer fit only count into the power of ten, or are dropped when
they stand after the point. The significand is then scaled by that power in double arithmetic, so
the result may be a neighbour of the double nearest to the written number.
-/

namespace SealedTree.Json

structure Numeral where
  negative : Bool
  whole : List Nat
  fraction : Option (List Nat)
  /-- Whether the exponent has a minus sign, and its digits. -/
  exponent : Option (Bool × List Nat)

def digit? (c : Char) : Option Nat :=
  if '0' ≤ c ∧ c ≤ '9' then some (c.toNat - 48) else none

def digits : List Char → List Nat × List Char
  | [] => ([], [])
  | c :: rest =>
      match digit? c with
      | none => ([], c :: rest)
      | some d => let (ds, rest) := digits rest; (d :: ds, rest)

/-- What is wrong where a digit should stand and none does. Who passes over a number does not ask
whether the text has ended. -/
def noDigit : List Char → Flaw
  | [] => ⟨.endInValue, .badNumber⟩
  | _ => Fault.badNumber.always

def someDigits (cs : List Char) : Except Flaw (List Nat × List Char) :=
  match digits cs with
  | ([], rest) => .error (noDigit rest)
  | (ds, rest) => .ok (ds, rest)

/-- A zero at the front stands alone. -/
def wholePart (cs : List Char) : Except Flaw (List Nat × List Char) := do
  match ← someDigits cs with
  | (0 :: _ :: _, _) => .error Fault.badNumber.always
  | part => .ok part

def fractionPart : List Char → Except Flaw (Option (List Nat) × List Char)
  | '.' :: rest => do
      let (ds, rest) ← someDigits rest
      .ok (some ds, rest)
  | cs => .ok (none, cs)

def exponentSign : List Char → Bool × List Char
  | '+' :: rest => (false, rest)
  | '-' :: rest => (true, rest)
  | cs => (false, cs)

def exponentPart : List Char → Except Flaw (Option (Bool × List Nat) × List Char)
  | c :: rest =>
      if c = 'e' ∨ c = 'E' then do
        let (negative, rest) := exponentSign rest
        let (ds, rest) ← someDigits rest
        .ok (some (negative, ds), rest)
      else .ok (none, c :: rest)
  | [] => .ok (none, [])

def unsignedNumeral (negative : Bool) (cs : List Char) : Except Flaw (Numeral × List Char) := do
  let (whole, rest) ← wholePart cs
  let (fraction, rest) ← fractionPart rest
  let (exponent, rest) ← exponentPart rest
  .ok ({ negative, whole, fraction, exponent }, rest)

def numeral : List Char → Except Flaw (Numeral × List Char)
  | '-' :: rest => unsignedNumeral true rest
  | cs => unsignedNumeral false cs

/-- Puts digits behind the significand until one no longer fits into 64 bits: the significand, how
many digits it took, and how many were left. -/
def fill (significand : Nat) : List Nat → Nat × Nat × Nat
  | [] => (significand, 0, 0)
  | d :: rest =>
      if significand * 10 + d < 18446744073709551616 then
        let (s, taken, left) := fill (significand * 10 + d) rest
        (s, taken + 1, left)
      else (significand, 0, rest.length + 1)

def tenTo (n : Nat) : Float := Float.ofScientific 1 false n

/-- `x · 10 ^ exponent` for a significand `x`, one division or multiplication at a time: doubles
hold the powers of ten up to `10 ^ 308`. -/
def scale (x : Float) (exponent : Int) : (fuel : Nat) → Except Fault Float
  | 0 => .ok x
  | fuel + 1 =>
      if exponent.natAbs ≤ 308 then
        if 0 ≤ exponent then
          let y := x * tenTo exponent.natAbs
          if y.isInf then .error .numberTooLarge else .ok y
        else .ok (x / tenTo exponent.natAbs)
      else if x == 0 then .ok x
      else if 0 ≤ exponent then .error .numberTooLarge
      else scale (x / tenTo 308) (exponent + 308) fuel

def signed (negative : Bool) (x : Float) : Float := if negative then -x else x

/-- The double for a significand and a power of ten. Two divisions by `10 ^ 308` bring every
significand of 64 bits down to zero. -/
def realValue (negative : Bool) (significand : Nat) (point : Int)
    (exponent : Option (Bool × List Nat)) : Except Fault Number :=
  match exponent with
  | none => (scale significand.toUInt64.toFloat point 4).map (.real <| signed negative ·)
  | some (down, ds) =>
      let e : Nat := ds.foldl (fun n d => n * 10 + d) 0
      if e < 2147483648 then
        let point := if down then point - (e : Int) else point + (e : Int)
        (scale significand.toUInt64.toFloat point 4).map (.real <| signed negative ·)
      else if significand ≠ 0 ∧ ¬down then .error .numberTooLarge
      else .ok (.real (signed negative 0))

/-- The value of a written number. A negative zero and what 64 bits do not hold are doubles. -/
def Numeral.value (n : Numeral) : Except Fault Number :=
  let (significand, _, left) := fill 0 n.whole
  match n.fraction, n.exponent with
  | none, none =>
      if left ≠ 0 then realValue n.negative significand left none
      else if ¬n.negative then .ok (.integer significand)
      else if significand = 0 ∨ 9223372036854775808 < significand then
        .ok (.real (-significand.toUInt64.toFloat))
      else .ok (.integer (-significand))
  | fraction, exponent =>
      let (significand, taken, _) := fill significand (fraction.getD [])
      realValue n.negative significand ((left : Int) - (taken : Int)) exponent

end SealedTree.Json
