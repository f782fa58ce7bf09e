import SealedTree.Proofs.Json.Numerals

/-!
Doubles in a document. A decimal of a double is not zero unless the double is, so whatever layout
its digits get in a document, they make up a numeral.
-/

namespace SealedTree

namespace Decimal

theorem Interval.low_pos {significand : Nat} (positive : 0 < significand) (exponent : Int) :
    0 < (Interval.around significand exponent).low := by
  have up : 0 < Nat.pow 2 (exponent - 2).toNat := Nat.two_pow_pos _
  refine Nat.mul_pos ?_ up
  split <;> omega

theorem Interval.pos_of_contains {i : Interval} {n unit : Nat} (low : 0 < i.low)
    (positive : 0 < unit) (inside : i.contains n unit = true) : 0 < n := by
  have least : 0 < i.low * unit := Nat.mul_pos low positive
  have above : i.low * unit ≤ n * i.unit := by
    rw [contains] at inside
    split at inside
    · rw [Bool.and_eq_true, decide_eq_true_eq] at inside
      exact inside.1
    · rw [Bool.and_eq_true, decide_eq_true_eq] at inside
      exact Nat.le_of_lt inside.1
  exact Nat.pos_of_mul_pos_right (Nat.lt_of_lt_of_le least above)

theorem Interval.onGrid_pos {i : Interval} (low : 0 < i.low) {point : Int} {s : Scaled}
    (h : i.onGrid point = some s) : 0 < s.coefficient := by
  have scale : 0 < Nat.pow 10 (-point).toNat := Nat.pow_pos (by decide)
  have down : ∀ n, i.contains (n * Nat.pow 10 point.toNat) (Nat.pow 10 (-point).toNat) = true →
      0 < n :=
    fun n inside => Nat.pos_of_mul_pos_right (pos_of_contains low scale inside)
  simp only [onGrid] at h
  split at h
  · next both =>
      rw [Bool.and_eq_true] at both
      split at h
      · cases h
        exact down _ both.1
      · cases h
        exact Nat.succ_pos _
  · split at h
    · next inside =>
        cases h
        exact down _ inside
    · split at h
      · cases h
        exact Nat.succ_pos _
      · cases h

theorem shortest_pos {significand : Nat} (positive : 0 < significand) (exponent : Int) :
    0 < (shortest significand exponent).coefficient := by
  rw [shortest]
  cases found : (List.range' 1 17).findSome? fun (digits : Nat) =>
      (Interval.around significand exponent).onGrid
        ((Interval.around significand exponent).decade - digits) with
  | none => exact positive
  | some s =>
      obtain ⟨digits, -, here⟩ := List.exists_of_findSome?_eq_some found
      exact Interval.onGrid_pos (Interval.low_pos positive exponent) here

/-- Not all digits of a positive number are zeros. -/
theorem trailingZeros_lt {n : Nat} (positive : 0 < n) :
    ((Nat.toDigits 10 n).reverse.takeWhile (· = '0')).length < (Nat.toDigits 10 n).length := by
  have front := List.takeWhile_prefix (· = '0') (l := (Nat.toDigits 10 n).reverse)
  refine Nat.lt_of_not_le fun all => Json.head_toDigits positive ?_
  have whole := front.eq_of_length_le (by rwa [List.length_reverse])
  cases digits : Nat.toDigits 10 n with
  | nil => exact absurd digits Nat.toDigits_ne_nil
  | cons c more =>
      have inside : c ∈ (Nat.toDigits 10 n).reverse.takeWhile (· = '0') := by
        rw [whole, digits]
        simp
      rw [List.head?_cons, of_decide_eq_true (List.all_eq_true.mp List.all_takeWhile c inside)]

theorem Scaled.trimmed_pos {s : Scaled} (positive : 0 < s.coefficient) :
    0 < s.trimmed.coefficient := by
  have size : Nat.pow 10 ((Nat.toDigits 10 s.coefficient).reverse.takeWhile (· = '0')).length ≤
      s.coefficient := by
    have fewer := trailingZeros_lt positive
    rcases Nat.eq_zero_or_pos
      ((Nat.toDigits 10 s.coefficient).reverse.takeWhile (· = '0')).length with none | some
    · rw [none]
      exact positive
    · refine Nat.le_of_not_lt fun small => ?_
      have short := (Nat.length_toDigits_le_iff (by decide) some).mpr small
      omega
  rw [trimmed, if_neg (Nat.ne_of_gt positive)]
  exact Nat.div_pos size (Nat.pow_pos (by decide))

end Decimal

namespace Json

open Decimal

/-- A positive decimal as it stands in a document. -/
def decimalParts (s : Scaled) : Parts :=
  let digits := Nat.toDigits 10 s.coefficient
  let e := s.point + (digits.length : Int) - 1
  if Layout.document.positional e then
    if 0 ≤ s.point then
      { whole := digits ++ List.replicate s.point.toNat '0', fraction := some ['0'] }
    else if 0 ≤ e then
      { whole := digits.take (e + 1).toNat, fraction := some (digits.drop (e + 1).toNat) }
    else { whole := ['0'], fraction := some (List.replicate (-e - 1).toNat '0' ++ digits) }
  else
    { whole := digits.take 1
      fraction := if digits.length = 1 then none else some (digits.drop 1)
      exponent := some (e < 0, Nat.toDigits 10 e.natAbs) }

theorem exponentChars_some (e : Int) :
    exponentChars (some (e < 0, Nat.toDigits 10 e.natAbs)) =
      'e' :: ((if e < 0 then "-" else "+") : String).toList ++ Nat.toDigits 10 e.natAbs := by
  by_cases negative : e < 0
  · simp [exponentChars, negative]
  · simp [exponentChars, negative]

theorem unsigned_decimalParts (s : Scaled) :
    (decimalParts s).unsigned = (Layout.document.place s).toList := by
  rw [decimalParts, Layout.place]
  split
  · split
    · simp [Parts.unsigned, fractionChars, exponentChars, Layout.document]
    · split
      · simp [Parts.unsigned, fractionChars, exponentChars]
      · simp [Parts.unsigned, fractionChars, exponentChars]
  · generalize s.point + ((Nat.toDigits 10 s.coefficient).length : Int) - 1 = e
    cases digits : Nat.toDigits 10 s.coefficient with
    | nil => exact absurd digits Nat.toDigits_ne_nil
    | cons d rest =>
        cases rest with
        | nil => simp [Parts.unsigned, fractionChars, exponentChars_some]
        | cons d' rest => simp [Parts.unsigned, fractionChars, exponentChars_some]

theorem Run.append {xs ys : List Char} (hx : Run xs) (hy : ∀ c ∈ ys, IsDigit c) :
    Run (xs ++ ys) :=
  ⟨List.append_ne_nil_of_left_ne_nil hx.nonempty ys, List.forall_mem_append.mpr ⟨hx.digit, hy⟩⟩

theorem isDigit_of_mem_zeros {n : Nat} : ∀ c ∈ List.replicate n '0', IsDigit c := by
  intro c inside
  rw [List.eq_of_mem_replicate inside]
  decide

theorem run_zero : Run ['0'] := ⟨nofun, List.forall_mem_singleton.mpr (by decide)⟩

theorem run_take_toDigits (c : Nat) {n : Nat} (some : 0 < n) :
    Run ((Nat.toDigits 10 c).take n) := by
  have length : 0 < (Nat.toDigits 10 c).length := Nat.length_toDigits_pos
  refine ⟨List.ne_nil_of_length_pos ?_,
    fun d inside => (run_toDigits c).digit d (List.mem_of_mem_take inside)⟩
  rw [List.length_take]
  omega

theorem run_drop_toDigits {c n : Nat} (fewer : n < (Nat.toDigits 10 c).length) :
    Run ((Nat.toDigits 10 c).drop n) := by
  refine ⟨List.ne_nil_of_length_pos ?_,
    fun d inside => (run_toDigits c).digit d (List.mem_of_mem_drop inside)⟩
  rw [List.length_drop]
  omega

theorem leadsWell_take_toDigits {c n : Nat} (positive : 0 < c) (some : 0 < n) :
    LeadsWell ((Nat.toDigits 10 c).take n) := by
  intro begins
  rw [List.head?_take, if_neg (by omega)] at begins
  exact absurd begins (head_toDigits positive)

theorem wellFormed_decimalParts {s : Scaled} (positive : 0 < s.coefficient) :
    (decimalParts s).WellFormed := by
  have run := run_toDigits s.coefficient
  have length : 0 < (Nat.toDigits 10 s.coefficient).length := Nat.length_toDigits_pos
  rw [decimalParts]
  split
  · split
    · refine ⟨run.append isDigit_of_mem_zeros, fun begins => ?_, ?_, nofun⟩
      · have head := head_toDigits positive
        obtain ⟨c, more, digits⟩ := List.exists_cons_of_ne_nil run.nonempty
        rw [digits] at head begins
        exact absurd begins head
      · rintro cs ⟨⟩
        exact run_zero
    · split
      · refine ⟨run_take_toDigits _ (by omega), leadsWell_take_toDigits positive (by omega), ?_,
          nofun⟩
        rintro cs ⟨⟩
        exact run_drop_toDigits (by omega)
      · refine ⟨run_zero, fun _ => rfl, ?_, nofun⟩
        rintro cs ⟨⟩
        exact ⟨List.append_ne_nil_of_right_ne_nil _ run.nonempty,
          List.forall_mem_append.mpr ⟨isDigit_of_mem_zeros, run.digit⟩⟩
  · refine ⟨run_take_toDigits _ Nat.one_pos, leadsWell_take_toDigits positive Nat.one_pos, ?_, ?_⟩
    · intro cs fraction
      dsimp only at fraction
      split at fraction
      · cases fraction
      · cases fraction
        exact run_drop_toDigits (by omega)
    · rintro e ⟨⟩
      exact run_toDigits _

/-- A double as it stands in a document. -/
def realParts (negative : Bool) (significand : Nat) (exponent : Int) : Parts :=
  if significand = 0 then { negative, whole := ['0'], fraction := some ['0'] }
  else { decimalParts (shortest significand exponent).trimmed with negative }

theorem chars_realParts {x : Float} {negative : Bool} {significand : Nat} {exponent : Int}
    (finite : Binary.ofFloat x = .finite negative significand exponent) :
    (realParts negative significand exponent).chars = (Layout.document.write x).toList := by
  have unsigned : (realParts negative significand exponent).unsigned =
      (if significand = 0 then "0" ++ Layout.document.wholeEnd
        else Layout.document.place (shortest significand exponent).trimmed).toList := by
    rw [realParts]
    split
    · rfl
    · exact unsigned_decimalParts _
  have sign : (realParts negative significand exponent).negative = negative := by
    rw [realParts]
    split <;> rfl
  rw [Parts.chars, sign, unsigned, Layout.write, finite]
  cases negative with
  | true =>
      simp only [if_true, String.toList_append]
      rfl
  | false => rfl

theorem wellFormed_realParts (negative : Bool) (significand : Nat) (exponent : Int) :
    (realParts negative significand exponent).WellFormed := by
  rw [realParts]
  split
  · refine ⟨run_zero, fun _ => rfl, ?_, nofun⟩
    rintro cs ⟨⟩
    exact run_zero
  · next positive =>
      have formed := wellFormed_decimalParts
        (Scaled.trimmed_pos (shortest_pos (Nat.pos_of_ne_zero positive) exponent))
      exact ⟨formed.whole, formed.leads, formed.fraction, formed.exponent⟩

end Json

end SealedTree
