import Mathlib
import SealedTree.Duration

/-!
Arithmetic with doubles from below. What an operation gives is the exact result but for one part in
`2 ^ 52`, as long as the result is not too small for a significand of full length.
-/

namespace SealedTree.Doubles

open Float.Model Float.Model.UnpackedFloat

/-- What is kept of a number when it is rounded. -/
def kept : ℚ := 1 - 1 / 2 ^ 52

theorem kept_pos : 0 < kept := by norm_num [kept]

theorem kept_le_one : kept ≤ 1 := by norm_num [kept]

/-- The double is no less than the number; it may be infinite, and has a significand of full length
if it is positive. -/
inductive AtLeast (v : ℚ) : UnpackedFloat → Prop
  | infinity : AtLeast v (.infinity .positive)
  | zero (none : v ≤ 0) : AtLeast v (.zero .positive)
  | finite {m : Nat} {e : Int} {positive : 0 < m} (full : 2 ^ 52 ≤ m) (fits : m < 2 ^ 53)
      (low : -1074 ≤ e) (bound : v ≤ m * 2 ^ e) : AtLeast v (.finite .positive m e positive)

variable {v w : ℚ} {a b : UnpackedFloat} {m n : Nat} {e : Int}

theorem AtLeast.of_le (h : AtLeast v a) (less : w ≤ v) : AtLeast w a := by
  cases h with
  | infinity => exact .infinity
  | zero none => exact .zero (less.trans none)
  | finite full fits low bound => exact .finite full fits low (less.trans bound)

section Rounding

theorem mantissa_shiftRight (x : ExtendedMantissa) (n : Nat) :
    (x >>> n).mantissa = x.mantissa / 2 ^ n := by
  induction n with
  | zero => exact (Nat.div_one _).symm
  | succ n ih =>
      change (x >>> n).mantissa / 2 = _
      rw [ih, Nat.div_div_eq_div_mul, Nat.pow_succ]

theorem mantissa_ofMantissaAndAccuracy (m : Nat) (accuracy : Accuracy) :
    (ExtendedMantissa.ofMantissaAndAccuracy m accuracy).mantissa = m := by
  rcases accuracy with _ | order
  · rfl
  · cases order <;> rfl

theorem roundedMantissa_bounds (x : ExtendedMantissa) :
    x.mantissa ≤ x.roundedMantissa ∧ x.roundedMantissa ≤ x.mantissa + 1 := by
  obtain ⟨mantissa, round, sticky⟩ := x
  rw [ExtendedMantissa.roundedMantissa]
  cases round <;> cases sticky <;>
    simp only [ExtendedMantissa.accuracy, Accuracy.roundToNearestEven] <;> omega

theorem log2_of_full (full : 2 ^ 52 ≤ m) : 52 ≤ m.log2 :=
  (Nat.le_log2 (by omega)).mpr full

theorem log2_eq_of_full (full : 2 ^ 52 ≤ m) (fits : m < 2 ^ 53) : m.log2 = 52 :=
  (Nat.log2_eq_iff (by omega)).mpr ⟨full, fits⟩

theorem targetExponent_of_full (full : 2 ^ 52 ≤ m) (low : -1074 ≤ e) :
    Format.binary64.targetExponent (totalExponent m e) = e + (m.log2 - 52 : Nat) := by
  have long := log2_of_full full
  change max ((m.log2 : Int) + 1 + e - 53) (-1074) = _
  omega

theorem shiftToTargetExponent_of_full (full : 2 ^ 52 ≤ m) (low : -1074 ≤ e)
    (accuracy : Accuracy) :
    shiftToTargetExponent .binary64 m e accuracy =
      (ExtendedMantissa.ofMantissaAndAccuracy m accuracy >>> (m.log2 - 52),
        e + (m.log2 - 52 : Nat)) := by
  have shift : (e + (m.log2 - 52 : Nat) - e).toNat = m.log2 - 52 := by omega
  simp only [shiftToTargetExponent, targetExponent_of_full full low, shiftToExponent, shift]

/-- The digits that a shift to full length leaves. -/
theorem div_two_pow_of_full (full : 2 ^ 52 ≤ m) :
    2 ^ 52 ≤ m / 2 ^ (m.log2 - 52) ∧ m / 2 ^ (m.log2 - 52) < 2 ^ 53 := by
  have long := log2_of_full full
  have lower : 2 ^ (52 + (m.log2 - 52)) ≤ m := by
    rw [Nat.add_sub_of_le long]
    exact Nat.log2_self_le (by omega)
  have upper : m < 2 ^ (53 + (m.log2 - 52)) := by
    rw [show 53 + (m.log2 - 52) = m.log2 + 1 by omega]
    exact Nat.lt_log2_self
  rw [Nat.pow_add] at lower upper
  exact ⟨(Nat.le_div_iff_mul_le (Nat.two_pow_pos _)).mpr lower,
    (Nat.div_lt_iff_lt_mul (Nat.two_pow_pos _)).mpr upper⟩

/-- A significand of full length says what it was cut from but for the part that is lost. -/
theorem succ_mul_kept_le {q : Nat} (full : 2 ^ 52 ≤ q) : ((q : ℚ) + 1) * kept ≤ q := by
  have full : (2 : ℚ) ^ 52 ≤ q := mod_cast full
  rw [kept]
  linarith

theorem kept_le_shifted (full : 2 ^ 52 ≤ m) :
    m * 2 ^ e * kept ≤ (m / 2 ^ (m.log2 - 52) : Nat) * 2 ^ (e + (m.log2 - 52 : Nat)) := by
  have digits := succ_mul_kept_le (div_two_pow_of_full full).1
  generalize m.log2 - 52 = s at *
  have cut : m ≤ (m / 2 ^ s + 1) * 2 ^ s := by
    rw [Nat.add_mul, Nat.one_mul]
    exact (Nat.lt_div_mul_add (Nat.two_pow_pos s)).le
  generalize m / 2 ^ s = q at *
  have cut : (m : ℚ) ≤ (q + 1) * 2 ^ s := mod_cast cut
  have := kept_pos
  calc m * 2 ^ e * kept ≤ (q + 1) * 2 ^ s * 2 ^ e * kept := by gcongr
    _ = (q + 1) * kept * 2 ^ (e + s) := by
        rw [zpow_add₀ two_ne_zero, zpow_natCast]
        ring
    _ ≤ q * 2 ^ (e + s) := by gcongr

/-- Rounding up to the next power of two only moves the point. -/
theorem finished_of_rounded {r : Nat} (full : 2 ^ 52 ≤ r) (fits : r ≤ 2 ^ 53) :
    2 ^ 52 ≤ r / 2 ^ (r.log2 - 52) ∧ r / 2 ^ (r.log2 - 52) < 2 ^ 53 ∧
      (r / 2 ^ (r.log2 - 52)) * 2 ^ (r.log2 - 52) = r := by
  refine ⟨(div_two_pow_of_full full).1, (div_two_pow_of_full full).2, ?_⟩
  by_cases top : r = 2 ^ 53
  · rw [top, Nat.log2_two_pow]
    decide
  · rw [log2_eq_of_full full (by omega), Nat.sub_self, Nat.pow_zero, Nat.div_one, Nat.mul_one]

theorem atLeast_roundWithAccuracy (full : 2 ^ 52 ≤ m) (low : -1074 ≤ e) (bound : v ≤ m * 2 ^ e)
    (accuracy : Accuracy) :
    AtLeast (v * kept) (roundWithAccuracy .binary64 .positive m e accuracy) := by
  have digits := div_two_pow_of_full full
  have loss := kept_le_shifted (e := e) full
  have rounded := roundedMantissa_bounds
    (ExtendedMantissa.ofMantissaAndAccuracy m accuracy >>> (m.log2 - 52))
  rw [mantissa_shiftRight, mantissa_ofMantissaAndAccuracy] at rounded
  rw [roundWithAccuracy, shiftToTargetExponent_of_full full low]
  dsimp only
  generalize (ExtendedMantissa.ofMantissaAndAccuracy m accuracy >>>
    (m.log2 - 52)).roundedMantissa = r at *
  have fullRounded : 2 ^ 52 ≤ r := digits.1.trans rounded.1
  obtain ⟨fullEnd, fitsEnd, same⟩ := finished_of_rounded fullRounded (by omega)
  rw [shiftToTargetExponent_of_full fullRounded (by omega)]
  dsimp only
  rw [mantissa_shiftRight, mantissa_ofMantissaAndAccuracy, dif_neg (by omega)]
  refine .finite fullEnd fitsEnd (by omega) ?_
  have value : ((r / 2 ^ (r.log2 - 52) : Nat) : ℚ) * 2 ^ (r.log2 - 52) = r := mod_cast same
  have down : ((m / 2 ^ (m.log2 - 52) : Nat) : ℚ) ≤ r := mod_cast rounded.1
  calc v * kept ≤ m * 2 ^ e * kept := by
        have := kept_pos
        gcongr
    _ ≤ (m / 2 ^ (m.log2 - 52) : Nat) * 2 ^ (e + (m.log2 - 52 : Nat)) := loss
    _ ≤ r * 2 ^ (e + (m.log2 - 52 : Nat)) := by gcongr
    _ = (r / 2 ^ (r.log2 - 52) : Nat) *
          2 ^ (e + (m.log2 - 52 : Nat) + (r.log2 - 52 : Nat)) := by
        rw [← value, zpow_add₀ two_ne_zero (e + (m.log2 - 52 : Nat)), zpow_natCast]
        ring

theorem atLeast_round (positive : 0 < m) (low : -1074 ≤ e - (52 - m.log2 : Nat))
    (bound : v ≤ m * 2 ^ e) :
    AtLeast (v * kept) (UnpackedFloat.round .binary64 .positive m e) := by
  have target : Format.binary64.targetExponent (totalExponent m e) = e + m.log2 - 52 := by
    change max ((m.log2 : Int) + 1 + e - 53) (-1074) = _
    omega
  have shift : (e - (e + m.log2 - 52)).toNat = 52 - m.log2 := by omega
  have full : 2 ^ 52 ≤ m * 2 ^ (52 - m.log2) := by
    have leading : 2 ^ m.log2 ≤ m := Nat.log2_self_le (by omega)
    calc 2 ^ 52 ≤ 2 ^ (m.log2 + (52 - m.log2)) := Nat.pow_le_pow_right two_pos (by omega)
      _ = 2 ^ m.log2 * 2 ^ (52 - m.log2) := Nat.pow_add ..
      _ ≤ m * 2 ^ (52 - m.log2) := Nat.mul_le_mul_right _ leading
  simp only [UnpackedFloat.round, target, decreaseExponent, shift, Nat.shiftLeft_eq]
  refine atLeast_roundWithAccuracy full low (bound.trans_eq ?_) .exact
  rw [zpow_sub₀ two_ne_zero, zpow_natCast, Nat.cast_mul, Nat.cast_pow, Nat.cast_ofNat]
  field_simp

end Rounding

section Packing

theorem unpack_pack_of_full {positive : 0 < m} (full : 2 ^ 52 ≤ m) (fits : m < 2 ^ 53)
    (low : -1074 ≤ e) (high : e ≤ 971) (sign : Sign) :
    UnpackedFloat.unpack .binary64 (UnpackedFloat.pack .binary64 (.finite sign m e positive)) =
      .finite sign m e positive := by
  have log := log2_eq_of_full full fits
  have biased : (e + Format.binary64.exponentBias + (52 : Nat)).toNat = (e + 1075).toNat := by
    change (e + 1023 + 52).toNat = _
    omega
  have normal : 52 + 1 = Format.binary64.mantissaBits := rfl
  have inner : ¬2 ^ 11 ≤ (e + 1075).toNat + 1 := by omega
  have field : (BitVec.ofNat 11 (e + 1075).toNat).toNat = (e + 1075).toNat :=
    BitVec.toNat_ofNat .. |>.trans (Nat.mod_eq_of_lt (by omega))
  have notTop : BitVec.ofNat 11 (e + 1075).toNat ≠ -1#11 := by
    intro same
    have top : (-1#11 : BitVec 11).toNat = 2047 := rfl
    rw [← same, field] at top
    omega
  have notBottom : BitVec.ofNat 11 (e + 1075).toNat ≠ 0#11 := by
    intro same
    have bottom : (0#11 : BitVec 11).toNat = 0 := rfl
    rw [← same, field] at bottom
    omega
  have whole : (1#1 ++ BitVec.ofNat 52 m).toNat = m := by
    rw [BitVec.toNat_append, BitVec.toNat_ofNat, Nat.shiftLeft_eq]
    change 1 * 2 ^ 52 ||| m % 2 ^ 52 = m
    rw [Nat.one_mul, Nat.or_comm, Nat.or_two_pow_eq_add_of_lt (Nat.mod_lt m (Nat.two_pow_pos 52))]
    omega
  simp only [UnpackedFloat.pack, log]
  rw [biased, if_neg inner, if_pos normal, UnpackedFloat.unpack]
  simp only [unpackExponent_packComponents, unpackMantissa_packComponents,
    unpackSign_packComponents, Sign.ofBitVec_toBitVec, if_neg notTop, if_neg notBottom, whole,
    field]
  have exponent : ((e + 1075).toNat : Int) - (Format.binary64.exponentBias + (52 : Nat)) = e := by
    change ((e + 1075).toNat : Int) - (1023 + 52) = e
    omega
  simp only [exponent]

theorem unpack_pack_of_large {positive : 0 < m} (high : 971 < e) (sign : Sign) :
    UnpackedFloat.unpack .binary64 (UnpackedFloat.pack .binary64 (.finite sign m e positive)) =
      .infinity sign := by
  have outer : 2 ^ 11 ≤ (e + Format.binary64.exponentBias + (52 : Nat)).toNat + 1 := by
    change 2 ^ 11 ≤ (e + 1023 + 52).toNat + 1
    omega
  simp only [UnpackedFloat.pack, if_pos outer]
  cases sign <;> rfl

theorem AtLeast.repacked (h : AtLeast v a) : AtLeast v (Float.Model.pack a).unpack := by
  cases h with
  | infinity => exact .infinity
  | zero none => exact .zero none
  | @finite m e positive full fits low bound =>
      change AtLeast v (UnpackedFloat.unpack .binary64 (UnpackedFloat.pack .binary64 _))
      by_cases high : e ≤ 971
      · rw [unpack_pack_of_full full fits low high]
        exact .finite full fits low bound
      · rw [unpack_pack_of_large (not_le.mp high)]
        exact .infinity

end Packing

section Bits

variable (b : BitVec 64)

theorem toNat_unpackMantissa :
    (@unpackMantissa .binary64 b).toNat = b.toNat % Decimal.implicitBit := by
  rw [unpackMantissa_def, BitVec.extractLsb'_toNat]
  rfl

theorem toNat_unpackExponent : (@unpackExponent .binary64 b).toNat = b.toNat >>> 52 % 2048 := by
  rw [unpackExponent_def, BitVec.extractLsb'_toNat]
  rfl

theorem toNat_unpackSign : (@unpackSign .binary64 b).toNat = b.toNat >>> 63 := by
  have top : b.toNat >>> 63 < 2 := by
    have := b.isLt
    rw [Nat.shiftRight_eq_div_pow]
    omega
  rw [unpackSign_def, BitVec.extractLsb'_toNat]
  exact Nat.mod_eq_of_lt top

theorem isNegative_unpackSign :
    (Sign.ofBitVec (@unpackSign .binary64 b) == .negative) = (b.toNat >>> 63 == 1) := by
  have all : ∀ s : BitVec 1, (Sign.ofBitVec s == .negative) = (s.toNat == 1) := by decide
  rw [all, toNat_unpackSign]

theorem toNat_leading :
    (1#1 ++ @unpackMantissa .binary64 b).toNat =
      (@unpackMantissa .binary64 b).toNat + Decimal.implicitBit := by
  have fits : (@unpackMantissa .binary64 b).toNat < 2 ^ 52 := (@unpackMantissa .binary64 b).isLt
  rw [BitVec.toNat_append, Nat.shiftLeft_eq]
  change 1 * 2 ^ 52 ||| _ = _
  rw [Nat.one_mul, Nat.or_comm, Nat.or_two_pow_eq_add_of_lt fits]
  rfl

end Bits

/-- What a double stands for. -/
theorem ofFloat_eq (x : Float) :
    Decimal.Binary.ofFloat x = match x.toModel.unpack with
      | .infinity sign => .infinite (sign == .negative)
      | .notANumber => .notANumber
      | .zero sign => .finite (sign == .negative) 0 (-1074)
      | .finite sign m e _ => .finite (sign == .negative) m e := by
  rw [Decimal.Binary.ofFloat, Float.Model.unpack, UnpackedFloat.unpack]
  have bits : x.toBits.toNat = x.toModel.toBits.toBitVec.toNat := rfl
  dsimp only
  rw [bits]
  generalize x.toModel.toBits.toBitVec = b
  rw [← isNegative_unpackSign, ← toNat_unpackExponent, ← toNat_unpackMantissa]
  have top : @unpackExponent .binary64 b = -1#11 ↔ (@unpackExponent .binary64 b).toNat = 2047 :=
    BitVec.toNat_inj.symm
  have bottom : @unpackExponent .binary64 b = 0#11 ↔ (@unpackExponent .binary64 b).toNat = 0 :=
    BitVec.toNat_inj.symm
  have none : @unpackMantissa .binary64 b = 0#52 ↔ (@unpackMantissa .binary64 b).toNat = 0 :=
    BitVec.toNat_inj.symm
  simp only [top, bottom, none]
  by_cases high : (@unpackExponent .binary64 b).toNat = 2047
  · rw [if_pos high, if_pos high]
    split
    · rfl
    · rfl
  · rw [if_neg high, if_neg high]
    by_cases low : (@unpackExponent .binary64 b).toNat = 0
    · rw [if_pos low, if_pos low]
      by_cases zero : (@unpackMantissa .binary64 b).toNat = 0
      · rw [dif_pos zero, zero]
      · rw [dif_neg zero, low]
        rfl
    · rw [if_neg low, if_neg low, ← toNat_leading]
      rfl

theorem fields_of_ofFloat {x : Float} {negative : Bool} {m : Nat} {e : Int}
    (h : Decimal.Binary.ofFloat x = .finite negative m e) :
    m < 2 ^ 53 ∧ (-1074 < e → 2 ^ 52 ≤ m) := by
  have fits : x.toBits.toNat % Decimal.implicitBit < 2 ^ 52 := Nat.mod_lt _ (by decide)
  have bit : Decimal.implicitBit = 2 ^ 52 := rfl
  rw [Decimal.Binary.ofFloat] at h
  split at h
  · split at h
    · cases h
    · cases h
  · split at h
    · cases h
      omega
    · cases h
      omega

section Operations

theorem exponent_ge (fits : m < 2 ^ 53) (bound : v ≤ m * 2 ^ e) (large : 2 ^ (-100 : Int) ≤ v) :
    -153 < e := by
  have fits : (m : ℚ) < 2 ^ (53 : Int) := mod_cast fits
  have total : (2 : ℚ) ^ (-100 : Int) < 2 ^ (53 + e) := by
    calc (2 : ℚ) ^ (-100 : Int) ≤ m * 2 ^ e := large.trans bound
      _ < 2 ^ (53 : Int) * 2 ^ e := by gcongr
      _ = 2 ^ (53 + e) := (zpow_add₀ two_ne_zero ..).symm
  have exponents := (zpow_lt_zpow_iff_right₀ one_lt_two).mp total
  omega

theorem AtLeast.mul (ha : AtLeast v a) (hb : AtLeast w b) (hv : 2 ^ (-100 : Int) ≤ v)
    (hw : 2 ^ (-100 : Int) ≤ w) : AtLeast (v * w * kept) (.mul .binary64 a b) := by
  have small : (0 : ℚ) < 2 ^ (-100 : Int) := by positivity
  cases ha with
  | zero none => linarith
  | infinity =>
      cases hb with
      | zero none => linarith
      | infinity | finite _ _ _ _ => exact .infinity
  | @finite m e _ full fits low bound =>
      cases hb with
      | zero none => linarith
      | infinity => exact .infinity
      | @finite n f _ full' fits' low' bound' =>
          have high := exponent_ge fits bound hv
          have high' := exponent_ge fits' bound' hw
          have both : 2 ^ 52 ≤ m * n := full.trans (Nat.le_mul_of_pos_right m (by omega))
          refine atLeast_roundWithAccuracy both (by omega) ?_ .exact
          calc v * w ≤ (m * 2 ^ e) * (n * 2 ^ f) := by
                have : 0 ≤ w := by linarith
                gcongr
            _ = ((m * n : Nat) : ℚ) * 2 ^ (e + f) := by
                rw [zpow_add₀ two_ne_zero, Nat.cast_mul]
                ring

/-- A significand brought to a smaller exponent. -/
theorem decreaseExponent_value (m : Nat) {e f : Int} (below : f ≤ e) :
    ((decreaseExponent m e f).1 : ℚ) * 2 ^ f = m * 2 ^ e := by
  have shift : ((e - f).toNat : Int) = e - f := by omega
  rw [decreaseExponent, Nat.shiftLeft_eq, Nat.cast_mul, Nat.cast_pow, Nat.cast_ofNat,
    ← zpow_natCast, shift, mul_assoc, ← zpow_add₀ two_ne_zero, sub_add_cancel]

theorem le_decreaseExponent (m : Nat) (e f : Int) : m ≤ (decreaseExponent m e f).1 := by
  rw [decreaseExponent, Nat.shiftLeft_eq]
  exact Nat.le_mul_of_pos_right m (Nat.two_pow_pos _)

theorem normalize_of_pos (positive : 0 < m) (e : Int) :
    UnpackedFloat.normalize .binary64 (m : Int) e .positive =
      UnpackedFloat.round .binary64 .positive m e := by
  have order : compare (m : Int) 0 = .gt := Int.compare_eq_gt.mpr (by omega)
  rw [UnpackedFloat.normalize, order, Int.toNat_natCast]

theorem AtLeast.add (ha : AtLeast v a) (hb : AtLeast w b) (hv : 0 ≤ v) (hw : 0 ≤ w) :
    AtLeast ((v + w) * kept) (.add .binary64 a b) := by
  have lost : (v + w) * kept ≤ v + w := mul_le_of_le_one_right (by linarith) kept_le_one
  cases ha with
  | infinity =>
      cases hb with
      | infinity | zero _ | finite _ _ _ _ => exact .infinity
  | zero none =>
      cases hb with
      | infinity => exact .infinity
      | zero none' => exact .zero (by linarith)
      | finite full fits low bound => exact .finite full fits low (by linarith)
  | @finite m e positive full fits low bound =>
      cases hb with
      | infinity => exact .infinity
      | zero none' => exact .finite full fits low (by linarith)
      | @finite n f positive' full' fits' low' bound' =>
          have least := le_decreaseExponent m e (min e f)
          have value := decreaseExponent_value m (min_le_left e f)
          have value' := decreaseExponent_value n (min_le_right e f)
          change AtLeast _ (UnpackedFloat.normalize .binary64
            (((decreaseExponent m e (min e f)).1 : Int) +
              ((decreaseExponent n f (min e f)).1 : Int)) (min e f) .positive)
          rw [← Nat.cast_add, normalize_of_pos (by omega)]
          have long := log2_of_full (full.trans (least.trans (Nat.le_add_right _
            (decreaseExponent n f (min e f)).1)))
          refine atLeast_round (by omega) (by omega) ?_
          rw [Nat.cast_add, add_mul, value, value']
          exact add_le_add bound bound'

theorem atLeast_ofNat (n : Nat) : AtLeast (n * kept) (UnpackedFloat.ofNat .binary64 n) := by
  by_cases positive : 0 < n
  · rw [UnpackedFloat.ofNat, UnpackedFloat.ofInt, normalize_of_pos positive]
    exact atLeast_round positive (by omega) (by rw [zpow_zero, mul_one])
  · obtain rfl : n = 0 := by omega
    exact .zero (by rw [Nat.cast_zero, zero_mul])

theorem divCore_of_full {f : Int} (full : 2 ^ 52 ≤ m) (fits : m < 2 ^ 53) (full' : 2 ^ 52 ≤ n)
    (fits' : n < 2 ^ 53) (low : -1021 ≤ e - f) :
    divCore .binary64 m e n f =
      (m * 2 ^ 53 / n, e - f - 53, accuracyOfFraction (m * 2 ^ 53 % n) n) := by
  have target : min (e - f) (Format.binary64.targetExponent
      (totalExponent m e - totalExponent n f)) = e - f - 53 := by
    rw [totalExponent, totalExponent, log2_eq_of_full full fits, log2_eq_of_full full' fits']
    change min (e - f) (max ((52 : Nat) + 1 + e - ((52 : Nat) + 1 + f) - 53) (-1074)) = _
    omega
  have shift : (e - f - (e - f - 53)).toNat = 53 := by omega
  rw [divCore]
  simp only [target, shift, Nat.shiftLeft_eq]

theorem kept_le_quotient {f : Int} (positive : 0 < n) (quotient : 2 ^ 52 ≤ m * 2 ^ 53 / n) :
    m * 2 ^ e / (n * 2 ^ f) * kept ≤ (m * 2 ^ 53 / n : Nat) * 2 ^ (e - f - 53) := by
  have digits := succ_mul_kept_le quotient
  have cut : m * 2 ^ 53 ≤ (m * 2 ^ 53 / n + 1) * n := by
    rw [Nat.add_mul, Nat.one_mul]
    exact (Nat.lt_div_mul_add positive).le
  generalize m * 2 ^ 53 / n = q at *
  have cut : (m : ℚ) * 2 ^ 53 / n ≤ q + 1 :=
    (div_le_iff₀ (Nat.cast_pos.mpr positive)).mpr (mod_cast cut)
  have := kept_pos
  calc m * 2 ^ e / (n * 2 ^ f) * kept = m * 2 ^ 53 / n * kept * 2 ^ (e - f - 53) := by
        rw [zpow_sub₀ two_ne_zero, zpow_sub₀ two_ne_zero]
        field_simp
    _ ≤ (q + 1) * kept * 2 ^ (e - f - 53) := by gcongr
    _ ≤ q * 2 ^ (e - f - 53) := by gcongr

theorem AtLeast.div {f : Int} {positive : 0 < n} (ha : AtLeast v a) (hv : 2 ^ (-100 : Int) ≤ v)
    (full : 2 ^ 52 ≤ n) (fits : n < 2 ^ 53) (near : f ≤ 0) :
    AtLeast (v / (n * 2 ^ f) * kept * kept)
      (.div .binary64 a (.finite .positive n f positive)) := by
  cases ha with
  | infinity => exact .infinity
  | zero none =>
      have small : (0 : ℚ) < 2 ^ (-100 : Int) := by positivity
      linarith
  | @finite m e positive' full' fits' low bound =>
      have high := exponent_ge fits' bound hv
      have quotient : 2 ^ 52 ≤ m * 2 ^ 53 / n := by
        refine (Nat.le_div_iff_mul_le positive).mpr ?_
        omega
      change AtLeast _ (roundWithAccuracy .binary64 .positive (divCore .binary64 m e n f).1
        (divCore .binary64 m e n f).2.1 (divCore .binary64 m e n f).2.2)
      rw [divCore_of_full full' fits' full fits (by omega)]
      dsimp only
      refine atLeast_roundWithAccuracy quotient (by omega) ?_ _
      refine le_trans ?_ (kept_le_quotient positive quotient)
      have := kept_pos
      gcongr

end Operations

/-- A factor that is no less than one. -/
theorem atLeast_one {factor : Float} (accepted : 1.0 ≤ factor) :
    AtLeast 1 factor.toModel.unpack := by
  have one : (1.0 : Float).toModel.unpack = .finite .positive 4503599627370496 (-52) (by decide) :=
    rfl
  have ordered : (1.0 : Float).toModel.unpack.le factor.toModel.unpack = true :=
    of_decide_eq_true (p := (1.0 : Float).toModel.le factor.toModel = true) accepted
  have meaning := ofFloat_eq factor
  rw [one] at ordered
  cases unpacked : factor.toModel.unpack with
  | infinity sign =>
      rw [unpacked] at ordered
      cases sign with
      | positive => exact .infinity
      | negative => cases ordered
  | notANumber =>
      rw [unpacked] at ordered
      cases ordered
  | zero sign =>
      rw [unpacked] at ordered
      cases sign <;> cases ordered
  | finite sign m e positive =>
      rw [unpacked] at ordered meaning
      cases sign with
      | negative => cases ordered
      | positive =>
          obtain ⟨fits, full⟩ := fields_of_ofFloat meaning
          have order : ((compare (-52 : Int) e).then (compare 4503599627370496 m)).isLE = true :=
            ordered
          obtain least : (-52 : Int) < e ∨ e = -52 ∧ 4503599627370496 ≤ m := by
            rcases Ordering.isLE_then_iff_or.mp order with below | ⟨same, small⟩
            · exact .inl (Int.compare_eq_lt.mp below)
            · exact .inr ⟨(Int.compare_eq_eq.mp same).symm, Nat.isLE_compare.mp small⟩
          have full : 2 ^ 52 ≤ m := full (by omega)
          refine .finite full fits (by omega) ?_
          have full : (2 : ℚ) ^ 52 ≤ m := mod_cast full
          have high : (2 : ℚ) ^ (-52 : Int) ≤ 2 ^ e := zpow_le_zpow_right₀ one_le_two (by omega)
          calc (1 : ℚ) = 2 ^ 52 * 2 ^ (-52 : Int) := by norm_num
            _ ≤ m * 2 ^ e := by gcongr

section Seconds

theorem atLeast_toFloat (n : UInt64) : AtLeast (n.toNat * kept) n.toFloat.toModel.unpack :=
  (atLeast_ofNat n.toNat).repacked

theorem unpack_billion : (1000000000 : UInt64).toFloat.toModel.unpack =
    .finite .positive 8388608000000000 (-23) (by decide) := rfl

/-- The part of a length of time that is no whole second. -/
theorem atLeast_fraction {r : Nat} (part : r < 1000000000) :
    AtLeast (r / 1000000000 * kept ^ 3)
      ((UInt64.ofNat r).toFloat / (1000000000 : UInt64).toFloat).toModel.unpack := by
  by_cases none : r = 0
  · subst none
    exact .zero (by rw [Nat.cast_zero, zero_div, zero_mul])
  · have count : (UInt64.ofNat r).toNat = r := UInt64.toNat_ofNat_of_lt (by
      rw [UInt64.size]
      omega)
    have read := atLeast_toFloat (UInt64.ofNat r)
    rw [count] at read
    have some : (1 : ℚ) ≤ r := mod_cast Nat.one_le_iff_ne_zero.mpr none
    have large : (2 : ℚ) ^ (-100 : Int) ≤ r * kept := by
      rw [kept]
      norm_num
      linarith
    have quotient : AtLeast _ (.div .binary64 (UInt64.ofNat r).toFloat.toModel.unpack
        (.finite .positive 8388608000000000 (-23) (by decide))) :=
      read.div large (by decide) (by decide) (by decide)
    rw [← unpack_billion] at quotient
    refine AtLeast.of_le quotient.repacked (le_of_eq ?_)
    norm_num
    ring

theorem atLeast_toSeconds {d : Nat} (short : d < 2 ^ 64) :
    AtLeast (d / 1000000000 * kept ^ 4) (Duration.toSeconds d).toModel.unpack := by
  have count : (UInt64.ofNat (d / 1000000000)).toNat = d / 1000000000 :=
    UInt64.toNat_ofNat_of_lt (by
      rw [UInt64.size]
      omega)
  have parts := Nat.div_add_mod d 1000000000
  have part := atLeast_fraction (Nat.mod_lt d (by decide : 0 < 1000000000))
  have whole := atLeast_toFloat (UInt64.ofNat (d / 1000000000))
  rw [count] at whole
  have := kept_pos
  have sum := (whole.add part (by positivity) (by positivity)).repacked
  refine AtLeast.of_le sum ?_
  generalize d / 1000000000 = q, d % 1000000000 = r at *
  have parts : (1000000000 : ℚ) * q + r = d := mod_cast parts
  have less : kept ^ 4 ≤ kept ^ 2 := pow_le_pow_of_le_one kept_pos.le kept_le_one (by decide)
  calc (d : ℚ) / 1000000000 * kept ^ 4 = q * kept ^ 4 + r / 1000000000 * kept ^ 4 := by
        rw [← parts]
        ring
    _ ≤ q * kept ^ 2 + r / 1000000000 * kept ^ 4 := by gcongr
    _ = (q * kept + r / 1000000000 * kept ^ 3) * kept := by ring

theorem le_nearest (n : Nat) {d : Nat} (positive : 0 < d) :
    2 * n ≤ (2 * nearest n d + 1) * d := by
  have parts := Nat.div_add_mod n d
  have left := Nat.mod_lt n positive
  have down : (2 * (n / d) + 1) * d = 2 * (d * (n / d)) + d := by ring
  have up : (2 * (n / d + 1) + 1) * d = 2 * (d * (n / d)) + 3 * d := by ring
  rw [nearest]
  split
  · next below =>
      rw [Bool.or_eq_true, decide_eq_true_iff, Bool.and_eq_true, beq_iff_eq] at below
      omega
  · omega

/-- A power of two as a quotient of whole ones. -/
theorem zpow_eq_div (e : Int) : (2 : ℚ) ^ e = 2 ^ e.toNat / 2 ^ (-e).toNat := by
  rcases le_total 0 e with up | down
  · obtain ⟨k, rfl⟩ := Int.eq_ofNat_of_zero_le up
    simp
  · obtain ⟨k, same⟩ := Int.eq_ofNat_of_zero_le (Int.neg_nonneg.mpr down)
    obtain rfl : e = -k := by omega
    simp

theorem le_of_ofSeconds? {x : Float} {d : Nat} (h : AtLeast v x.toModel.unpack)
    (read : Duration.ofSeconds? x = some d) : v * 1000000000 ≤ d + 1 / 2 := by
  have meaning := ofFloat_eq x
  rw [Duration.ofSeconds?] at read
  generalize x.toModel.unpack = unpacked at *
  cases h with
  | infinity =>
      rw [meaning] at read
      cases read
  | zero none =>
      have : (0 : ℚ) ≤ d := d.cast_nonneg
      linarith
  | @finite m e positive full fits low bound =>
      rw [meaning] at read
      change (if _ then none else some (nearest (m * 1000000000 * 2 ^ e.toNat)
        (2 ^ (-e).toNat))) = _ at read
      split at read
      · cases read
      · have near := le_nearest (m * 1000000000 * 2 ^ e.toNat) (Nat.two_pow_pos (-e).toNat)
        rw [Option.some.inj read] at near
        have near : 2 * ((m : ℚ) * 1000000000 * 2 ^ e.toNat) ≤ (2 * d + 1) * 2 ^ (-e).toNat :=
          mod_cast near
        rw [zpow_eq_div, ← mul_div_assoc, le_div_iff₀ (by positivity)] at bound
        have unit : (0 : ℚ) < 2 ^ (-e).toNat := by positivity
        refine le_of_mul_le_mul_right ?_ unit
        linarith

/-- A length of time of less than three days does not shrink when it is multiplied by a factor that
is no less than one. -/
theorem le_of_times? {d product : Nat} {factor : Float} (short : d < 2 ^ 48)
    (accepted : 1.0 ≤ factor) (read : Duration.times? d factor = some product) :
    d ≤ product := by
  rcases Nat.eq_zero_or_pos d with rfl | positive
  · exact Nat.zero_le product
  have some : (1 : ℚ) ≤ d := mod_cast positive
  have few : (d : ℚ) < 2 ^ 48 := mod_cast short
  have large : (2 : ℚ) ^ (-100 : Int) ≤ d / 1000000000 * kept ^ 4 := by
    have unit : (2 : ℚ) ^ (-100 : Int) ≤ 1 / 1000000000 * kept ^ 4 := by norm_num [kept]
    have := kept_pos
    refine unit.trans ?_
    gcongr
  have seconds := atLeast_toSeconds (short.trans (by decide : 2 ^ 48 < 2 ^ 64))
  have multiplied := (seconds.mul (atLeast_one accepted) large (by norm_num)).repacked
  have near := le_of_ofSeconds? multiplied read
  have lost : (1 : ℚ) - 5 / 2 ^ 52 ≤ kept ^ 5 := by norm_num [kept]
  have whole : (d : ℚ) < product + 1 := by
    calc (d : ℚ) < d * (1 - 5 / 2 ^ 52) + 1 / 2 := by linarith
      _ ≤ d * kept ^ 5 + 1 / 2 := by gcongr
      _ = d / 1000000000 * kept ^ 4 * 1 * kept * 1000000000 + 1 / 2 := by ring
      _ ≤ product + 1 := by linarith
  have whole : d < product + 1 := mod_cast whole
  omega

end Seconds

end SealedTree.Doubles
