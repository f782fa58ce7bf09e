import SealedTree.Schedule

/-!
Lengths of time that a schedule is given. They are kept as whole milliseconds in 64 bits, so what is
read back is the length rounded down as long as there are fewer than `2 ^ 64` milliseconds in it.
From there on it starts again at zero: the order of lengths is lost, and with it the check that the
floor is not over the cap.
-/

namespace SealedTree

namespace Duration

/-- The shortest length of time whose milliseconds 64 bits do not hold. -/
def bound : Duration := 18446744073709551616 * 1000000

def wholeMillis (d : Duration) : Duration := d - d % 1000000

theorem wholeMillis_le_wholeMillis {d d' : Duration} (h : d ≤ d') :
    d.wholeMillis ≤ d'.wholeMillis := by
  unfold Duration at *
  rw [wholeMillis, wholeMillis]
  omega

theorem ofMillis_millis (d : Duration) : ofMillis d.millis = wholeMillis (d % bound) := by
  rw [ofMillis, millis, UInt64.toNat_ofNat', wholeMillis, bound]
  unfold Duration at *
  omega

/-- Nothing but the part of a millisecond is lost just if the milliseconds fit. -/
theorem wholeMillis_mod_eq_iff {d : Duration} :
    wholeMillis (d % bound) = d.wholeMillis ↔ d < bound := by
  rw [wholeMillis, wholeMillis, bound]
  unfold Duration at *
  omega

theorem millis_lt_millis_iff {d d' : Duration} :
    d.millis < d'.millis ↔ wholeMillis (d % bound) < wholeMillis (d' % bound) := by
  rw [← ofMillis_millis, ← ofMillis_millis, UInt64.lt_iff_toNat_lt]
  exact (Nat.mul_lt_mul_right (by decide)).symm

end Duration

namespace Schedule

/-- One of the lengths of time that a schedule is given. -/
inductive Timing
  | initialDelay
  | maxJitter
  | floor (top : Duration)
  | cap (bottom : Duration)

namespace Timing

def set : Timing → Schedule → Duration → Schedule
  | .initialDelay, s, d => s.withInitialDelay d
  | .maxJitter, s, d => s.withMaxJitter d
  | .floor top, s, d => s.withBackoff d top
  | .cap bottom, s, d => s.withBackoff bottom d

def get : Timing → Schedule → Duration
  | .initialDelay, s => s.initialDelay
  | .maxJitter, s => s.maxJitter
  | .floor _, s => s.floor
  | .cap _, s => s.cap

theorem get_set (t : Timing) (s : Schedule) (d : Duration) :
    t.get (t.set s d) = Duration.wholeMillis (d % Duration.bound) := by
  rw [← Duration.ofMillis_millis]
  cases t <;> rfl

theorem get_set_eq_iff {t : Timing} {s : Schedule} {d : Duration} :
    t.get (t.set s d) = d.wholeMillis ↔ d < Duration.bound := by
  rw [get_set, Duration.wholeMillis_mod_eq_iff]

theorem get_set_of_lt {t : Timing} {s : Schedule} {d : Duration} (h : d < Duration.bound) :
    t.get (t.set s d) = d.wholeMillis :=
  get_set_eq_iff.mpr h

end Timing

/-- What can be wrong with new bounds of the backoff is their order, as they are kept. -/
theorem validate_withBackoff {s : Schedule} (valid : s.validate = .ok ()) (floor cap : Duration) :
    (s.withBackoff floor cap).validate =
      if Duration.wholeMillis (cap % Duration.bound) < Duration.wholeMillis (floor % Duration.bound)
      then .error (.floorOverCap floor.millis cap.millis) else .ok () := by
  obtain ⟨-, retried, accepted⟩ := validate_eq_ok.mp valid
  simp only [← Duration.millis_lt_millis_iff]
  change (if cap.millis < floor.millis then _ else if s.maxRetries = 0 then _ else
    if 1.0 ≤ s.pendingMultiplier ∧ 1.0 ≤ s.errorMultiplier then _ else _) = _
  rw [if_neg retried, if_pos accepted]
  rfl

theorem validate_withBackoff_of_lt {s : Schedule} (valid : s.validate = .ok ())
    {floor cap : Duration} (ordered : floor ≤ cap) (small : cap < Duration.bound) :
    (s.withBackoff floor cap).validate = .ok () := by
  rw [validate_withBackoff valid, Duration.wholeMillis_mod_eq_iff.mpr small,
    Duration.wholeMillis_mod_eq_iff.mpr (Nat.lt_of_le_of_lt ordered small),
    if_neg (Nat.not_lt_of_le (Duration.wholeMillis_le_wholeMillis ordered))]

theorem validate_default : ({} : Schedule).validate = .ok () :=
  validate_eq_ok.mpr (by decide +kernel)

/-- A schedule keeps what its lengths of time are modulo `2 ^ 64` milliseconds, rounded down to
whole milliseconds. That is the length itself, rounded down, just if it is shorter than this bound;
below it the order of lengths is kept, and so bounds of the backoff that are in order are valid. -/
theorem timings_kept (t : Timing) (s : Schedule) (d d' : Duration) :
    t.get (t.set s d) = Duration.wholeMillis (d % Duration.bound) ∧
      (t.get (t.set s d) = d.wholeMillis ↔ d < Duration.bound) ∧
      (({} : Schedule).withBackoff d d').validate =
        (if Duration.wholeMillis (d' % Duration.bound) < Duration.wholeMillis (d % Duration.bound)
          then .error (.floorOverCap d.millis d'.millis) else .ok ()) ∧
      (d ≤ d' → d' < Duration.bound →
        t.get (t.set s d) ≤ t.get (t.set s d') ∧
          (({} : Schedule).withBackoff d d').validate = .ok () ∧
          (({} : Schedule).withBackoff d d').floor = d.wholeMillis ∧
          (({} : Schedule).withBackoff d d').cap = d'.wholeMillis) := by
  refine ⟨t.get_set s d, Timing.get_set_eq_iff, validate_withBackoff validate_default d d',
    fun ordered small => ?_⟩
  have shorter : d < Duration.bound := Nat.lt_of_le_of_lt ordered small
  refine ⟨?_, validate_withBackoff_of_lt validate_default ordered small,
    Timing.get_set_of_lt (t := .floor d') shorter, Timing.get_set_of_lt (t := .cap d) small⟩
  rw [Timing.get_set_of_lt shorter, Timing.get_set_of_lt small]
  exact Duration.wholeMillis_le_wholeMillis ordered

/-- A second and a bit, and as long as it can be. -/
theorem timings_kept_longest :
    let floor : Duration := .ofSecs 1 999999
    let cap : Duration := .ofSecs 18446744073709551 615999999
    floor ≤ cap ∧ cap < Duration.bound ∧
      (({} : Schedule).withBackoff floor cap).validate = .ok () ∧
      (({} : Schedule).withBackoff floor cap).floor = .ofSecs 1 0 ∧
      (({} : Schedule).withBackoff floor cap).cap = .ofSecs 18446744073709551 615000000 ∧
      (({} : Schedule).withMaxJitter floor).maxJitter ≤
        (({} : Schedule).withMaxJitter cap).maxJitter := by
  intro floor cap
  have ordered : floor ≤ cap := by decide
  have small : cap < Duration.bound := by decide
  obtain ⟨-, -, -, kept⟩ := timings_kept .maxJitter {} floor cap
  obtain ⟨monotone, valid, bottom, top⟩ := kept ordered small
  exact ⟨ordered, small, valid, bottom.trans (by decide), top.trans (by decide), monotone⟩

/-- One millisecond more is kept as none: the delay is gone, bounds in order are refused, and bounds
that are not in order are accepted. -/
theorem long_timing_lost :
    let second : Duration := .ofSecs 1 0
    let long : Duration := .ofSecs 18446744073709551 616000000
    let s : Schedule := {}
    second ≤ long ∧ (s.withInitialDelay second).initialDelay = second ∧
      (s.withInitialDelay long).initialDelay = 0 ∧ (s.withMaxJitter long).maxJitter = 0 ∧
      (s.withBackoff second long).validate = .error (.floorOverCap 1000 0) ∧
      (s.withBackoff long second).validate = .ok () := by
  intro second long s
  refine ⟨by decide, by decide, by decide, by decide, ?_, ?_⟩
  · have millis : second.millis = 1000 ∧ long.millis = 0 := by decide
    rw [validate_withBackoff validate_default, if_pos (by decide), millis.1, millis.2]
  · rw [validate_withBackoff validate_default, if_neg (by decide)]

end Schedule

end SealedTree
