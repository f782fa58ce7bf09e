import SealedTree.Decimal.Layout
import SealedTree.Duration

/-!
When to ask again. The wait between two attempts starts at a floor and grows by a factor after each
attempt, by one factor while the result is not there and by another after a failed read, up to a
cap.
-/

namespace SealedTree

inductive ConfigError
  | floorOverCap (floor cap : UInt64)
  | noRetries
  | smallMultiplier (pending error : Float)
  | noUrl
  | noTimeout
  deriving DecidableEq

def ConfigError.reason : ConfigError → String
  | .floorOverCap floor cap =>
      "backoff floor " ++ toString floor ++ "ms exceeds cap " ++ toString cap ++ "ms"
  | .noRetries => "max_retries must be positive"
  | .smallMultiplier pending error =>
      "backoff multipliers must be >= 1 (pending " ++ Decimal.Layout.plain.write pending ++
        ", error " ++ Decimal.Layout.plain.write error ++ ")"
  | .noUrl => "node and relay URLs are required"
  | .noTimeout => "request_timeout_ms must be positive"

def ConfigError.message (e : ConfigError) : String := "Invalid config: " ++ e.reason

structure Schedule where
  /-- The quiet time between handing in and the first attempt. -/
  initialDelayMs : UInt64 := 5000
  floorMs : UInt64 := 3000
  capMs : UInt64 := 15000
  pendingMultiplier : Float := 1.5
  errorMultiplier : Float := 2.0
  maxJitterMs : UInt64 := 1000
  maxRetries : UInt32 := 20
  deriving DecidableEq

namespace Schedule

def initialDelay (s : Schedule) : Duration := .ofMillis s.initialDelayMs

def floor (s : Schedule) : Duration := .ofMillis s.floorMs

def cap (s : Schedule) : Duration := .ofMillis s.capMs

def maxJitter (s : Schedule) : Duration := .ofMillis s.maxJitterMs

def withInitialDelay (s : Schedule) (delay : Duration) : Schedule :=
  { s with initialDelayMs := delay.millis }

def withBackoff (s : Schedule) (floor cap : Duration) : Schedule :=
  { s with floorMs := floor.millis, capMs := cap.millis }

def withMaxJitter (s : Schedule) (jitter : Duration) : Schedule :=
  { s with maxJitterMs := jitter.millis }

/-- A multiplier that is no number is too small. -/
def validate (s : Schedule) : Except ConfigError Unit :=
  if s.capMs < s.floorMs then .error (.floorOverCap s.floorMs s.capMs)
  else if s.maxRetries = 0 then .error .noRetries
  else if 1.0 ≤ s.pendingMultiplier ∧ 1.0 ≤ s.errorMultiplier then .ok ()
  else .error (.smallMultiplier s.pendingMultiplier s.errorMultiplier)

theorem validate_eq_ok {s : Schedule} : s.validate = .ok () ↔
    s.floorMs ≤ s.capMs ∧ s.maxRetries ≠ 0 ∧ 1.0 ≤ s.pendingMultiplier ∧
      1.0 ≤ s.errorMultiplier := by
  rw [validate, ← UInt64.not_lt]
  by_cases inverted : s.capMs < s.floorMs
  · simp [inverted]
  · by_cases none : s.maxRetries = 0
    · simp [inverted, none]
    · by_cases accepted : 1.0 ≤ s.pendingMultiplier ∧ 1.0 ≤ s.errorMultiplier
      · simp [inverted, none, accepted]
      · rw [if_neg inverted, if_neg none, if_neg accepted]
        exact ⟨nofun, fun h => absurd h.2.2 accepted⟩

/-- The wait after one of `backoff`. A product that is no length of time counts as the cap. -/
def grown (s : Schedule) (backoff : Duration) (multiplier : Float) (jitter : Duration) :
    Duration :=
  min ((backoff.times? multiplier).getD s.cap + min jitter s.maxJitter) s.cap

theorem grown_le_cap (s : Schedule) (backoff : Duration) (multiplier : Float)
    (jitter : Duration) : s.grown backoff multiplier jitter ≤ s.cap :=
  Nat.min_le_right ..

end Schedule

/-- A jitter that is always the same, as far as it is allowed. -/
def fixedJitter (jitter max : Duration) : Duration := min jitter max

end SealedTree
