import SealedTree.Json.Decoder
import SealedTree.Json.Printer
import SealedTree.Schedule

/-!
Schedules as documents. Everything may be left out.
-/

namespace SealedTree.Schedule

def json (s : Schedule) : Json :=
  .ofMembers
    [("initial_delay_ms", .ofNat s.initialDelayMs.toNat),
     ("backoff_floor_ms", .ofNat s.floorMs.toNat),
     ("backoff_cap_ms", .ofNat s.capMs.toNat),
     ("pending_multiplier", .ofFloat s.pendingMultiplier),
     ("error_multiplier", .ofFloat s.errorMultiplier),
     ("max_jitter_ms", .ofNat s.maxJitterMs.toNat),
     ("max_retries", .ofNat s.maxRetries.toNat)]

def decoder : Json.Decoder Schedule := fun site j => do
  let fields ← Json.fields "struct PollerConfig"
    [Json.openSlot "initial_delay_ms" Json.uint64,
     Json.openSlot "backoff_floor_ms" Json.uint64,
     Json.openSlot "backoff_cap_ms" Json.uint64,
     Json.openSlot "pending_multiplier" Json.float,
     Json.openSlot "error_multiplier" Json.float,
     Json.openSlot "max_jitter_ms" Json.uint64,
     Json.openSlot "max_retries" Json.uint32] site j
  let usual : Schedule := {}
  let initialDelayMs ← fields.getOr site "initial_delay_ms" Json.uint64 usual.initialDelayMs
  let floorMs ← fields.getOr site "backoff_floor_ms" Json.uint64 usual.floorMs
  let capMs ← fields.getOr site "backoff_cap_ms" Json.uint64 usual.capMs
  let pendingMultiplier ←
    fields.getOr site "pending_multiplier" Json.float usual.pendingMultiplier
  let errorMultiplier ← fields.getOr site "error_multiplier" Json.float usual.errorMultiplier
  let maxJitterMs ← fields.getOr site "max_jitter_ms" Json.uint64 usual.maxJitterMs
  let maxRetries ← fields.getOr site "max_retries" Json.uint32 usual.maxRetries
  .ok { initialDelayMs, floorMs, capMs, pendingMultiplier, errorMultiplier, maxJitterMs,
        maxRetries }

end SealedTree.Schedule
