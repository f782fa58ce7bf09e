import SealedTree.Text.Hex
import SealedTree.Text.Parts

/-!
Tables of characters, as they are written down: code points in hexadecimal digits, and blanks
between the entries. An entry is a code point, a range of them, or says what stands for them.
-/

namespace SealedTree.Text.CodePoints

def ofDigits (cs : List Char) : Nat := cs.foldl (fun n c => 16 * n + (Hex.value? c).getD 0) 0

def entries (text : String) : List (List Char) :=
  (parts (fun c => c = ' ' || c = '\n') text.toList).filter (!·.isEmpty)

structure Range where
  first : Nat
  last : Nat
  deriving DecidableEq

/-- Two code points with a hyphen between them, or one. -/
def Range.ofEntry (entry : List Char) : Range :=
  match parts (· = '-') entry with
  | first :: last :: _ => ⟨ofDigits first, ofDigits last⟩
  | _ => ⟨ofDigits entry, ofDigits entry⟩

def Range.contains (r : Range) (n : Nat) : Bool := r.first ≤ n && n ≤ r.last

def ranges (text : String) : List Range := (entries text).map Range.ofEntry

def has (table : List Range) (c : Char) : Bool := table.any (·.contains c.toNat)

def kind? (table : List (α × List Range)) (c : Char) : Option α :=
  (table.find? fun (_, ranges) => has ranges c).map (·.1)

def sides (entry : List Char) : List Char × List Char :=
  (entry.takeWhile (· ≠ '='), (entry.dropWhile (· ≠ '=')).drop 1)

/-- Entries such as `41=c0`: one code point stands for another. -/
def pairs (text : String) : List (Nat × Nat) :=
  (entries text).map fun entry =>
    let (a, b) := sides entry
    (ofDigits a, ofDigits b)

/-- Code points of a range, every so many, and what stands for the first of them. The others are as
far from what stands for them. -/
structure Shift where
  range : Range
  every : Nat
  target : Nat
  deriving DecidableEq

/-- Entries such as `41-5a=61`, or `100-12e/2=101` for every second code point. -/
def Shift.ofEntry (entry : List Char) : Shift :=
  let (range, target) := sides entry
  match parts (· = '/') range with
  | range :: every :: _ => ⟨.ofEntry range, ofDigits every, ofDigits target⟩
  | _ => ⟨.ofEntry range, 1, ofDigits target⟩

def Shift.image? (s : Shift) (n : Nat) : Option Nat :=
  if s.range.contains n ∧ (n - s.range.first) % s.every = 0 then
    some (s.target + (n - s.range.first))
  else none

def shifts (text : String) : List Shift := (entries text).map Shift.ofEntry

/-- An entry such as `a8=20.308,a9`: one or more code points stand for each of those that follow
each other from the first. -/
def spelling (entry : List Char) : List (Nat × List Nat) :=
  let (first, spelled) := sides entry
  (parts (· = ',') spelled).mapIdx fun i one =>
    (ofDigits first + i, (parts (· = '.') one).map ofDigits)

def spellings (text : String) : List (Nat × List Nat) := (entries text).flatMap spelling

theorem has_iff (table : List Range) (c : Char) :
    has table c = true ↔ ∃ r ∈ table, r.first ≤ c.toNat ∧ c.toNat ≤ r.last := by
  simp [has, Range.contains]

theorem Shift.image?_eq {s : Shift} {n m : Nat} (h : s.image? n = some m) :
    m + s.range.first = s.target + n := by
  unfold Shift.image? at h
  split at h
  · next hc =>
      have hle : s.range.first ≤ n := by
        have := hc.1
        simp only [Range.contains, Bool.and_eq_true, decide_eq_true_eq] at this
        exact this.1
      cases h
      omega
  · cases h

end SealedTree.Text.CodePoints
