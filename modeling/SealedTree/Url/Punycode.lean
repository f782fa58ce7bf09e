/-!
Names beyond ASCII in letters and digits: the ASCII characters of the name come first, and after a
hyphen the others, each as the distance from the one before it in code point and place. Distances
are numbers to the base 36 that tell by their digits where they end; what a digit may be adapts to
the distances so far.
-/

namespace SealedTree.Url.Punycode

def digitChar (d : Nat) : Char := Char.ofNat (if d < 26 then 97 + d else 22 + d)

def digitValue? (c : Char) : Option Nat :=
  if 'a' ≤ c ∧ c ≤ 'z' then some (c.toNat - 97)
  else if 'A' ≤ c ∧ c ≤ 'Z' then some (c.toNat - 65)
  else if '0' ≤ c ∧ c ≤ '9' then some (c.toNat - 22)
  else none

/-- The least digit at place `k` that a number may go on after. -/
def threshold (bias k : Nat) : Nat :=
  if k ≤ bias then 1 else if bias + 26 ≤ k then 26 else k - bias

theorem threshold_bounds (bias k : Nat) : 1 ≤ threshold bias k ∧ threshold bias k ≤ 26 := by
  unfold threshold
  split
  · omega
  · split <;> omega

/-- How often a number is divided by 35 until it is at most 455, times 36, and what is left. -/
def damped (k delta : Nat) : Nat × Nat :=
  if 455 < delta then damped (k + 36) (delta / 35) else (k, delta)
termination_by delta
decreasing_by exact Nat.div_lt_self (by omega) (by omega)

/-- The bias after a distance, when `count` characters are in place. -/
def adapted (delta count : Nat) (first : Bool) : Nat :=
  let delta := if first then delta / 700 else delta / 2
  let (k, delta) := damped 0 (delta + delta / count)
  k + 36 * delta / (delta + 38)

def encodeNumber (bias k q : Nat) : List Char :=
  let t := threshold bias k
  if q < t then [digitChar q]
  else digitChar (t + (q - t) % (36 - t)) :: encodeNumber bias (k + 36) ((q - t) / (36 - t))
termination_by q
decreasing_by
  have h := threshold_bounds bias k
  have := Nat.div_le_self (q - threshold bias k) (36 - threshold bias k)
  omega

/-- A coder on its way: the distance so far, the bias, and the number of characters in place. -/
structure Coder where
  written : List Char
  delta : Nat
  bias : Nat
  count : Nat

/-- Goes over one character while those with code point `m` are due; `basic` are ASCII. -/
def Coder.pass (basic m : Nat) (s : Coder) (c : Char) : Coder :=
  if c.toNat < m then { s with delta := s.delta + 1 }
  else if c.toNat = m then
    { written := s.written ++ encodeNumber s.bias 36 s.delta
      delta := 0
      bias := adapted s.delta (s.count + 1) (s.count = basic)
      count := s.count + 1 }
  else s

/-- Puts the characters with the given code points in place; `n` is the next code point. -/
def Coder.place (name : List Char) (basic : Nat) : (n : Nat) → List Nat → Coder → Coder
  | _, [], s => s
  | n, m :: rest, s =>
      let s := { s with delta := s.delta + (m - n) * (s.count + 1) }
      let s := name.foldl (Coder.pass basic m) s
      Coder.place name basic (m + 1) rest { s with delta := s.delta + 1 }

def isBasic (c : Char) : Bool := c.toNat < 128

def encode (name : List Char) : List Char :=
  let basic := name.filter isBasic
  let others := ((name.filter (!isBasic ·)).map Char.toNat).mergeSort.eraseDups
  let coder := Coder.place name basic.length 128 others ⟨[], 0, 72, basic.length⟩
  basic ++ (if basic.isEmpty then [] else ['-']) ++ coder.written

/-- Numbers of this size do not occur; digits that reach it are none. -/
def tooLarge : Nat := 4294967296

/-- The number at the front of the digits, added to `i`, and the digits after it. -/
def decodeNumber (bias : Nat) : (k weight i : Nat) → List Char → Option (Nat × List Char)
  | _, _, _, [] => none
  | k, weight, i, c :: rest => do
      let d ← digitValue? c
      let t := threshold bias k
      if tooLarge ≤ i + d * weight then none
      else if d < t then some (i + d * weight, rest)
      else if tooLarge ≤ weight * (36 - t) then none
      else decodeNumber bias (k + 36) (weight * (36 - t)) (i + d * weight) rest

theorem decodeNumber_length (bias : Nat) (cs : List Char) (k weight i : Nat)
    (r : Nat × List Char) (h : decodeNumber bias k weight i cs = some r) :
    r.2.length < cs.length := by
  induction cs generalizing k weight i with
  | nil => simp [decodeNumber] at h
  | cons c rest ih =>
      simp only [decodeNumber] at h
      cases hd : digitValue? c with
      | none => simp [hd] at h
      | some d =>
          simp only [hd, bind, Option.bind] at h
          split at h
          · cases h
          · split at h
            · cases h; simp
            · split at h
              · cases h
              · exact Nat.lt_succ_of_lt (ih _ _ _ h)

/-- Puts further characters into a name; `n` and `i` are the code point and place of the last. -/
def decodeFrom (bias n i : Nat) (name : List Char) (digits : List Char) : Option (List Char) :=
  match digits with
  | [] => some name
  | c :: rest =>
      match h : decodeNumber bias 36 1 i (c :: rest) with
      | none => none
      | some (j, rest') =>
          have := decodeNumber_length _ _ _ _ _ _ h
          let count := name.length + 1
          let m := n + j / count
          if Nat.isValidChar m then
            decodeFrom (adapted (j - i) count (i = 0)) m (j % count + 1)
              (name.insertIdx (j % count) (Char.ofNat m)) rest'
          else none
termination_by digits.length
decreasing_by exact this

/-- A hyphen at the very front does not end a name, and is no digit. -/
def decode? (digits : List Char) : Option (List Char) :=
  let after := (digits.reverse.takeWhile (· ≠ '-')).reverse
  let basic := digits.take (digits.length - after.length - 1)
  if basic.all isBasic ∧ after.length + 1 ≠ digits.length then decodeFrom 72 128 0 basic after
  else none

end SealedTree.Url.Punycode
