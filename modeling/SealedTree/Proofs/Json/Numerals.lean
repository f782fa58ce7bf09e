import SealedTree.Json.Number
import SealedTree.Json.Printer

/-!
Numbers in a text. A numeral is a sign, digits, digits after a point and an exponent, each of them
as far as its characters go; what may follow a value in a document cannot belong to it. An integer
that 64 bits hold is read back from its digits.
-/

namespace SealedTree.Json

def IsDigit (c : Char) : Prop := '0' ≤ c ∧ c ≤ '9'

instance (c : Char) : Decidable (IsDigit c) := inferInstanceAs (Decidable (_ ∧ _))

def digitValue (c : Char) : Nat := c.toNat - 48

/-- A number ends here. -/
def Ends (rest : List Char) : Prop :=
  ∀ c ∈ rest.head?, ¬IsDigit c ∧ c ≠ '.' ∧ c ≠ 'e' ∧ c ≠ 'E'

/-- The characters are read as this numeral wherever they stand. -/
def Numeral.Spelled (n : Numeral) (cs : List Char) : Prop :=
  ∀ rest, Ends rest → numeral (cs ++ rest) = .ok (n, rest)

theorem digit?_of_isDigit {c : Char} (h : IsDigit c) : digit? c = some (digitValue c) := if_pos h

theorem digit?_of_not_isDigit {c : Char} (h : ¬IsDigit c) : digit? c = none := if_neg h

theorem isDigit_iff {c : Char} : IsDigit c ↔ c.isDigit = true := by
  simp [IsDigit, Char.isDigit, Char.le_def]

theorem digits_append {cs rest : List Char} (all : ∀ c ∈ cs, IsDigit c)
    (stop : ∀ c ∈ rest.head?, ¬IsDigit c) :
    digits (cs ++ rest) = (cs.map digitValue, rest) := by
  induction cs with
  | nil =>
      cases rest with
      | nil => rfl
      | cons c rest =>
          rw [List.nil_append, digits, digit?_of_not_isDigit (stop c rfl)]
          rfl
  | cons c cs ih =>
      rw [List.cons_append, digits, digit?_of_isDigit (all c List.mem_cons_self),
        ih fun d hd => all d (List.mem_cons_of_mem c hd)]
      rfl

/-- A run of digits, at least one of them. -/
structure Run (cs : List Char) : Prop where
  nonempty : cs ≠ []
  digit : ∀ c ∈ cs, IsDigit c

theorem Run.someDigits {cs rest : List Char} (run : Run cs)
    (stop : ∀ c ∈ rest.head?, ¬IsDigit c) :
    someDigits (cs ++ rest) = .ok (cs.map digitValue, rest) := by
  rw [Json.someDigits, digits_append run.digit stop]
  cases cs with
  | nil => exact absurd rfl run.nonempty
  | cons c cs => rfl

/-- A zero at the front stands alone. -/
def LeadsWell (cs : List Char) : Prop := cs.head? = some '0' → cs = ['0']

theorem eq_zero_of_digitValue {c : Char} (digit : IsDigit c) (zero : digitValue c = 0) :
    c = '0' := by
  have lower : 48 ≤ c.toNat := digit.1
  have value : c.toNat = 48 := by
    rw [digitValue] at zero
    omega
  exact Char.toNat_inj.mp value

theorem Run.wholePart {cs rest : List Char} (run : Run cs) (leads : LeadsWell cs)
    (stop : ∀ c ∈ rest.head?, ¬IsDigit c) :
    wholePart (cs ++ rest) = .ok (cs.map digitValue, rest) := by
  rw [Json.wholePart, run.someDigits stop]
  simp only [bind, Except.bind]
  split
  · next d ds left zeros =>
      cases cs with
      | nil => exact absurd rfl run.nonempty
      | cons c more =>
          rw [List.map_cons, Prod.mk.injEq, List.cons.injEq] at zeros
          have zero := eq_zero_of_digitValue (run.digit c List.mem_cons_self) zeros.1.1
          have alone := leads (congrArg some zero)
          rw [List.cons.injEq] at alone
          rw [alone.2] at zeros
          cases zeros.1.2
  · rfl

/-- A point and digits, or nothing. -/
def fractionChars (fraction : Option (List Char)) : List Char :=
  fraction.elim [] fun cs => '.' :: cs

/-- An exponent with its sign, or nothing. -/
def exponentChars (exponent : Option (Bool × List Char)) : List Char :=
  exponent.elim [] fun (down, cs) => 'e' :: (if down then '-' else '+') :: cs

theorem fractionPart_append {fraction : Option (List Char)} (runs : ∀ cs ∈ fraction, Run cs)
    {rest : List Char} (stop : ∀ c ∈ rest.head?, ¬IsDigit c ∧ c ≠ '.') :
    fractionPart (fractionChars fraction ++ rest) =
      .ok (fraction.map (·.map digitValue), rest) := by
  cases fraction with
  | none =>
      rw [fractionChars, Option.elim_none, List.nil_append, fractionPart.eq_def]
      split
      · exact absurd rfl (stop '.' rfl).2
      · rfl
  | some cs =>
      have read := (runs cs rfl).someDigits fun c hc => (stop c hc).1
      rw [fractionChars, Option.elim_some, List.cons_append, fractionPart, read]
      rfl

theorem exponentPart_append {exponent : Option (Bool × List Char)}
    (runs : ∀ e ∈ exponent, Run e.2) {rest : List Char} (ends : Ends rest) :
    exponentPart (exponentChars exponent ++ rest) =
      .ok (exponent.map fun (down, cs) => (down, cs.map digitValue), rest) := by
  cases exponent with
  | none =>
      rw [exponentChars, Option.elim_none, List.nil_append, exponentPart.eq_def]
      cases rest with
      | nil => rfl
      | cons c rest =>
          obtain ⟨-, -, lower, upper⟩ := ends c rfl
          simp only [lower, upper, or_self, if_false]
          rfl
  | some e =>
      obtain ⟨down, cs⟩ := e
      have read := (runs _ rfl).someDigits fun c hc => (ends c hc).1
      rw [exponentChars, Option.elim_some, List.cons_append, List.cons_append, exponentPart,
        if_pos (.inl rfl)]
      cases down with
      | true =>
          simp only [if_true, exponentSign, read]
          rfl
      | false =>
          simp only [Bool.false_eq_true, if_false, exponentSign, read]
          rfl

/-- The characters of a numeral part by part. -/
structure Parts where
  negative : Bool := false
  whole : List Char
  fraction : Option (List Char) := none
  /-- Whether the exponent has a minus sign, and its digits. -/
  exponent : Option (Bool × List Char) := none

namespace Parts

def unsigned (p : Parts) : List Char :=
  p.whole ++ (fractionChars p.fraction ++ exponentChars p.exponent)

def chars (p : Parts) : List Char := if p.negative then '-' :: p.unsigned else p.unsigned

def numeral (p : Parts) : Numeral where
  negative := p.negative
  whole := p.whole.map digitValue
  fraction := p.fraction.map (·.map digitValue)
  exponent := p.exponent.map fun (down, cs) => (down, cs.map digitValue)

structure WellFormed (p : Parts) : Prop where
  whole : Run p.whole
  leads : LeadsWell p.whole
  fraction : ∀ cs ∈ p.fraction, Run cs
  exponent : ∀ e ∈ p.exponent, Run e.2

variable {p : Parts}

theorem WellFormed.unsigned (h : p.WellFormed) (negative : Bool) {rest : List Char}
    (ends : Ends rest) :
    unsignedNumeral negative (p.unsigned ++ rest) = .ok ({ p.numeral with negative }, rest) := by
  have exponentHead : ∀ c ∈ (exponentChars p.exponent ++ rest).head?, ¬IsDigit c ∧ c ≠ '.' := by
    intro c hc
    cases exponent : p.exponent with
    | none =>
        rw [exponent] at hc
        exact ⟨(ends c hc).1, (ends c hc).2.1⟩
    | some e =>
        rw [exponent] at hc
        obtain rfl : 'e' = c := Option.some.inj hc
        decide
  have fractionHead : ∀ c ∈
      (fractionChars p.fraction ++ (exponentChars p.exponent ++ rest)).head?, ¬IsDigit c := by
    intro c hc
    cases fraction : p.fraction with
    | none =>
        rw [fraction] at hc
        exact (exponentHead c hc).1
    | some cs =>
        rw [fraction] at hc
        obtain rfl : '.' = c := Option.some.inj hc
        decide
  rw [unsignedNumeral, Parts.unsigned, List.append_assoc, List.append_assoc,
    h.whole.wholePart h.leads fractionHead]
  simp only [bind, Except.bind]
  rw [fractionPart_append h.fraction exponentHead]
  simp only
  rw [exponentPart_append h.exponent ends]
  rfl

theorem WellFormed.spelled (h : p.WellFormed) : p.numeral.Spelled p.chars := by
  intro rest ends
  have read : unsignedNumeral p.negative (p.unsigned ++ rest) = .ok (p.numeral, rest) :=
    h.unsigned p.negative ends
  cases sign : p.negative with
  | true =>
      rw [sign] at read
      rw [chars, if_pos sign, List.cons_append, Json.numeral, read]
  | false =>
      rw [sign] at read
      rw [chars, if_neg (by rw [sign]; exact Bool.false_ne_true), Json.numeral.eq_def]
      split
      · next minus =>
          obtain ⟨c, more, begins⟩ := List.exists_cons_of_ne_nil h.whole.nonempty
          rw [Parts.unsigned, begins, List.cons_append, List.cons_append, List.cons.injEq] at minus
          have digit := h.whole.digit c (by rw [begins]; exact List.mem_cons_self)
          rw [minus.1] at digit
          exact absurd digit (by decide)
      · exact read

end Parts

section Digits

theorem run_toDigits (n : Nat) : Run (Nat.toDigits 10 n) :=
  ⟨Nat.toDigits_ne_nil, fun _ h =>
    isDigit_iff.mpr (Nat.isDigit_of_mem_toDigits (by decide) (by decide) h)⟩

/-- The digits of a positive number do not begin with a zero. -/
theorem head_toDigits {n : Nat} (positive : 0 < n) : (Nat.toDigits 10 n).head? ≠ some '0' := by
  induction n using Nat.strongRecOn with
  | ind n ih =>
      rw [Nat.toDigits_eq_if (by decide)]
      split
      · next small =>
          rw [List.head?_singleton, ne_eq, Option.some.injEq, Nat.digitChar_eq_zero]
          omega
      · next large =>
          have first := ih (n / 10) (by omega) (by omega)
          cases digits : Nat.toDigits 10 (n / 10) with
          | nil => exact absurd digits Nat.toDigits_ne_nil
          | cons c more =>
              rw [digits] at first
              exact first

theorem leadsWell_toDigits (n : Nat) : LeadsWell (Nat.toDigits 10 n) := by
  intro zero
  rcases Nat.eq_zero_or_pos n with rfl | positive
  · rfl
  · exact absurd zero (head_toDigits positive)

/-- The number that digits stand for. -/
theorem foldl_toDigits (n : Nat) :
    ((Nat.toDigits 10 n).map digitValue).foldl (fun m d => m * 10 + d) 0 = n := by
  have value := Nat.ofDigitChars_ten_toDigits (n := n)
  rw [Nat.ofDigitChars_eq_foldl] at value
  rw [List.foldl_map]
  simp only [Nat.mul_comm _ 10, digitValue]
  exact value

theorem le_foldl_digits (ds : List Nat) (start : Nat) :
    start ≤ ds.foldl (fun m d => m * 10 + d) start := by
  induction ds generalizing start with
  | nil => exact Nat.le_refl _
  | cons d ds ih => exact Nat.le_trans (by omega) (ih (start * 10 + d))

/-- Digits that make up no more than 64 bits all count. -/
theorem fill_eq {ds : List Nat} {start : Nat}
    (small : ds.foldl (fun m d => m * 10 + d) start < 18446744073709551616) :
    fill start ds = (ds.foldl (fun m d => m * 10 + d) start, ds.length, 0) := by
  induction ds generalizing start with
  | nil => rfl
  | cons d ds ih =>
      rw [List.foldl_cons] at small
      have next : start * 10 + d < 18446744073709551616 :=
        Nat.lt_of_le_of_lt (le_foldl_digits ds _) small
      rw [fill, if_pos next, ih small, List.foldl_cons, List.length_cons]

/-- Digits that all count make up no more than 64 bits. -/
theorem fill_left {ds : List Nat} {start : Nat} (small : start < 18446744073709551616)
    (all : (fill start ds).2.2 = 0) :
    ds.foldl (fun m d => m * 10 + d) start < 18446744073709551616 := by
  induction ds generalizing start with
  | nil => exact small
  | cons d ds ih =>
      rw [fill] at all
      split at all
      · next next => exact ih next all
      · cases all

/-- The number that the digits before the point stand for. -/
def Numeral.wholeValue (n : Numeral) : Nat := n.whole.foldl (fun m d => m * 10 + d) 0

theorem realValue_ne_integer {negative : Bool} {significand : Nat} {point i : Int}
    {exponent : Option (Bool × List Nat)} :
    realValue negative significand point exponent ≠ .ok (.integer i) := by
  have real (x : Except Fault Float) :
      x.map (Number.real <| signed negative ·) ≠ .ok (.integer i) := by
    cases x with
    | error fault => exact nofun
    | ok x => exact nofun
  cases exponent with
  | none => exact real _
  | some e =>
      simp only [realValue]
      split
      · exact real _
      · split
        · exact nofun
        · exact nofun

/-- The numeral is written as this integer: without point and exponent, not as a negative zero, and
so that 64 bits hold it. -/
def Numeral.IsInteger (n : Numeral) (i : Int) : Prop :=
  n.fraction = none ∧ n.exponent = none ∧
    if n.negative then
      n.wholeValue ≠ 0 ∧ n.wholeValue ≤ 9223372036854775808 ∧ i = -n.wholeValue
    else n.wholeValue < 18446744073709551616 ∧ i = n.wholeValue

theorem Numeral.value_eq_integer {n : Numeral} {i : Int} :
    n.value = .ok (.integer i) ↔ n.IsInteger i := by
  obtain ⟨negative, whole, fraction, exponent⟩ := n
  rw [value.eq_def, IsInteger]
  dsimp only
  split
  · by_cases small : whole.foldl (fun m d => m * 10 + d) 0 < 18446744073709551616
    · rw [fill_eq small, wholeValue]
      generalize whole.foldl (fun m d => m * 10 + d) 0 = w at small
      cases negative with
      | false =>
          simp [small, eq_comm]
      | true =>
          simp only [ne_eq, not_true_eq_false, if_false, if_true, true_and]
          split
          · next outside =>
              constructor
              · exact nofun
              · rintro ⟨some, bounded, -⟩
                exact (outside.elim some (Nat.not_lt_of_le bounded)).elim
          · next inside =>
              rw [not_or, Nat.not_lt] at inside
              simp [inside, eq_comm]
    · have left : (fill 0 whole).2.2 ≠ 0 := fun all => small (fill_left (by decide) all)
      rw [if_pos left, wholeValue]
      constructor
      · exact fun h => (realValue_ne_integer h).elim
      · rintro ⟨-, -, fits⟩
        refine absurd ?_ small
        split at fits
        · exact Nat.lt_of_le_of_lt fits.2.1 (by decide)
        · exact fits.1
  · next some =>
      constructor
      · exact fun h => (realValue_ne_integer h).elim
      · rintro ⟨rfl, rfl, -⟩
        exact (some rfl rfl).elim

/-- An integer as it is written. -/
def integerParts (i : Int) : Parts where
  negative := i < 0
  whole := Nat.toDigits 10 i.natAbs

theorem chars_integerParts (i : Int) : (integerParts i).chars = (toString i).toList := by
  have unsigned : (integerParts i).unsigned = Nat.toDigits 10 i.natAbs := by
    simp [Parts.unsigned, integerParts, fractionChars, exponentChars]
  rw [Int.toString_eq_repr, Int.repr_eq_if, Parts.chars, unsigned]
  split
  · next negative =>
      have below : i < 0 := of_decide_eq_true negative
      have size : (-i).toNat = i.natAbs := by omega
      rw [if_neg (by omega), String.toList_append, Nat.repr_eq_ofList_toDigits,
        String.toList_ofList, String.toList_ofList, size]
      rfl
  · next positive =>
      have above : ¬i < 0 := of_decide_eq_false (Bool.not_eq_true _ ▸ positive)
      have size : i.toNat = i.natAbs := by omega
      rw [if_pos (by omega), Nat.repr_eq_ofList_toDigits, String.toList_ofList, size]

theorem wellFormed_integerParts (i : Int) : (integerParts i).WellFormed :=
  ⟨run_toDigits _, leadsWell_toDigits _, nofun, nofun⟩

theorem value_integerParts {i : Int} (low : -9223372036854775808 ≤ i)
    (high : i < 18446744073709551616) : (integerParts i).numeral.value = .ok (.integer i) := by
  have small : i.natAbs < 18446744073709551616 := by omega
  have value := foldl_toDigits i.natAbs
  have filled : fill 0 _ = _ := fill_eq (value.symm ▸ small)
  rw [value] at filled
  simp only [Numeral.value, integerParts, Parts.numeral, Option.map_none, filled]
  by_cases negative : i < 0
  · have size : -(i.natAbs : Int) = i := by omega
    simp only [negative, decide_true, not_true_eq_false, ne_eq, if_false]
    rw [if_neg (by omega), size]
  · have size : (i.natAbs : Int) = i := by omega
    simp [negative, size]

end Digits

end SealedTree.Json
