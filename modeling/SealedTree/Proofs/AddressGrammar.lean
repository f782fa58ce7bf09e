import Mathlib.Data.List.TakeWhile
import SealedTree.Proofs.AddressText
import SealedTree.Proofs.Json.Decoding

/-!
Which texts are addresses. The grammar is stated without reading anything: blanks, perhaps a mark,
42 digits of either case, blanks. Reading accepts exactly that, so every way to write an address is
read as it, and what is shown of an address is the one way without blanks, mark and capitals.
-/

namespace SealedTree

namespace Text

def Blanks (cs : List Char) : Prop := ∀ c ∈ cs, isBlank c = true

instance (cs : List Char) : Decidable (Blanks cs) :=
  decidable_of_iff (cs.all isBlank = true) List.all_eq_true

theorem trimBlank_append_left {before : List Char} (blank : Blanks before) (cs : List Char) :
    trimBlank (before ++ cs) = trimBlank cs := by
  rw [trimBlank, List.dropWhile_append_of_pos blank, trimBlank]

theorem trimBlank_append_right {after : List Char} (blank : Blanks after) (cs : List Char) :
    trimBlank (cs ++ after) = trimBlank cs := by
  have none : after.dropWhile isBlank = [] := List.dropWhile_eq_nil_iff.mpr blank
  have back : Blanks after.reverse := fun c inside => blank c (List.mem_reverse.mp inside)
  rw [trimBlank, trimBlank, List.dropWhile_append]
  split
  · next empty => rw [none, List.isEmpty_iff.mp empty]
  · rw [List.reverse_append, List.dropWhile_append_of_pos back]

/-- Only blanks are taken away, and only at the two ends. -/
theorem exists_trimBlank (cs : List Char) :
    ∃ before after, cs = before ++ trimBlank cs ++ after ∧ Blanks before ∧ Blanks after := by
  have front := List.takeWhile_append_dropWhile (p := isBlank) (l := cs)
  have back := List.takeWhile_append_dropWhile (p := isBlank) (l := (cs.dropWhile isBlank).reverse)
  have whole := congrArg List.reverse back
  rw [List.reverse_append, List.reverse_reverse, ← trimBlank] at whole
  refine ⟨cs.takeWhile isBlank, ((cs.dropWhile isBlank).reverse.takeWhile isBlank).reverse, ?_,
    fun c inside => List.mem_takeWhile_imp inside,
    fun c inside => List.mem_takeWhile_imp (List.mem_reverse.mp inside)⟩
  rw [List.append_assoc, whole, front]

/-- Blanks, perhaps a mark, then these characters, and blanks again. -/
def Frames (text : String) (core : List Char) : Prop :=
  ∃ before mark after, text.toList = before ++ mark ++ core ++ after ∧ Blanks before ∧
    Blanks after ∧ (mark = [] ∨ mark = ['0', 'x'])

end Text

namespace Hex

/-- A digit of either case, and its value. -/
def Means (c : Char) (v : Nat) : Prop := "0123456789abcdef".toList[v]? = some c.toLower

/-- Two digits for each byte, the one of the higher value first. -/
structure Digits (cs : List Char) (bytes : List UInt8) : Prop where
  length : cs.length = 2 * bytes.length
  value : ∀ i b, bytes[i]? = some b → ∃ c d high low, cs[2 * i]? = some c ∧
    cs[2 * i + 1]? = some d ∧ Means c high ∧ Means d low ∧ b.toNat = 16 * high + low

theorem means_iff {c : Char} {v : Nat} : Means c v ↔ value? c = some v := by
  have listed : ∀ n < 16, "0123456789abcdef".toList[n]? = some (digit n) := by decide
  rw [Means]
  constructor
  · intro named
    have small : v < 16 := (List.getElem?_eq_some_iff.mp named).1
    rw [listed v small, Option.some.injEq] at named
    rw [← (value?_toLower c).1, ← named, value?_digit small]
  · intro read
    obtain ⟨small, same, -⟩ := digit_of_value? read
    rw [listed v small, same]

theorem Means.lt {c : Char} {v : Nat} (h : Means c v) : v < 16 :=
  (digit_of_value? (means_iff.mp h)).1

theorem Means.toLower {c : Char} {v : Nat} (h : Means c v) : c.toLower = digit v :=
  (digit_of_value? (means_iff.mp h)).2.1.symm

theorem means_of_toLower {c : Char} {v : Nat} (small : v < 16) (same : c.toLower = digit v) :
    Means c v := by
  rw [means_iff, ← (value?_toLower c).1, same, value?_digit small]

theorem encodeByte_eq_iff {b : UInt8} {c d : Char} :
    [c.toLower, d.toLower] = encodeByte b ↔
      ∃ high low, Means c high ∧ Means d low ∧ b.toNat = 16 * high + low := by
  have size : b.toNat < 256 := b.toNat_lt
  simp only [encodeByte, List.cons.injEq, and_true]
  constructor
  · rintro ⟨first, second⟩
    exact ⟨_, _, means_of_toLower (by omega) first, means_of_toLower (by omega) second,
      (Nat.div_add_mod b.toNat 16).symm⟩
  · rintro ⟨high, low, first, second, value⟩
    have small := second.lt
    have upper : b.toNat / 16 = high := by omega
    have lower : b.toNat % 16 = low := by omega
    rw [upper, lower]
    exact ⟨first.toLower, second.toLower⟩

theorem digits_cons {c d : Char} {cs : List Char} {b : UInt8} {bytes : List UInt8} :
    Digits (c :: d :: cs) (b :: bytes) ↔
      (∃ high low, Means c high ∧ Means d low ∧ b.toNat = 16 * high + low) ∧ Digits cs bytes := by
  constructor
  · intro digits
    have length := digits.length
    rw [List.length_cons, List.length_cons, List.length_cons] at length
    refine ⟨?_, by omega, fun i other among => digits.value (i + 1) other among⟩
    obtain ⟨_, _, high, low, first, second, rest⟩ := digits.value 0 b rfl
    cases first
    cases second
    exact ⟨high, low, rest⟩
  · rintro ⟨⟨high, low, first⟩, later⟩
    have length := later.length
    refine ⟨by rw [List.length_cons, List.length_cons, List.length_cons]; omega, ?_⟩
    intro i other among
    cases i with
    | zero =>
        cases among
        exact ⟨c, d, high, low, rfl, rfl, first⟩
    | succ i => exact later.value i other among

/-- A text is read as bytes just if it is their digits. -/
theorem decodeChars_eq_ok_iff {cs : List Char} {bytes : List UInt8} :
    decodeChars cs = .ok bytes ↔ Digits cs bytes := by
  rw [decodeChars_eq_ok]
  induction bytes generalizing cs with
  | nil =>
      rw [List.flatMap_nil, List.map_eq_nil_iff]
      constructor
      · rintro rfl
        exact ⟨rfl, nofun⟩
      · intro digits
        exact List.eq_nil_of_length_eq_zero digits.length
  | cons b rest ih =>
      rw [List.flatMap_cons]
      match cs with
      | [] | [_] =>
          -- Too short for the first byte.
          refine iff_of_false (fun same => ?_) fun digits => ?_
          · have length := congrArg List.length same
            simp [encodeByte] at length
          · have length := digits.length
            simp only [List.length_cons, List.length_nil] at length
            omega
      | c :: d :: cs =>
          rw [digits_cons, ← ih, ← encodeByte_eq_iff]
          simp only [encodeByte, List.map_cons, List.cons_append, List.nil_append,
            List.cons.injEq, and_true, and_assoc]

theorem toUpper_of_large {c : Char} (large : 128 ≤ c.toNat) : c.toUpper = c := by
  refine dif_neg fun lower => ?_
  have below : c.toNat ≤ 122 := lower.2
  omega

theorem toLower_toUpper (c : Char) : c.toUpper.toLower = c.toLower := by
  revert c
  refine forall_of_ascii (by decide +kernel) fun c large => ?_
  rw [toUpper_of_large large]

namespace Digits

variable {cs : List Char} {bytes : List UInt8} (digits : Digits cs bytes)

include digits

theorem map_toLower : cs.map Char.toLower = bytes.flatMap encodeByte :=
  decodeChars_eq_ok.mp (decodeChars_eq_ok_iff.mpr digits)

theorem shown {c : Char} (inside : c ∈ cs) : Text.isBlank c = false :=
  isBlank_of_value? (value?_of_decodeChars (decodeChars_eq_ok_iff.mpr digits) inside)

theorem means {c : Char} (inside : c ∈ cs) : ∃ v, Means c v := by
  have read := value?_of_decodeChars (decodeChars_eq_ok_iff.mpr digits) inside
  obtain ⟨v, value⟩ := Option.ne_none_iff_exists'.mp read
  exact ⟨v, means_iff.mpr value⟩

theorem toUpper : Digits (cs.map Char.toUpper) bytes := by
  rw [← decodeChars_eq_ok_iff, decodeChars_eq_ok, ← digits.map_toLower, List.map_map]
  exact List.map_congr_left fun c _ => toLower_toUpper c

end Digits

theorem digits_encode (bytes : List UInt8) : Digits (encode bytes).toList bytes :=
  decodeChars_eq_ok_iff.mp (decode_encode bytes)

theorem exists_values {cs : List Char} (each : ∀ c ∈ cs, ∃ v, Means c v) :
    ∃ vs : List Nat, cs.map value? = vs.map some := by
  induction cs with
  | nil => exact ⟨[], rfl⟩
  | cons c rest ih =>
      obtain ⟨⟨v, first⟩, others⟩ := List.forall_mem_cons.mp each
      obtain ⟨vs, later⟩ := ih others
      exact ⟨v :: vs, by rw [List.map_cons, List.map_cons, means_iff.mp first, later]⟩

/-- Twice as many digits as there are to be bytes are the digits of some. -/
theorem exists_digits_iff {cs : List Char} {n : Nat} :
    (∃ bytes, Digits cs bytes ∧ bytes.length = n) ↔
      cs.length = 2 * n ∧ ∀ c ∈ cs, ∃ v, Means c v := by
  constructor
  · rintro ⟨bytes, digits, rfl⟩
    exact ⟨digits.length, fun c inside => digits.means inside⟩
  · rintro ⟨length, each⟩
    obtain ⟨vs, values⟩ := exists_values each
    obtain ⟨small, lower⟩ := map_digit_of_values values
    have same : cs.length = vs.length := by
      rw [← List.length_map value?, values, List.length_map]
    have written := encode_paired (by omega) small
    have digits : Digits cs (paired vs) := by
      rw [← decodeChars_eq_ok_iff, decodeChars_eq_ok, written, lower]
    have twice := digits.length
    exact ⟨paired vs, digits, by omega⟩

theorem exists_bare (cs : List Char) :
    ∃ mark, cs = mark ++ bare cs ∧ (mark = [] ∨ mark = ['0', 'x']) := by
  rw [bare.eq_def]
  split
  · exact ⟨['0', 'x'], rfl, .inr rfl⟩
  · exact ⟨[], rfl, .inl rfl⟩

end Hex

namespace Address

variable {text : String} {a : Address}

theorem ofBytes?_eq_some {bytes : List UInt8} :
    ofBytes? bytes = some a ↔ bytes = a.bytes.toList := by
  constructor
  · intro made
    rw [ofBytes?] at made
    split at made
    · cases made
      rfl
    · cases made
  · rintro rfl
    exact ofBytes?_toList a

theorem parse_eq_ok : parse text = .ok a ↔
    Hex.decodeChars (Hex.bare (Text.trimBlank text.toList)) = .ok a.bytes.toList := by
  rw [parse]
  split
  · next fault failed => simp [failed]
  · next bytes read =>
      rw [read, Except.ok.injEq, ← ofBytes?_eq_some]
      split
      · next b made => rw [made, Option.some.injEq, Except.ok.injEq]
      · next none => simp [none]

/-- Reading takes away what stands around the digits, and nothing else. -/
theorem parse_eq_ok_iff : parse text = .ok a ↔
    ∃ digits, Text.Frames text digits ∧ Hex.Digits digits a.bytes.toList := by
  rw [parse_eq_ok]
  constructor
  · intro read
    obtain ⟨before, after, whole, front, back⟩ := Text.exists_trimBlank text.toList
    obtain ⟨mark, marked, known⟩ := Hex.exists_bare (Text.trimBlank text.toList)
    refine ⟨_, ⟨before, mark, after, ?_, front, back, known⟩, Hex.decodeChars_eq_ok_iff.mp read⟩
    rw [List.append_assoc before mark, ← marked, ← whole]
  · rintro ⟨digits, ⟨before, mark, after, whole, front, back, known⟩, read⟩
    have visible : ∀ c ∈ mark ++ digits, Text.isBlank c = false := by
      intro c inside
      rcases List.mem_append.mp inside with marked | digit
      · have each : ∀ c ∈ ['0', 'x'], Text.isBlank c = false := by
          simp only [List.forall_mem_cons]
          exact ⟨rfl, rfl, nofun⟩
        rcases known with rfl | rfl
        · cases marked
        · exact each c marked
      · exact read.shown digit
    have unmarked : Hex.bare (mark ++ digits) = digits := by
      rcases known with rfl | rfl
      · exact Hex.bare_of_toLower read.map_toLower
      · rfl
    rw [whole, Text.trimBlank_append_right back, List.append_assoc,
      Text.trimBlank_append_left front, Text.trimBlank_of_forall visible, unmarked,
      Hex.decodeChars_eq_ok_iff]
    exact read

theorem exists_parse_iff : (∃ a, parse text = .ok a) ↔
    ∃ digits, Text.Frames text digits ∧ digits.length = 42 ∧ ∀ c ∈ digits, ∃ v, Hex.Means c v := by
  simp only [parse_eq_ok_iff]
  constructor
  · rintro ⟨a, digits, framed, read⟩
    refine ⟨digits, framed, Hex.exists_digits_iff.mp ⟨_, read, a.bytes.length_toList⟩⟩
  · rintro ⟨digits, framed, size, each⟩
    obtain ⟨bytes, read, length⟩ := Hex.exists_digits_iff (n := 21).mpr ⟨size, each⟩
    exact ⟨⟨⟨bytes.toArray, by simpa using length⟩⟩, digits, framed, read⟩

/-- The digits of an address, of either case, are read as it in any frame. -/
theorem parse_framed {written before mark after : String}
    (digits : Hex.Digits written.toList a.bytes.toList)
    (front : Text.Blanks before.toList) (back : Text.Blanks after.toList)
    (known : mark = "" ∨ mark = "0x") :
    parse (before ++ mark ++ written ++ after) = .ok a := by
  refine parse_eq_ok_iff.mpr
    ⟨written.toList, ⟨before.toList, mark.toList, after.toList, ?_, front, back, ?_⟩, digits⟩
  · simp only [String.toList_append]
  · rcases known with rfl | rfl
    · exact .inl rfl
    · exact .inr rfl

theorem digits_hex (a : Address) : Hex.Digits a.hex.toList a.bytes.toList :=
  Hex.digits_encode a.bytes.toList

theorem digits_toUpper (a : Address) : Hex.Digits a.hex.toUpper.toList a.bytes.toList := by
  rw [String.toUpper, String.toList_map]
  exact (digits_hex a).toUpper

theorem toList_hex_of_digits {digits : List Char} (h : Hex.Digits digits a.bytes.toList) :
    a.hex.toList = digits.map Char.toLower := by
  rw [h.map_toLower, hex, Hex.encode, String.toList_ofList]

theorem decoder_eq_ok {site : Json.Site} {j : Json} :
    decoder site j = .ok a ↔ ∃ s, j = .string s ∧ parse s = .ok a := by
  rw [decoder, Json.Decoder.refine_eq_ok]
  simp only [Except.mapError_eq_ok, Json.text_eq_ok]

theorem decode_eq_ok : Json.decode decoder text = .ok a ↔
    ∃ s, Json.decode Json.text text = .ok s ∧ parse s = .ok a := by
  simp only [Json.decode_eq_ok, decoder_eq_ok, Json.text_eq_ok]
  constructor
  · rintro ⟨⟨s, written, read⟩, blank⟩
    exact ⟨s, ⟨written, blank⟩, read⟩
  · rintro ⟨s, ⟨written, blank⟩, read⟩
    exact ⟨⟨s, written, read⟩, blank⟩

theorem decode_string {s : String} :
    Json.decode decoder (Json.string s).compact = .ok a ↔ parse s = .ok a := by
  rw [decode_eq_ok, ((Json.decodes_text s).text (.string s)).1]
  simp only [Except.ok.injEq, exists_eq_left']

/-- An address is written as 42 digits of either case, perhaps with a mark before them and blanks
around, and in no other way; each of these ways is read as it, and it is shown by the digits alone.
The texts that documents give are read the same. -/
theorem text_grammar :
    (∀ text a, parse text = .ok a ↔
      ∃ digits, Text.Frames text digits ∧ Hex.Digits digits a.bytes.toList) ∧
    (∀ text, (∃ a, parse text = .ok a) ↔
      ∃ digits, Text.Frames text digits ∧ digits.length = 42 ∧
        ∀ c ∈ digits, ∃ v, Hex.Means c v) ∧
    (∀ (a : Address) (before mark after : String), Text.Blanks before.toList →
      Text.Blanks after.toList → mark = "" ∨ mark = "0x" →
      parse (before ++ mark ++ a.hex ++ after) = .ok a ∧
      parse (before ++ mark ++ a.hex.toUpper ++ after) = .ok a) ∧
    (∀ text a, parse text = .ok a → parse a.hex = .ok a ∧
      ∃ digits, Text.Frames text digits ∧ a.hex.toList = digits.map Char.toLower) ∧
    (∀ text shown, (parse text).map hex = .ok shown → (parse shown).map hex = .ok shown) ∧
    (∀ site j a, decoder site j = .ok a ↔ ∃ s, j = .string s ∧ parse s = .ok a) ∧
    (∀ text a, Json.decode decoder text = .ok a ↔
      ∃ s, Json.decode Json.text text = .ok s ∧ parse s = .ok a) ∧
    ∀ s a, Json.decode decoder (Json.string s).compact = .ok a ↔ parse s = .ok a := by
  refine ⟨fun _ _ => parse_eq_ok_iff, fun _ => exists_parse_iff, ?_, ?_, ?_,
    fun _ _ _ => decoder_eq_ok, fun _ _ => decode_eq_ok, fun _ _ => decode_string⟩
  · intro a before mark after front back known
    exact ⟨parse_framed (digits_hex a) front back known,
      parse_framed (digits_toUpper a) front back known⟩
  · intro text a read
    obtain ⟨digits, framed, named⟩ := parse_eq_ok_iff.mp read
    exact ⟨parse_hex a, digits, framed, toList_hex_of_digits named⟩
  · intro text shown read
    obtain ⟨a, -, rfl⟩ := Except.map_eq_ok.mp read
    rw [parse_hex a]
    rfl

theorem text_grammar_account : ∃ account : Address,
    account.hex = "00e72e44eab933faaf1fd4ce94bb57e08bff98a1ed" ∧
      parse "\t0x00E72E44EAB933FAAF1FD4CE94BB57E08BFF98A1ED\n" = .ok account := by
  let account : Address := ⟨#v[0x00, 0xe7, 0x2e, 0x44, 0xea, 0xb9, 0x33, 0xfa, 0xaf, 0x1f, 0xd4,
    0xce, 0x94, 0xbb, 0x57, 0xe0, 0x8b, 0xff, 0x98, 0xa1, 0xed]⟩
  have capitals : "\t" ++ "0x" ++ account.hex.toUpper ++ "\n" =
      "\t0x00E72E44EAB933FAAF1FD4CE94BB57E08BFF98A1ED\n" := by decide +kernel
  obtain ⟨-, -, written, -⟩ := text_grammar
  refine ⟨account, by decide +kernel, ?_⟩
  rw [← capitals]
  exact (written account "\t" "0x" "\n" (by decide) (by decide) (.inr rfl)).2

/-- The mark itself is small. -/
example : (parse "0X00e72e44eab933faaf1fd4ce94bb57e08bff98a1ed").isOk = false := by decide +kernel

end Address

end SealedTree
