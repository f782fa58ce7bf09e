import SealedTree.Json.Decoder
import SealedTree.Proofs.Json.Quoting
import SealedTree.Proofs.Success

/-!
Documents in bytes. No character is missing just if the bytes are the UTF-8 of a text; then they
have its characters, and a document is read from them as it is from the text. Otherwise the strings
in which one is missing have no value.
-/

namespace SealedTree

namespace Utf8

variable {bytes : ByteArray} {fuel place : Nat} {c : Char} {cs : List Char}

/-- What stands behind a character begins where its bytes end. -/
theorem extract_of_utf8DecodeChar? (here : bytes.utf8DecodeChar? place = some c) :
    bytes.extract place bytes.size =
      (String.utf8EncodeChar c).toByteArray ++ bytes.extract (place + c.utf8Size) bytes.size := by
  have inside := ByteArray.le_size_of_utf8DecodeChar?_eq_some here
  rw [ByteArray.utf8DecodeChar?_eq_utf8DecodeChar?_extract] at here
  have behind := ByteArray.eq_of_utf8DecodeChar?_eq_some here
  rwa [ByteArray.extract_extract, ByteArray.size_extract, Nat.min_self,
    Nat.add_sub_of_le (by omega), Nat.min_self] at behind

theorem extract_eq_cons_iff :
    bytes.extract place bytes.size = (c :: cs).utf8Encode ↔
      bytes.utf8DecodeChar? place = some c ∧
        bytes.extract (place + c.utf8Size) bytes.size = cs.utf8Encode := by
  rw [List.utf8Encode_cons, List.utf8Encode_singleton]
  constructor
  · intro same
    have here : bytes.utf8DecodeChar? place = some c := by
      rw [ByteArray.utf8DecodeChar?_eq_utf8DecodeChar?_extract, same,
        ByteArray.utf8DecodeChar?_utf8EncodeChar_append]
    rw [extract_of_utf8DecodeChar? here, ByteArray.append_right_inj] at same
    exact ⟨here, same⟩
  · rintro ⟨here, behind⟩
    rw [extract_of_utf8DecodeChar? here, behind]

theorem charsFrom_eq_cons_iff {cs : List (Option Char)} :
    charsFrom bytes (fuel + 1) place = some c :: cs ↔
      bytes.utf8DecodeChar? place = some c ∧
        charsFrom bytes fuel (place + c.utf8Size) = cs := by
  rw [charsFrom]
  split
  · next past =>
      refine ⟨nofun, fun ⟨here, _⟩ => ?_⟩
      have inside := ByteArray.lt_size_of_isSome_utf8DecodeChar? (Option.isSome_of_mem here)
      exact absurd past (Nat.not_le.mpr inside)
  · cases bytes.utf8DecodeChar? place with
    | none => simp
    | some d =>
        simp only [List.cons.injEq, Option.some.injEq]
        refine and_congr_right fun same => ?_
        rw [same]

theorem charsFrom_eq_map_some_iff (enough : bytes.size - place ≤ fuel) :
    charsFrom bytes fuel place = cs.map some ↔
      bytes.extract place bytes.size = cs.utf8Encode := by
  induction cs generalizing fuel place with
  | nil =>
      rw [List.map_nil, List.utf8Encode_nil, ByteArray.extract_eq_empty_iff, Nat.min_self]
      cases fuel with
      | zero => exact ⟨fun _ => by omega, fun _ => rfl⟩
      | succ fuel =>
          rw [charsFrom]
          split
          · next past => exact ⟨fun _ => past, fun _ => rfl⟩
          · next inside => split <;> exact ⟨nofun, fun past => absurd past inside⟩
  | cons c cs ih =>
      cases fuel with
      | zero =>
          refine ⟨nofun, fun same => ?_⟩
          have here := (extract_eq_cons_iff.mp same).1
          have inside := ByteArray.le_size_of_utf8DecodeChar?_eq_some here
          have := c.utf8Size_pos
          omega
      | succ fuel =>
          rw [List.map_cons, charsFrom_eq_cons_iff, extract_eq_cons_iff]
          have := c.utf8Size_pos
          exact and_congr_right fun _ => ih (by omega)

/-- Bytes have the characters of a text and no others just if they are its UTF-8. -/
theorem chars_eq_map_some_iff {text : String} :
    chars bytes = text.toList.map some ↔ bytes = text.toUTF8 := by
  rw [chars, charsFrom_eq_map_some_iff (Nat.sub_le bytes.size 0), ByteArray.extract_zero_size,
    String.utf8Encode_toList, String.toUTF8_eq_toByteArray]

theorem strays_eq_nil_iff {places : List (Option Char)} :
    strays places = [] ↔ ∃ cs : List Char, places = cs.map some := by
  induction places with
  | nil => exact ⟨fun _ => ⟨[], rfl⟩, fun _ => rfl⟩
  | cons place rest ih =>
      cases place with
      | none =>
          refine ⟨nofun, fun ⟨cs, same⟩ => ?_⟩
          obtain ⟨_, _, -, here, -⟩ := List.map_eq_cons_iff.mp same.symm
          cases here
      | some c =>
          rw [strays, ih]
          constructor
          · rintro ⟨cs, rfl⟩
            exact ⟨c :: cs, rfl⟩
          · rintro ⟨cs, same⟩
            obtain ⟨_, cs, -, -, behind⟩ := List.map_eq_cons_iff.mp same.symm
            exact ⟨cs, behind.symm⟩

/-- A character is missing just if the bytes are not the UTF-8 of any text. -/
theorem strays_chars_eq_nil_iff :
    strays (chars bytes) = [] ↔ ∃ text : String, bytes = text.toUTF8 := by
  rw [strays_eq_nil_iff]
  constructor
  · rintro ⟨cs, same⟩
    refine ⟨.ofList cs, chars_eq_map_some_iff.mp ?_⟩
    rwa [String.toList_ofList]
  · rintro ⟨text, rfl⟩
    exact ⟨text.toList, chars_eq_map_some_iff.mpr rfl⟩

end Utf8

namespace Json

/-- A text has a value just if it has one by its characters and none of them is missing. -/
theorem readText_eq_ok_iff {strays : List Nat} {cs rest : List Char} {s : String} :
    readText strays cs = .ok (.ok s, rest) ↔
      readText [] cs = .ok (.ok s, rest) ∧ hasStray strays cs rest = false := by
  rw [readText, readText]
  rcases pieces cs with ⟨ps, passing | behind⟩
  · dsimp only
    cases joined (some passing) ps <;> simp
  · simp only [Except.ok.injEq, Prod.mk.injEq, Except.bind_eq_ok, hasStray_nil,
      Bool.false_eq_true, if_false]
    constructor
    · rintro ⟨⟨text, read, made⟩, rfl⟩
      split at made
      · cases made
      · next clean => exact ⟨⟨⟨text, read, Except.ok.inj made⟩, rfl⟩, eq_false_of_ne_true clean⟩
    · rintro ⟨⟨⟨text, read, rfl⟩, rfl⟩, clean⟩
      exact ⟨⟨text, read, if_neg (by simp [clean])⟩, rfl⟩

/-- The second byte in the text is no character: the text can be passed over, but has no value. -/
example : (readBytes ⟨#[0x22, 0x63, 0xc3, 0x22]⟩).1 = .valueless .badCodePoint := by
  rfl

end Json

end SealedTree
