import SealedTree.Json.Text

/-!
Texts between quotes. Each character that is written is one piece of what is read, and stands for
itself again, so a text is read back from what is written for it, whatever follows.
-/

namespace SealedTree.Json

theorem unit?_digitChar {n : Nat} (h : n < 0x20) :
    unit? '0' '0' (Nat.digitChar (n / 16)) (Nat.digitChar (n % 16)) = some n := by
  have all : ∀ n < 0x20,
      unit? '0' '0' (Nat.digitChar (n / 16)) (Nat.digitChar (n % 16)) = some n := by decide
  exact all n h

/-- A character is written as an escape of two characters, as its number, or as itself. -/
theorem written_cases (c : Char) :
    (∃ e, e ≠ 'u' ∧ shortEscape e = some c ∧ written c = ['\\', e]) ∨
    c.toNat < 0x20 ∧ written c =
      ['\\', 'u', '0', '0', Nat.digitChar (c.toNat / 16), Nat.digitChar (c.toNat % 16)] ∨
    c ≠ '"' ∧ c ≠ '\\' ∧ ¬c.toNat < 0x20 ∧ written c = [c] := by
  rw [written.eq_def]
  split
  · exact .inl ⟨'"', by decide, rfl, rfl⟩
  · exact .inl ⟨'\\', by decide, rfl, rfl⟩
  · exact .inl ⟨'b', by decide, rfl, rfl⟩
  · exact .inl ⟨'f', by decide, rfl, rfl⟩
  · exact .inl ⟨'n', by decide, rfl, rfl⟩
  · exact .inl ⟨'r', by decide, rfl, rfl⟩
  · exact .inl ⟨'t', by decide, rfl, rfl⟩
  · next quote backslash _ _ _ _ _ =>
      split
      · next control => exact .inr (.inl ⟨control, rfl⟩)
      · next plain => exact .inr (.inr ⟨quote, backslash, plain, rfl⟩)

theorem pieces_quote (rest : List Char) : pieces ('"' :: rest) = ([], .ok rest) := by
  rw [pieces.eq_def]
  simp only [if_true]

theorem pieces_shortEscape {e c : Char} (other : e ≠ 'u') (short : shortEscape e = some c)
    (rest : List Char) :
    pieces ('\\' :: e :: rest) = (.char c :: (pieces rest).1, (pieces rest).2) := by
  rw [pieces.eq_def]
  simp only [short, if_true, if_neg (by decide : '\\' ≠ '"')]

theorem pieces_unit {a b c d : Char} {n : Nat} (unit : unit? a b c d = some n)
    (rest : List Char) :
    pieces ('\\' :: 'u' :: a :: b :: c :: d :: rest) =
      (.unit n :: (pieces rest).1, (pieces rest).2) := by
  rw [pieces.eq_def]
  simp only [unit, if_true, if_neg (by decide : '\\' ≠ '"')]

theorem pieces_plain {c : Char} (quote : c ≠ '"') (backslash : c ≠ '\\')
    (plain : ¬c.toNat < 0x20) (rest : List Char) :
    pieces (c :: rest) = (.char c :: (pieces rest).1, (pieces rest).2) := by
  rw [pieces.eq_def]
  simp only [quote, backslash, plain, if_false]

theorem pieces_written (c : Char) (rest : List Char) :
    ∃ p, pieces (written c ++ rest) = (p :: (pieces rest).1, (pieces rest).2) ∧
      ∀ ps, joined none (p :: ps) = (joined none ps).map (c :: ·) := by
  obtain ⟨e, other, short, same⟩ | ⟨control, same⟩ | ⟨quote, backslash, plain, same⟩ :=
    written_cases c
  · rw [same]
    exact ⟨.char c, pieces_shortEscape other short rest, fun _ => by rw [joined]⟩
  · rw [same]
    refine ⟨.unit c.toNat, pieces_unit (unit?_digitChar control) rest, fun _ => ?_⟩
    rw [joined.eq_def]
    simp only [Char.ofNat_toNat]
    rw [if_pos (by omega)]
  · rw [same]
    exact ⟨.char c, pieces_plain quote backslash plain rest, fun _ => by rw [joined]⟩

theorem pieces_flatMap_written (cs rest : List Char) :
    ∃ ps, pieces (cs.flatMap written ++ '"' :: rest) = (ps, .ok rest) ∧
      joined none ps = .ok cs := by
  induction cs with
  | nil => exact ⟨[], pieces_quote rest, rfl⟩
  | cons c cs ih =>
      obtain ⟨ps, read, join⟩ := ih
      obtain ⟨p, first, stands⟩ := pieces_written c (cs.flatMap written ++ '"' :: rest)
      refine ⟨p :: ps, ?_, ?_⟩
      · rw [List.flatMap_cons, List.append_assoc, first, read]
      · rw [stands, join]
        rfl

theorem hasStray_nil (cs rest : List Char) : hasStray [] cs rest = false := rfl

/-- A text is read back from what is written for it after the opening quote. -/
theorem readText_written (s : String) (rest : List Char) :
    readText [] (s.toList.flatMap written ++ '"' :: rest) = .ok (.ok s, rest) := by
  obtain ⟨ps, read, join⟩ := pieces_flatMap_written s.toList rest
  rw [readText, read]
  simp only [join, hasStray_nil, Bool.false_eq_true, if_false]
  change Except.ok (Except.ok (String.ofList s.toList), rest) = _
  rw [String.ofList_toList]

end SealedTree.Json
