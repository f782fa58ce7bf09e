import SealedTree.Json.Decoder
import SealedTree.Proofs.Json.Decimals
import SealedTree.Proofs.Json.Quoting

/-!
What a text is read as. It is read as a document if the reader takes exactly that text for it,
whatever follows; arrays and objects are read as what their parts are read as, whatever blanks stand
between them.
-/

namespace SealedTree.Json

/-- Blanks between the parts of a document. -/
def Blank (ws : List Char) : Prop := ∀ c ∈ ws, c = ' ' ∨ c = '\n' ∨ c = '\t' ∨ c = '\r'

/-- A value may begin with this. -/
def Opens (c : Char) : Prop := ¬(c = ' ' ∨ c = '\n' ∨ c = '\t' ∨ c = '\r') ∧ c ≠ ']' ∧ c ≠ '\x7d'

instance (c : Char) : Decidable (Opens c) := inferInstanceAs (Decidable (_ ∧ _))

theorem skipBlank_append {ws : List Char} (blank : Blank ws) (cs : List Char) :
    skipBlank (ws ++ cs) = skipBlank cs := by
  rw [skipBlank, List.dropWhile_append_of_pos fun c hc => decide_eq_true (blank c hc), skipBlank]

theorem skipBlank_cons {c : Char} (shown : ¬(c = ' ' ∨ c = '\n' ∨ c = '\t' ∨ c = '\r'))
    (cs : List Char) : skipBlank (c :: cs) = c :: cs := by
  rw [skipBlank, List.dropWhile_cons_of_neg (by simpa using shown)]

/-- The reader takes exactly these characters, and takes them for this document. -/
structure ReadsAs (j : Json) (cs : List Char) : Prop where
  opens : ∃ c more, cs = c :: more ∧ Opens c
  read : ∀ fuel rest, cs.length ≤ fuel → Ends rest → readValue [] fuel (cs ++ rest) = (j, some rest)

theorem readValue_scalar {c : Char} {cs : List Char} (opens : Opens c) (square : c ≠ '[')
    (curly : c ≠ '\x7b') (fuel : Nat) :
    readValue [] (fuel + 1) (c :: cs) = readScalar [] (c :: cs) := by
  rw [readValue, skipBlank_cons opens.1]
  split
  · next same => exact absurd (List.cons.inj same).1 square
  · next same => exact absurd (List.cons.inj same).1 curly
  · rfl

/-- A value that is no array and no object. -/
theorem ReadsAs.scalar {j : Json} {c : Char} {cs : List Char} (opens : Opens c) (square : c ≠ '[')
    (curly : c ≠ '\x7b')
    (read : ∀ rest, Ends rest → readScalar [] (c :: (cs ++ rest)) = (j, some rest)) :
    ReadsAs j (c :: cs) where
  opens := ⟨c, cs, rfl, opens⟩
  read := by
    intro fuel rest enough ends
    obtain ⟨fuel, rfl⟩ : ∃ n, fuel = n + 1 := ⟨fuel - 1, by rw [List.length_cons] at enough; omega⟩
    rw [List.cons_append, readValue_scalar opens square curly, read rest ends]

theorem readsAs_null : ReadsAs .null ['n', 'u', 'l', 'l'] :=
  .scalar (by decide) (by decide) (by decide) fun _ _ => rfl

theorem readsAs_bool (b : Bool) : ReadsAs (.bool b) (compactChars (.bool b)) := by
  cases b with
  | true => exact .scalar (by decide) (by decide) (by decide) fun _ _ => rfl
  | false => exact .scalar (by decide) (by decide) (by decide) fun _ _ => rfl

theorem readsAs_string (s : String) : ReadsAs (.string s) (writeText s) := by
  change ReadsAs _ ('"' :: (s.toList.flatMap written ++ ['"']))
  refine .scalar (by decide) (by decide) (by decide) fun rest _ => ?_
  rw [List.append_assoc, List.singleton_append, readScalar, readString, readText_written]

/-- What a numeral is read as. -/
def Numeral.json (n : Numeral) : Json :=
  match n.value with
  | .ok value => .number value
  | .error fault => .valueless fault

/-- A number is read as an integer just if it is written as one. -/
theorem readNumber_eq_ofInt {cs rest : List Char} {n : Numeral}
    (spelled : numeral cs = .ok (n, rest)) {i : Int} :
    (readNumber cs).1 = .ofInt i ↔ n.IsInteger i := by
  rw [← Numeral.value_eq_integer, readNumber, spelled]
  dsimp only
  cases n.value with
  | ok value => simp [ofInt]
  | error fault => simp [ofInt]

/-- A numeral begins with its sign or a digit. -/
theorem Parts.WellFormed.exists_chars_eq {p : Parts} (formed : p.WellFormed) :
    ∃ c cs, p.chars = c :: cs ∧ (c = '-' ∨ IsDigit c) := by
  rw [Parts.chars]
  split
  · exact ⟨_, _, rfl, .inl rfl⟩
  · obtain ⟨c, more, begins⟩ := List.exists_cons_of_ne_nil formed.whole.nonempty
    refine ⟨c, _, by rw [Parts.unsigned, begins, List.cons_append], .inr ?_⟩
    exact formed.whole.digit c (by rw [begins]; exact List.mem_cons_self)

theorem ne_of_number {c : Char} (number : c = '-' ∨ IsDigit c) (other : Char)
    (none : ¬(other = '-' ∨ IsDigit other)) : c ≠ other := by
  rintro rfl
  exact none number

theorem readScalar_numeral {c : Char} (number : c = '-' ∨ IsDigit c) (cs : List Char) :
    readScalar [] (c :: cs) = readNumber (c :: cs) := by
  have digit : c = '-' ∨ (digit? c).isSome := number.imp_right fun h => by
    rw [digit?_of_isDigit h]
    rfl
  rw [readScalar.eq_def]
  split
  · next empty => cases empty
  · next same => exact absurd (List.cons.inj same).1 (ne_of_number number _ (by decide))
  · next same => exact absurd (List.cons.inj same).1 (ne_of_number number _ (by decide))
  · next same => exact absurd (List.cons.inj same).1 (ne_of_number number _ (by decide))
  · next same => exact absurd (List.cons.inj same).1 (ne_of_number number _ (by decide))
  · next same =>
      cases same
      rw [if_pos digit]

theorem readsAs_numeral {p : Parts} (formed : p.WellFormed) :
    ReadsAs p.numeral.json p.chars := by
  obtain ⟨c, cs, begins, number⟩ := formed.exists_chars_eq
  have other := ne_of_number number
  have shown : ¬(c = ' ' ∨ c = '\n' ∨ c = '\t' ∨ c = '\r') := by
    rintro (h | h | h | h) <;> exact other _ (by decide) h
  have opens : Opens c := ⟨shown, other ']' (by decide), other '\x7d' (by decide)⟩
  rw [begins]
  refine .scalar opens (other '[' (by decide)) (other '\x7b' (by decide)) fun rest ends => ?_
  rw [readScalar_numeral number, ← List.cons_append, ← begins, readNumber, formed.spelled rest ends,
    Numeral.json]
  simp only
  cases p.numeral.value with
  | ok value => rfl
  | error fault => rfl

theorem ends_append {ws : List Char} (blank : Blank ws) {c : Char} (rest : List Char)
    (closing : ¬IsDigit c ∧ c ≠ '.' ∧ c ≠ 'e' ∧ c ≠ 'E') : Ends (ws ++ c :: rest) := by
  intro d head
  cases ws with
  | nil =>
      cases head
      exact closing
  | cons b ws =>
      obtain rfl : b = d := Option.some.inj head
      rcases blank b List.mem_cons_self with rfl | rfl | rfl | rfl <;> decide

section Turn

variable {b : Bracket} {ws : List Char}

theorem turn_close (blank : Blank ws) (first : Bool)
    (shown : ¬(b.closing = ' ' ∨ b.closing = '\n' ∨ b.closing = '\t' ∨ b.closing = '\r'))
    (rest : List Char) : turn first b (ws ++ b.closing :: rest) = .close rest := by
  rw [turn, skipBlank_append blank, skipBlank_cons shown]
  simp only [if_true]

theorem turn_square (blank : Blank ws) (first : Bool) (rest : List Char) :
    turn first .square (ws ++ ']' :: rest) = .close rest :=
  turn_close (b := .square) blank first (by decide) rest

theorem turn_curly (blank : Blank ws) (first : Bool) (rest : List Char) :
    turn first .curly (ws ++ '\x7d' :: rest) = .close rest :=
  turn_close (b := .curly) blank first (by decide) rest

theorem turn_first (blank : Blank ws) {c : Char} (opens : Opens c) (other : c ≠ b.closing)
    (rest : List Char) : turn true b (ws ++ c :: rest) = .element (c :: rest) := by
  rw [turn, skipBlank_append blank, skipBlank_cons opens.1]
  simp only [other, if_false, if_true]

theorem turn_next (blank : Blank ws) {c : Char} (opens : Opens c) (other : c ≠ b.closing)
    (comma : b.closing ≠ ',') (rest : List Char) :
    turn false b (',' :: (ws ++ c :: rest)) = .element (c :: rest) := by
  rw [turn, skipBlank_cons (by decide)]
  simp only [comma.symm, Bool.false_eq_true, if_false, if_true]
  rw [skipBlank_append blank, skipBlank_cons opens.1]
  simp only [other, if_false]

end Turn

/-- What stands after an item of an array, up to the bracket. -/
structure ItemsFollow (items : List Json) (cs : List Char) : Prop where
  ends : ∀ rest, Ends (cs ++ ']' :: rest)
  read : ∀ fuel rest, cs.length + 1 ≤ fuel →
    readItems [] fuel false (cs ++ ']' :: rest) = (items, none, some rest)

/-- The first of the items that are left, whether it is the first of the array or not. -/
theorem ItemsFollow.item {item : Json} {items : List Json} {cs more : List Char}
    (follow : ItemsFollow items more) (first : ReadsAs item cs) {fuel : Nat} {front : Bool}
    {text rest : List Char} (enough : cs.length + more.length ≤ fuel)
    (turn : turn front .square text = .element (cs ++ (more ++ ']' :: rest))) :
    readItems [] (fuel + 1) front text = (item :: items, none, some rest) := by
  obtain ⟨c, begin, same, -⟩ := first.opens
  have some : cs.length = begin.length + 1 := by rw [same, List.length_cons]
  have read := first.read fuel (more ++ ']' :: rest) (by omega) (follow.ends rest)
  have later := follow.read fuel rest (by omega)
  rw [readItems, turn]
  simp only [read, later]

theorem ItemsFollow.nil {ws : List Char} (blank : Blank ws) : ItemsFollow [] ws where
  ends rest := ends_append blank rest (by decide)
  read := by
    intro fuel rest enough
    obtain ⟨fuel, rfl⟩ : ∃ n, fuel = n + 1 := ⟨fuel - 1, by omega⟩
    rw [readItems, turn_square blank]

theorem ItemsFollow.cons {item : Json} {items : List Json} {ws cs more : List Char}
    (blank : Blank ws) (first : ReadsAs item cs) (follow : ItemsFollow items more) :
    ItemsFollow (item :: items) (',' :: (ws ++ (cs ++ more))) where
  ends rest := by
    rintro c ⟨⟩
    decide
  read := by
    intro fuel rest enough
    simp only [List.length_cons, List.length_append] at enough
    obtain ⟨fuel, rfl⟩ : ∃ n, fuel = n + 1 := ⟨fuel - 1, by omega⟩
    refine follow.item first (by omega) ?_
    obtain ⟨c, begin, rfl, opens⟩ := first.opens
    simp only [List.cons_append, List.append_assoc]
    exact turn_next blank opens opens.2.1 (by decide) _

/-- An array is read as what its items are read as. -/
theorem ReadsAs.array {item : Json} {items : List Json} {ws cs more : List Char}
    (blank : Blank ws) (first : ReadsAs item cs) (follow : ItemsFollow items more) :
    ReadsAs (.array (item :: items) none) ('[' :: (ws ++ (cs ++ more)) ++ [']']) where
  opens := ⟨'[', _, rfl, by decide⟩
  read := by
    intro fuel rest enough ends
    simp only [List.length_cons, List.length_append, List.length_nil] at enough
    obtain ⟨fuel, rfl⟩ : ∃ n, fuel = n + 2 := ⟨fuel - 2, by omega⟩
    have read : readItems [] (fuel + 1) true (ws ++ (cs ++ (more ++ ']' :: rest))) =
        (item :: items, none, some rest) := by
      refine follow.item first (by omega) ?_
      obtain ⟨c, begin, rfl, opens⟩ := first.opens
      exact turn_first blank opens opens.2.1 _
    simp only [List.cons_append, List.append_assoc, List.nil_append]
    rw [readValue, skipBlank_cons (by decide)]
    simp only [read]

theorem readsAs_emptyArray : ReadsAs (.array [] none) ['[', ']'] where
  opens := ⟨'[', _, rfl, by decide⟩
  read := by
    intro fuel rest enough _
    obtain ⟨fuel, rfl⟩ : ∃ n, fuel = n + 2 := ⟨fuel - 2, by simp at enough; omega⟩
    rfl

theorem ReadsAs.read_blank {j : Json} {ws cs : List Char} (h : ReadsAs j cs) (blank : Blank ws)
    {fuel : Nat} {rest : List Char} (enough : cs.length ≤ fuel) (ends : Ends rest) :
    readValue [] fuel (ws ++ (cs ++ rest)) = (j, some rest) := by
  obtain ⟨c, more, same, -⟩ := h.opens
  obtain ⟨fuel, rfl⟩ : ∃ n, fuel = n + 1 :=
    ⟨fuel - 1, by rw [same, List.length_cons] at enough; omega⟩
  rw [← h.read (fuel + 1) rest enough ends, readValue, skipBlank_append blank, ← readValue]

/-- A name and a value, as far as the value goes. -/
def memberChars (name : String) (ws cs : List Char) : List Char :=
  writeText name ++ ':' :: (ws ++ cs)

/-- What stands after a member of an object, up to the brace. -/
structure MembersFollow (members : List (Except Fault String × Json)) (cs : List Char) : Prop where
  ends : ∀ rest, Ends (cs ++ '\x7d' :: rest)
  read : ∀ fuel rest, cs.length + 1 ≤ fuel →
    readMembers [] fuel false (cs ++ '\x7d' :: rest) = (members, none, some rest)

/-- The first of the members that are left, whether it is the first of the object or not. -/
theorem MembersFollow.member {value : Json} {members : List (Except Fault String × Json)}
    {ws cs more : List Char} (follow : MembersFollow members more) (first : ReadsAs value cs)
    (blank : Blank ws) (name : String) {fuel : Nat} {front : Bool} {text rest : List Char}
    (enough : cs.length + more.length ≤ fuel)
    (turn : turn front .curly text =
      .element (memberChars name ws cs ++ (more ++ '\x7d' :: rest))) :
    readMembers [] (fuel + 1) front text = ((.ok name, value) :: members, none, some rest) := by
  obtain ⟨c, begin, same, opens⟩ := first.opens
  have some : cs.length = begin.length + 1 := by rw [same, List.length_cons]
  have quoted : memberChars name ws cs ++ (more ++ '\x7d' :: rest) =
      '"' :: (name.toList.flatMap written ++
        '"' :: ':' :: (ws ++ (cs ++ (more ++ '\x7d' :: rest)))) := by
    simp [memberChars, writeText]
  have read := first.read_blank blank (by omega : cs.length ≤ fuel) (follow.ends rest)
  have later := follow.read fuel rest (by omega)
  rw [readMembers, turn, quoted]
  simp only [readText_written, skipBlank_cons (by decide : ¬(':' = ' ' ∨ _)), read, later]

theorem MembersFollow.nil {ws : List Char} (blank : Blank ws) : MembersFollow [] ws where
  ends rest := ends_append blank rest (by decide)
  read := by
    intro fuel rest enough
    obtain ⟨fuel, rfl⟩ : ∃ n, fuel = n + 1 := ⟨fuel - 1, by omega⟩
    rw [readMembers, turn_curly blank]

theorem MembersFollow.cons {value : Json} {members : List (Except Fault String × Json)}
    {ws ws' cs more : List Char} (blank : Blank ws) (name : String) (blank' : Blank ws')
    (first : ReadsAs value cs) (follow : MembersFollow members more) :
    MembersFollow ((.ok name, value) :: members)
      (',' :: (ws ++ (memberChars name ws' cs ++ more))) where
  ends rest := by
    rintro c ⟨⟩
    decide
  read := by
    intro fuel rest enough
    simp only [List.length_cons, List.length_append, memberChars] at enough
    obtain ⟨fuel, rfl⟩ : ∃ n, fuel = n + 1 := ⟨fuel - 1, by omega⟩
    refine follow.member first blank' name (by omega) ?_
    simp only [List.cons_append, List.append_assoc]
    exact turn_next blank (by decide) (by decide) (by decide) _

/-- An object is read as what its members are read as. -/
theorem ReadsAs.object {value : Json} {members : List (Except Fault String × Json)}
    {ws ws' cs more : List Char} (blank : Blank ws) (name : String) (blank' : Blank ws')
    (first : ReadsAs value cs) (follow : MembersFollow members more) :
    ReadsAs (.object ((.ok name, value) :: members) none)
      ('\x7b' :: (ws ++ (memberChars name ws' cs ++ more)) ++ ['\x7d']) where
  opens := ⟨'\x7b', _, rfl, by decide⟩
  read := by
    intro fuel rest enough ends
    simp only [List.length_cons, List.length_append, List.length_nil, memberChars] at enough
    obtain ⟨fuel, rfl⟩ : ∃ n, fuel = n + 2 := ⟨fuel - 2, by omega⟩
    have read : readMembers [] (fuel + 1) true
        (ws ++ (memberChars name ws' cs ++ (more ++ '\x7d' :: rest))) =
          ((.ok name, value) :: members, none, some rest) :=
      follow.member first blank' name (by omega) (turn_first blank (by decide) (by decide) _)
    simp only [List.cons_append, List.append_assoc, List.nil_append]
    rw [readValue, skipBlank_cons (by decide)]
    simp only [read]

theorem readsAs_emptyObject : ReadsAs (.object [] none) ['\x7b', '\x7d'] where
  opens := ⟨'\x7b', _, rfl, by decide⟩
  read := by
    intro fuel rest enough _
    obtain ⟨fuel, rfl⟩ : ∃ n, fuel = n + 2 := ⟨fuel - 2, by simp at enough; omega⟩
    rfl

section Commas

/-- Texts with commas between them. -/
def commas {α : Type} (text : α → List Char) : List α → List Char
  | [] => []
  | [a] => text a
  | a :: rest => text a ++ ',' :: commas text rest

theorem commas_cons_cons {α : Type} (text : α → List Char) (a next : α) (rest : List α) :
    commas text (a :: next :: rest) = text a ++ ',' :: commas text (next :: rest) := rfl

variable {ws ws' : List Char}

theorem itemsFollow_commas (blank : Blank ws) (blank' : Blank ws') {f : Json → Json}
    {text : Json → List Char} {items : List Json} (reads : ∀ j ∈ items, ReadsAs (f j) (text j))
    (first : Json) :
    ∃ more, commas (fun j => ws ++ text j) (first :: items) ++ ws' = ws ++ (text first ++ more) ∧
      ItemsFollow (items.map f) more := by
  induction items generalizing first with
  | nil => exact ⟨ws', by simp [commas], .nil blank'⟩
  | cons next rest ih =>
      obtain ⟨more, same, follow⟩ := ih (fun j hj => reads j (List.mem_cons_of_mem next hj)) next
      refine ⟨',' :: (ws ++ (text next ++ more)), ?_,
        .cons blank (reads next List.mem_cons_self) follow⟩
      rw [← same, commas_cons_cons]
      simp

theorem readsAs_array (blank : Blank ws) (blank' : Blank ws') {f : Json → Json}
    {text : Json → List Char} {items : List Json} (reads : ∀ j ∈ items, ReadsAs (f j) (text j))
    (some : items ≠ []) :
    ReadsAs (.array (items.map f) none)
      ('[' :: commas (fun j => ws ++ text j) items ++ ws' ++ [']']) := by
  obtain ⟨first, rest, rfl⟩ := List.exists_cons_of_ne_nil some
  obtain ⟨more, same, follow⟩ := itemsFollow_commas blank blank'
    (fun j hj => reads j (List.mem_cons_of_mem first hj)) first
  have read := ReadsAs.array blank (reads first List.mem_cons_self) follow
  rwa [← same] at read

abbrev Member := Except Fault String × Json

/-- A member as it is written, after blanks. -/
def spaced (ws gap : List Char) (text : Json → List Char) (m : Member) : List Char :=
  ws ++ memberChars (m.1.toOption.getD "") gap (text m.2)

variable {gap : List Char}

theorem membersFollow_commas (blank : Blank ws) (blank' : Blank ws') (between : Blank gap)
    {f : Json → Json} {text : Json → List Char} {members : List Member}
    (reads : ∀ m ∈ members, m.1.isOk ∧ ReadsAs (f m.2) (text m.2)) (first : Member) :
    ∃ more, commas (spaced ws gap text) (first :: members) ++ ws' =
        spaced ws gap text first ++ more ∧
      MembersFollow (members.map fun m => (m.1, f m.2)) more := by
  induction members generalizing first with
  | nil => exact ⟨ws', rfl, .nil blank'⟩
  | cons next rest ih =>
      obtain ⟨more, same, follow⟩ := ih (fun m hm => reads m (List.mem_cons_of_mem next hm)) next
      obtain ⟨named, read⟩ := reads next List.mem_cons_self
      obtain ⟨name | name, value⟩ := next
      · cases named
      · refine ⟨',' :: (ws ++ (memberChars name gap (text value) ++ more)), ?_,
          .cons blank name between read follow⟩
        rw [commas_cons_cons, List.append_assoc, List.cons_append, same]
        simp [spaced, Except.toOption]

theorem readsAs_object (blank : Blank ws) (blank' : Blank ws') (between : Blank gap)
    {f : Json → Json} {text : Json → List Char} {members : List Member}
    (reads : ∀ m ∈ members, m.1.isOk ∧ ReadsAs (f m.2) (text m.2)) (some : members ≠ []) :
    ReadsAs (.object (members.map fun m => (m.1, f m.2)) none)
      ('\x7b' :: commas (spaced ws gap text) members ++ ws' ++ ['\x7d']) := by
  obtain ⟨first, rest, rfl⟩ := List.exists_cons_of_ne_nil some
  obtain ⟨more, same, follow⟩ := membersFollow_commas blank blank' between
    (fun m hm => reads m (List.mem_cons_of_mem first hm)) first
  obtain ⟨named, read⟩ := reads first List.mem_cons_self
  obtain ⟨name | name, value⟩ := first
  · cases named
  · have whole := ReadsAs.object blank name between read follow
    have text : commas (spaced ws gap text) ((.ok name, value) :: rest) ++ ws' =
        ws ++ (memberChars name gap (text value) ++ more) := same.trans (List.append_assoc ..)
    rwa [← text] at whole

end Commas

end SealedTree.Json
