import SealedTree.Address
import SealedTree.Proofs.HexText

/-!
Addresses as text. The digits of an address hold no blanks and do not begin with a mark, so reading
them gives the address.
-/

namespace SealedTree

namespace Text

theorem trimBlank_of_forall {cs : List Char} (shown : ∀ c ∈ cs, isBlank c = false) :
    trimBlank cs = cs := by
  have whole : ∀ ds : List Char, (∀ c ∈ ds, isBlank c = false) → ds.dropWhile isBlank = ds := by
    intro ds none
    cases ds with
    | nil => rfl
    | cons c rest => rw [List.dropWhile_cons_of_neg (by simp [none c List.mem_cons_self])]
  have back : ∀ c ∈ cs.reverse, isBlank c = false :=
    fun c inside => shown c (List.mem_reverse.mp inside)
  rw [trimBlank, whole cs shown, whole cs.reverse back, List.reverse_reverse]

end Text

namespace Hex

theorem isBlank_of_value? {c : Char} (h : value? c ≠ none) : Text.isBlank c = false := by
  have each : ∀ c, value? c ≠ none → Text.isBlank c = false :=
    forall_of_ascii (by decide +kernel) fun c large read => absurd (value?_of_large large) read
  exact each c h

end Hex

namespace Address

theorem parse_hex (a : Address) : parse a.hex = .ok a := by
  have read := Hex.decode_encode a.bytes.toList
  rw [Hex.decode, Hex.encode, String.toList_ofList] at read
  rw [parse, hex, Hex.encode, String.toList_ofList,
    Text.trimBlank_of_forall fun _ inside =>
      Hex.isBlank_of_value? (Hex.value?_of_decodeChars read inside), Hex.bare_encode, read]
  simp only [ofBytes?_toList]

end Address

end SealedTree
