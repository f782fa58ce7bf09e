import SealedTree.Text.Quoted

/-!
Bytes as hexadecimal text. Writing gives two lower-case digits a byte; reading takes digits of
either case, and tells an odd number of bytes of text from a character that is no digit.
-/

namespace SealedTree.Hex

inductive Fault
  | oddLength
  /-- The first byte of the text that is no digit, and how many bytes stand before it. -/
  | badByte (byte : UInt8) (position : Nat)
  deriving DecidableEq

/-- A byte is shown as the character with its number. -/
def Fault.message : Fault → String
  | .oddLength => "Odd number of digits"
  | .badByte byte position =>
      "Invalid character " ++ Text.quotedChar (Char.ofNat byte.toNat) ++ " at position " ++
        toString position

def digit (n : Nat) : Char :=
  if n < 10 then Char.ofNat (48 + n) else Char.ofNat (87 + n)

def value? (c : Char) : Option Nat :=
  if '0' ≤ c ∧ c ≤ '9' then some (c.toNat - 48)
  else if 'a' ≤ c ∧ c ≤ 'f' then some (c.toNat - 87)
  else if 'A' ≤ c ∧ c ≤ 'F' then some (c.toNat - 55)
  else none

def encodeByte (b : UInt8) : List Char :=
  [digit (b.toNat / 16), digit (b.toNat % 16)]

def encode (bytes : List UInt8) : String :=
  String.ofList (bytes.flatMap encodeByte)

def leadByte (c : Char) : UInt8 :=
  let n := c.toNat
  if n < 0x80 then UInt8.ofNat n
  else if n < 0x800 then UInt8.ofNat (0xC0 + n / 0x40)
  else if n < 0x10000 then UInt8.ofNat (0xE0 + n / 0x1000)
  else UInt8.ofNat (0xF0 + n / 0x40000)

/-- The values of the digits, the first of which stands at `position`. -/
def values (position : Nat) : List Char → Except Fault (List Nat)
  | [] => .ok []
  | c :: rest =>
      match value? c with
      | none => .error (.badByte (leadByte c) position)
      | some v => (values (position + 1) rest).map (v :: ·)

def paired : List Nat → List UInt8
  | hi :: lo :: rest => UInt8.ofNat (16 * hi + lo) :: paired rest
  | _ => []

def byteLength : List Char → Nat
  | [] => 0
  | c :: rest => c.utf8Size + byteLength rest

def decodeChars (cs : List Char) : Except Fault (List UInt8) :=
  if byteLength cs % 2 = 1 then .error .oddLength
  else (values 0 cs).map paired

def decode (s : String) : Except Fault (List UInt8) :=
  decodeChars s.toList

/-- Digits without the `0x` that may stand before them. -/
def bare : List Char → List Char
  | '0' :: 'x' :: rest => rest
  | cs => cs

theorem value?_digit {n : Nat} (h : n < 16) : value? (digit n) = some n := by
  have all : ∀ n < 16, value? (digit n) = some n := by decide
  exact all n h

theorem utf8Size_digit {n : Nat} (h : n < 16) : (digit n).utf8Size = 1 := by
  have all : ∀ n < 16, (digit n).utf8Size = 1 := by decide
  exact all n h

theorem byteLength_encode (bytes : List UInt8) :
    byteLength (bytes.flatMap encodeByte) = 2 * bytes.length := by
  induction bytes with
  | nil => rfl
  | cons b rest ih =>
      have hb := b.toNat_lt
      simp only [List.flatMap_cons, encodeByte, List.cons_append, List.nil_append, byteLength, ih,
        List.length_cons]
      rw [utf8Size_digit (by omega), utf8Size_digit (by omega)]
      omega

theorem values_encode (bytes : List UInt8) (position : Nat) :
    (values position (bytes.flatMap encodeByte)).map paired = .ok bytes := by
  induction bytes generalizing position with
  | nil => rfl
  | cons b rest ih =>
      have hb := b.toNat_lt
      have step := ih (position + 2)
      simp only [List.flatMap_cons, encodeByte, List.cons_append, List.nil_append, values]
      rw [value?_digit (by omega), value?_digit (by omega)]
      cases hv : values (position + 1 + 1) (rest.flatMap encodeByte) with
      | error e => simp [hv, Except.map] at step
      | ok vs =>
          simp only [hv, Except.map, Except.ok.injEq] at step
          simp only [Except.map, paired, step]
          have : 16 * (b.toNat / 16) + b.toNat % 16 = b.toNat := by omega
          rw [this, UInt8.ofNat_toNat]

theorem decode_encode (bytes : List UInt8) : decode (encode bytes) = .ok bytes := by
  have even : ¬byteLength (bytes.flatMap encodeByte) % 2 = 1 := by
    rw [byteLength_encode]; omega
  rw [decode, encode, String.toList_ofList, decodeChars, if_neg even, values_encode]

end SealedTree.Hex
