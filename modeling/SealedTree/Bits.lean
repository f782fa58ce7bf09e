/-!
Numbers as bits, the lowest bit first, and bits packed into bytes from bit zero upward.
-/

namespace SealedTree.Bits

/-- The lowest `width` bits of a number. -/
def ofNat : (width : Nat) → Nat → List Bool
  | 0, _ => []
  | width + 1, n => (n % 2 == 1) :: ofNat width (n / 2)

def toNat : List Bool → Nat
  | [] => 0
  | b :: rest => b.toNat + 2 * toNat rest

/-- The bytes that hold the bits; the last one is filled up with zeros. -/
def pack (bits : List Bool) : List UInt8 :=
  match bits with
  | [] => []
  | b :: rest => UInt8.ofNat (toNat ((b :: rest).take 8)) :: pack (rest.drop 7)
  termination_by bits.length
  decreasing_by rw [List.length_drop, List.length_cons]; omega

def unpack (bytes : List UInt8) : List Bool :=
  bytes.flatMap fun b => ofNat 8 b.toNat

@[simp] theorem length_ofNat (width n : Nat) : (ofNat width n).length = width := by
  induction width generalizing n with
  | zero => rfl
  | succ width ih => simp [ofNat, ih]

theorem toNat_lt (bits : List Bool) : toNat bits < Nat.pow 2 bits.length := by
  induction bits with
  | nil => exact Nat.one_pos
  | cons b rest ih =>
      have := b.toNat_lt
      change b.toNat + 2 * toNat rest < Nat.pow 2 rest.length * 2
      omega

theorem toNat_ofNat (width n : Nat) : toNat (ofNat width n) = n % Nat.pow 2 width := by
  induction width generalizing n with
  | zero => exact (Nat.mod_one n).symm
  | succ width ih =>
      have bit : (n % 2 == 1).toNat = n % 2 := by
        rcases Nat.mod_two_eq_zero_or_one n with h | h <;> simp [h]
      change (n % 2 == 1).toNat + 2 * toNat (ofNat width (n / 2)) = n % (Nat.pow 2 width * 2)
      rw [ih, bit, Nat.mul_comm (Nat.pow 2 width) 2, Nat.mod_mul]

theorem ofNat_toNat (bits : List Bool) : ofNat bits.length (toNat bits) = bits := by
  induction bits with
  | nil => rfl
  | cons b rest ih =>
      have odd : ((b.toNat + 2 * toNat rest) % 2 == 1) = b := by
        rw [Nat.add_mul_mod_self_left]
        cases b <;> rfl
      have half : (b.toNat + 2 * toNat rest) / 2 = toNat rest := by
        have := b.toNat_lt
        omega
      rw [List.length_cons, toNat, ofNat, odd, half, ih]

theorem length_le_pack (bits : List Bool) : bits.length ≤ 8 * (pack bits).length := by
  fun_induction pack bits with
  | case1 => simp
  | case2 b rest ih =>
      simp only [List.length_drop] at ih
      simp only [List.length_cons]
      omega

@[simp] theorem length_unpack (bytes : List UInt8) : (unpack bytes).length = 8 * bytes.length := by
  induction bytes with
  | nil => rfl
  | cons b rest ih =>
      simp only [unpack, List.flatMap_cons, List.length_append, length_ofNat, List.length_cons]
      simp only [unpack] at ih
      omega

end SealedTree.Bits
