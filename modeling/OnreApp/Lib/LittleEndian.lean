import Mathlib.Data.Nat.Digits.Defs

namespace LittleEndian

def encode (width n : Nat) : List UInt8 :=
  (List.range width).map fun i => UInt8.ofNat (n / 256 ^ i)

def decode (bytes : List UInt8) : Nat := Nat.ofDigits 256 (bytes.map UInt8.toNat)

variable {width n : Nat} {bytes : List UInt8}

@[simp]
theorem length_encode (width n : Nat) : (encode width n).length = width := by
  simp [encode]

@[simp]
theorem encode_zero (n : Nat) : encode 0 n = [] := rfl

theorem encode_succ (width n : Nat)
    : encode (width + 1) n = UInt8.ofNat n :: encode width (n / 256) := by
  unfold encode
  rw [List.range_succ_eq_map, List.map_cons, List.map_map]
  simp only [Nat.pow_zero, Nat.div_one, List.cons.injEq, true_and]
  apply List.map_congr_left
  intro i _
  rw [Function.comp_apply, Nat.pow_succ', Nat.div_div_eq_div_mul]

@[simp]
theorem decode_nil : decode [] = 0 := rfl

theorem decode_cons (b : UInt8) (bytes : List UInt8)
    : decode (b :: bytes) = b.toNat + 256 * decode bytes := by
  unfold decode
  rw [List.map_cons, Nat.ofDigits_cons]

theorem decode_lt (bytes : List UInt8) : decode bytes < 256 ^ bytes.length := by
  unfold decode
  rw [← List.length_map UInt8.toNat]
  apply Nat.ofDigits_lt_base_pow_length (by decide)
  intro digit hdigit
  rw [List.mem_map] at hdigit
  rcases hdigit with ⟨b, _, rfl⟩
  apply UInt8.toNat_lt

theorem decode_encode (width n : Nat) : decode (encode width n) = n % 256 ^ width := by
  induction width generalizing n with
  | zero => simp [Nat.mod_one]
  | succ width ih =>
    rw [encode_succ, decode_cons, ih]
    rw [Nat.pow_succ', Nat.mod_mul]
    rfl

theorem decode_encode_of_lt (h : n < 256 ^ width) : decode (encode width n) = n := by
  rw [decode_encode, Nat.mod_eq_of_lt h]

theorem encode_decode (bytes : List UInt8) : encode bytes.length (decode bytes) = bytes := by
  induction bytes with
  | nil => rfl
  | cons b bytes ih =>
    have hlt := b.toNat_lt
    rw [List.length_cons, encode_succ, decode_cons]
    rw [Nat.add_mul_div_left _ _ (by decide), Nat.div_eq_of_lt hlt, Nat.zero_add, ih]
    congr 1
    apply UInt8.toNat_inj.mp
    rw [UInt8.toNat_ofNat', Nat.add_mul_mod_self_left]
    apply Nat.mod_eq_of_lt hlt

end LittleEndian
