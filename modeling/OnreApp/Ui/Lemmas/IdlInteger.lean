import OnreApp.Lib.LittleEndian
import OnreApp.Ui.Lemmas.JsValue
import OnreApp.Ui.Spec.IdlData
import Mathlib.Data.Nat.Bitwise
import Mathlib.Tactic.Ring

namespace OnreApp.Ui

open Utf16 JsValue

variable {rt : Runtime}

theorem ediv_pow_emod_of_lt (z b : Int) (hb : 0 < b) {i n : Nat} (h : i < n)
    : z % b ^ n / b ^ i % b = z / b ^ i % b := by
  have hpow : b ^ n = b ^ i * (b * b ^ (n - i - 1)) := by
    rw [← pow_succ', ← pow_add]
    congr 1
    omega
  have hz : z = z % b ^ n + b ^ i * (b * (b ^ (n - i - 1) * (z / b ^ n))) := by
    have hdiv := Int.emod_add_mul_ediv z (b ^ n)
    nth_rewrite 2 [hpow] at hdiv
    linarith
  conv_rhs => rw [hz]
  rw [Int.add_mul_ediv_left _ _ (by positivity), Int.add_mul_emod_self_left]

theorem integerBytes_eq (z : Int) (size : Nat)
    : integerBytes z size = LittleEndian.encode size (z % 256 ^ size).toNat := by
  unfold integerBytes LittleEndian.encode
  apply List.map_congr_left
  intro i hi
  rw [List.mem_range] at hi
  have hdigit : ((z % 256 ^ size).toNat / 256 ^ i : Nat) % 256
      = ((z >>> (i * 8)) % 256).toNat := by
    have hmod : 0 ≤ z % 256 ^ size := Int.emod_nonneg _ (by positivity)
    have hpow : (2 : Int) ^ (i * 8) = 256 ^ i := by
      rw [Nat.mul_comm, pow_mul]
      norm_num
    zify
    rw [Int.toNat_of_nonneg hmod, Int.toNat_of_nonneg (Int.emod_nonneg _ (by decide))]
    rw [ediv_pow_emod_of_lt z 256 (by decide) hi, Int.shiftRight_eq_div_pow]
    push_cast
    rw [hpow]
  rw [← hdigit]
  apply UInt8.toNat_inj.mp
  rw [UInt8.toNat_ofNat', UInt8.toNat_ofNat', Nat.mod_mod]

theorem integerValue_eq (bytes : Buffer) : integerValue bytes = LittleEndian.decode bytes := by
  have hfold : ∀ (k acc : Nat), acc < 256 ^ k →
      (bytes.zipIdx k).foldl (fun value byte => value ||| (byte.1.toNat <<< (byte.2 * 8))) acc
        =
      acc + 256 ^ k * LittleEndian.decode bytes := by
    induction bytes with
    | nil =>
      intro k acc _
      rw [List.zipIdx_nil, List.foldl_nil, LittleEndian.decode_nil]
      omega
    | cons b bytes ih =>
      intro k acc hacc
      have hpow : (2 : Nat) ^ (k * 8) = 256 ^ k := by
        rw [Nat.mul_comm, pow_mul]
        norm_num
      have hor : acc ||| (b.toNat <<< (k * 8)) = acc + 256 ^ k * b.toNat := by
        rw [Nat.or_comm, ← Nat.shiftLeft_add_eq_or_of_lt (by rwa [hpow]), Nat.shiftLeft_eq, hpow]
        ring
      have hlt : acc + 256 ^ k * b.toNat < 256 ^ (k + 1) := by
        have hb := b.toNat_lt
        calc acc + 256 ^ k * b.toNat
            < 256 ^ k + 256 ^ k * b.toNat := by omega
          _ = 256 ^ k * (b.toNat + 1) := by ring
          _ ≤ 256 ^ k * 256 := by
              apply Nat.mul_le_mul_left
              omega
          _ = 256 ^ (k + 1) := by rw [pow_succ]
      rw [List.zipIdx_cons, List.foldl_cons, hor, ih _ _ hlt, LittleEndian.decode_cons]
      ring
  unfold integerValue
  rw [hfold 0 0 (by decide)]
  omega

theorem and_two_pow_ne_zero_iff {value k : Nat} (h : value < 2 ^ (k + 1))
    : value &&& 2 ^ k ≠ 0 ↔ 2 ^ k ≤ value := by
  rw [Nat.and_two_pow]
  by_cases hle : 2 ^ k ≤ value
  . rw [Nat.testBit_of_two_pow_le_and_two_pow_add_one_gt hle h]
    simp [hle]
  . rw [Nat.testBit_lt_two_pow (by omega)]
    simp [hle]

/-- The integer of the width and signedness that is `n` modulo the width. -/
def wrapInteger (size : Nat) (signed : Bool) (n : Int) : Int :=
  if signed ∧ 2 ^ (size * 8 - 1) ≤ n % 2 ^ (size * 8) then
    n % 2 ^ (size * 8) - 2 ^ (size * 8)
  else
    n % 2 ^ (size * 8)

theorem signedValue_encode {size : Nat} (hsize : 0 < size) (signed : Bool) (n : Int)
    : signedValue (LittleEndian.encode size (n % 256 ^ size).toNat) signed
        =
      wrapInteger size signed n := by
  have hpow : (256 : Int) ^ size = 2 ^ (size * 8) := by
    rw [Nat.mul_comm, pow_mul]
    norm_num
  have hnonneg : 0 ≤ n % 2 ^ (size * 8) := Int.emod_nonneg _ (by positivity)
  have hlt : n % 2 ^ (size * 8) < 2 ^ (size * 8) := Int.emod_lt_of_pos _ (by positivity)
  have hvalue : integerValue (LittleEndian.encode size (n % 256 ^ size).toNat)
      = (n % 2 ^ (size * 8)).toNat := by
    rw [integerValue_eq, hpow]
    apply LittleEndian.decode_encode_of_lt
    zify
    rwa [Int.toNat_of_nonneg hnonneg, hpow]
  have hsign : (n % 2 ^ (size * 8)).toNat &&& 2 ^ (size * 8 - 1) ≠ 0
      ↔ 2 ^ (size * 8 - 1) ≤ n % 2 ^ (size * 8) := by
    rw [and_two_pow_ne_zero_iff]
    . zify
      rw [Int.toNat_of_nonneg hnonneg]
    . zify
      rwa [Int.toNat_of_nonneg hnonneg, Nat.sub_add_cancel (by omega)]
  unfold signedValue wrapInteger
  simp only
  rw [hvalue, LittleEndian.length_encode, Nat.one_shiftLeft, Int.toNat_of_nonneg hnonneg]
  simp only [hsign]

theorem integerByteLength_pos {type : PrimitiveIdlType} {size : Nat}
    (h : integerByteLength type = some size) : 0 < size := by
  cases type <;> simp [integerByteLength] at h <;> omega

theorem wrapInteger_eq_self_iff {type : PrimitiveIdlType} {size : Nat} (n : Int)
    (h : integerByteLength type = some size)
    : wrapInteger size (isSigned type) n = n ↔ type.InRange n := by
  have hi64 : isSigned .i64 = true := by decide
  have hu8 : isSigned .u8 = false := by decide
  have hu16 : isSigned .u16 = false := by decide
  have hu32 : isSigned .u32 = false := by decide
  have hu64 : isSigned .u64 = false := by decide
  cases type <;> simp only [integerByteLength, reduceCtorEq, Option.some.injEq] at h
  all_goals
    subst h
    simp only [wrapInteger, PrimitiveIdlType.InRange, hi64, hu8, hu16, hu32, hu64, true_and,
      Bool.false_eq_true, false_and, if_false, Nat.reduceMul, Nat.reduceSub]
  . split
    . omega
    . omega
  . omega
  . omega
  . omega
  . omega

theorem wrapInteger_dist (size : Nat) (signed : Bool) (n : Int)
    : (wrapInteger size signed n).natAbs ≤ 2 ^ (size * 8)
        ∧ ∃ k, n - wrapInteger size signed n = 2 ^ (size * 8) * k := by
  have hpos : (0 : Int) < 2 ^ (size * 8) := by positivity
  have hnonneg := Int.emod_nonneg n hpos.ne'
  have hlt := Int.emod_lt_of_pos n hpos
  have hdiv := Int.emod_add_mul_ediv n (2 ^ (size * 8))
  unfold wrapInteger
  split
  . constructor
    . zify
      rw [abs_le]
      omega
    . refine ⟨n / 2 ^ (size * 8) + 1, ?_⟩
      rw [Int.mul_add]
      omega
  . constructor
    . zify
      rw [abs_le]
      omega
    . refine ⟨n / 2 ^ (size * 8), ?_⟩
      omega

-- an integer that is wrapped to one next to it is not wrapped at all
theorem eq_of_wrapInteger_eq {size : Nat} {signed : Bool} {n m : Int}
    (hdist : (m - n).natAbs * 2 ^ 53 ≤ n.natAbs) (h : wrapInteger size signed m = n) : m = n := by
  rcases wrapInteger_dist size signed m with ⟨hbound, k, hk⟩
  rw [h] at hbound hk
  have hpos : 0 < 2 ^ (size * 8) := Nat.two_pow_pos _
  have hzero : k.natAbs = 0 := by
    by_contra hne
    have hmul : 2 ^ (size * 8) * 1 ≤ (m - n).natAbs := by
      rw [hk, Int.natAbs_mul, Int.natAbs_pow]
      apply Nat.mul_le_mul_left
      omega
    omega
  rw [Int.natAbs_eq_zero.mp hzero, Int.mul_zero] at hk
  omega

theorem toBigInt_eq_ok_iff {value : JsValue} {n : Int}
    : value.toBigInt rt = .ok n ↔ bigInt (value.toText rt) = some n := by
  unfold JsValue.toBigInt
  split
  . next m hm =>
    rw [hm]
    constructor
    . intro h
      injection h with h
      rw [h]
    . intro h
      injection h with h
      rw [h]
      rfl
  . next hm =>
    rw [hm]
    simp only [reduceCtorEq]

theorem bigInt_toText {value : JsValue} {n m : Int} (hvalue : IsDecimal textValue value n)
    (h : bigInt (value.toText rt) = some m) : m = n := by
  have hdecimal := bigInt_of_signedInteger (signedInteger_decimal n)
  cases hvalue with
  | @number number _ _ hnumber =>
    rw [JsValue.toText, JsValue.numberText, hnumber] at h
    by_cases hbound : number.natAbs < 10 ^ 21
    . rw [if_pos hbound, hdecimal] at h
      injection h with h
      exact h.symm
    . rw [if_neg hbound, rt.bigInt_exponentText] at h
      contradiction
  | bigint =>
    rw [JsValue.toText, hdecimal] at h
    injection h with h
    exact h.symm
  | string hs =>
    rw [JsValue.toText, bigInt_of_signedInteger hs] at h
    injection h with h
    exact h.symm

theorem IsDecimal.eq_zero_of_not_isTruthy {value : JsValue} {n : Int}
    (hvalue : IsDecimal textValue value n) (h : ¬value.isTruthy = true) : n = 0 := by
  cases hvalue with
  | @number number _ _ hnumber =>
    have hzero : number = 0 := by simpa [JsValue.isTruthy] using h
    rw [← hnumber, hzero]
    rfl
  | bigint => simpa [JsValue.isTruthy] using h
  | @string s _ hs =>
    have hempty : s = [] := by simpa [JsValue.isTruthy] using h
    rw [hempty] at hs
    contradiction

theorem toBigInt_orElse {value : JsValue} {n m : Int} (hvalue : IsDecimal textValue value n)
    (h : (value.orElse (.string (text "0"))).toBigInt rt = .ok m) : m = n := by
  rw [toBigInt_eq_ok_iff] at h
  unfold JsValue.orElse at h
  split at h
  . apply bigInt_toText hvalue h
  . next hfalsy =>
    have hzero : bigInt (JsValue.toText rt (.string (text "0"))) = some 0 := by rfl
    rw [hzero] at h
    injection h with h
    rw [hvalue.eq_zero_of_not_isTruthy hfalsy, h]

theorem encodeInteger_inv {value : JsValue} {size : Nat} {signed : Bool} {n : Int} {bytes : Buffer}
    (hvalue : IsDecimal textValue value n) (h : encodeInteger rt value size signed = .ok bytes)
    : bytes = LittleEndian.encode size (n % 256 ^ size).toNat := by
  have hpow : (2 : Int) ^ (size * 8) = 256 ^ size := by
    rw [Nat.mul_comm, pow_mul]
    norm_num
  unfold encodeInteger at h
  cases hbigint : (value.orElse (.string (text "0"))).toBigInt rt with
  | error e =>
    rw [hbigint] at h
    contradiction
  | ok m =>
    rw [hbigint, toBigInt_orElse hvalue hbigint] at h
    change (if signed = true ∧ n < 0 then _ else _) = _ at h
    split at h
    . injection h with h
      rw [← h, integerBytes_eq, hpow, Int.add_emod_left]
    . injection h with h
      rw [← h, integerBytes_eq]

theorem toBigInt_orElse_number {n : Int} (h : n.natAbs < 2 ^ 53)
    : (JsValue.orElse (.number n) (.string (text "0"))).toBigInt rt = .ok n := by
  rw [toBigInt_eq_ok_iff]
  unfold JsValue.orElse
  split
  . rw [JsValue.toText, JsValue.numberText, if_pos (by omega), textValue_of_lt h]
    apply bigInt_of_signedInteger (signedInteger_decimal n)
  . next hfalsy =>
    have hzero : n = 0 := by simpa [JsValue.isTruthy] using hfalsy
    rw [hzero]
    rfl

theorem encodeU32_eq {n : Nat} (h : n < 2 ^ 32)
    : encodeU32 rt n = .ok (LittleEndian.encode 4 n) := by
  have hbound : (n : Int).natAbs < 2 ^ 53 := by
    rw [Int.natAbs_natCast]
    omega
  have hmod : ((n : Int) % 256 ^ 4).toNat = n := by omega
  unfold encodeU32 encodeInteger
  rw [toBigInt_orElse_number hbound]
  change Except.ok (integerBytes n 4) = _
  rw [integerBytes_eq, hmod]

theorem decodeInteger_isDecimal (bytes : Buffer) (signed : Bool)
    : IsDecimal id (decodeInteger bytes signed) (signedValue bytes signed) := by
  unfold decodeInteger
  simp only
  split
  . next hsafe =>
    apply IsDecimal.number _ rfl
    apply Double.isExact_of_lt
    unfold maxSafeInteger minSafeInteger at hsafe
    omega
  . apply IsDecimal.string
    apply signedInteger_decimal

end OnreApp.Ui
