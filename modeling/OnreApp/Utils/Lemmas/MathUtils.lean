import OnreApp.Lib.FixedPoint
import OnreApp.Utils.Impl.MathUtils

namespace OnreApp

open Checked FixedPoint

section Mul

theorem mulDivRoundU128_eq {a b denom r : Nat} (h : mulDivRoundU128 a b denom = some r)
    : r = mul denom a b := by
  unfold mulDivRoundU128 at h
  simp only [Option.bind_eq_bind, Option.bind_eq_some_iff] at h
  rcases h with ⟨prod, hprod, adj, hadj, hr⟩
  rw [checkedMul_eq_some] at hprod
  rw [checkedAdd_eq_some] at hadj
  rw [checkedDiv_eq_some] at hr
  rw [← hr.2, ← hadj.2, ← hprod.2, mul]

theorem mulDivRoundU128_of_fits {a b denom : Nat} (hdenom : denom ≠ 0)
    (h : a * b + denom / 2 ≤ u128Max) : mulDivRoundU128 a b denom = some (mul denom a b) := by
  unfold mulDivRoundU128
  rw [checkedMul_eq_some.mpr ⟨Nat.le_of_add_right_le h, rfl⟩]
  rw [Option.bind_eq_bind, Option.bind_some]
  rw [checkedAdd_eq_some.mpr ⟨h, rfl⟩]
  rw [Option.bind_some]
  rw [checkedDiv_eq_some]
  exact ⟨hdenom, rfl⟩

theorem mulDivRoundU128_fits {a b denom r : Nat} (h : mulDivRoundU128 a b denom = some r)
    : r * denom ≤ u128Max := by
  unfold mulDivRoundU128 at h
  simp only [Option.bind_eq_bind, Option.bind_eq_some_iff, checkedMul_eq_some, checkedAdd_eq_some,
    checkedDiv_eq_some] at h
  rcases h with ⟨_, _, adj, ⟨hfits, hadj⟩, _, rfl⟩
  apply Nat.le_trans (Nat.div_mul_le_self adj denom)
  rw [← hadj]
  exact hfits

end Mul

section Pow

theorem powFixed.go_succ (scale fuel acc base exp : Nat) (hexp : exp ≠ 0)
    : powFixed.go scale (fuel + 1) acc base exp
        =
      (if exp % 2 = 1 then mulDivRoundU128 acc base scale else some acc).bind fun acc =>
        (if 0 < exp / 2 then mulDivRoundU128 base base scale else some base).bind fun base =>
          powFixed.go scale fuel acc base (exp / 2) := by
  rw [powFixed.go, if_neg hexp]
  dsimp only [Option.bind_eq_bind]
  by_cases hodd : exp % 2 = 1
  all_goals by_cases hmore : 0 < exp / 2
  all_goals simp only [hodd, hmore, if_true, if_false]

theorem powFixed.go_eq {scale : Nat} (fuel : Nat)
    : ∀ {acc base exp r : Nat}, powFixed.go scale fuel acc base exp = some r →
        exp < 2 ^ fuel → r = pow scale acc base exp := by
  induction fuel with
  | zero =>
    intro acc base exp r h hexp
    obtain rfl : exp = 0 := by omega
    cases h
    rw [pow_at_zero]
  | succ fuel ih =>
    intro acc base exp r h hexp
    by_cases hzero : exp = 0
    . rw [powFixed.go, if_pos hzero] at h
      cases h
      rw [hzero, pow_at_zero]
    . rw [powFixed.go_succ scale fuel acc base exp hzero] at h
      simp only [Option.bind_eq_some_iff] at h
      rcases h with ⟨acc', hacc, base', hbase, h⟩
      rw [ih h (by omega), pow.eq_def scale acc base exp, if_neg hzero]
      have hacc' : acc' = if exp % 2 = 1 then mul scale acc base else acc := by
        split at hacc
        . case isTrue hodd => rw [mulDivRoundU128_eq hacc, if_pos hodd]
        . case isFalse heven => rw [← Option.some.inj hacc, if_neg heven]
      rw [hacc']
      split at hbase
      . rw [mulDivRoundU128_eq hbase]
      . -- the loop leaves the base alone after the last digit, where it no longer matters
        rw [show exp / 2 = 0 by omega, pow_at_zero, pow_at_zero]

theorem powFixed_eq {base exp scale r : Nat} (h : powFixed base exp scale = some r)
    : r = pow scale scale base exp :=
  powFixed.go_eq (exp.log2 + 1) h Nat.lt_log2_self

theorem powFixed.go_fits {scale : Nat} (fuel : Nat)
    : ∀ {acc base exp r : Nat}, powFixed.go scale fuel acc base exp = some r → exp < 2 ^ fuel →
        (exp = 0 → acc * scale ≤ u128Max) → r * scale ≤ u128Max := by
  induction fuel with
  | zero =>
    intro acc base exp r h hexp hacc
    cases h
    apply hacc
    omega
  | succ fuel ih =>
    intro acc base exp r h hexp hacc
    by_cases hzero : exp = 0
    . rw [powFixed.go, if_pos hzero] at h
      cases h
      exact hacc hzero
    . rw [powFixed.go_succ scale fuel acc base exp hzero] at h
      simp only [Option.bind_eq_some_iff] at h
      rcases h with ⟨acc', hacc', base', _, h⟩
      apply ih h (by omega)
      -- the last digit of an exponent is 1, so the loop ends with a product
      intro hlast
      rw [if_pos (by omega)] at hacc'
      exact mulDivRoundU128_fits hacc'

theorem powFixed_fits {base exp scale r : Nat} (hexp : exp ≠ 0)
    (h : powFixed base exp scale = some r) : r * scale ≤ u128Max := by
  apply powFixed.go_fits (exp.log2 + 1) h Nat.lt_log2_self
  intro hzero
  exact absurd hzero hexp

theorem powFixed_relative_error {s b n r : Nat} (hs : 0 < s) (hb : s ≤ b)
    (h : powFixed b n s = some r)
    : ((b : ℚ) / s) ^ n * (1 - 1 / (2 * s)) ^ n ≤ (r : ℚ) / s
        ∧ (r : ℚ) / s ≤ ((b : ℚ) / s) ^ n * (1 + 1 / (2 * s)) ^ n
        ∧ ∀ (b' r' : Nat), b ≤ b' → powFixed b' n s = some r' → r ≤ r' := by
  have hs' : (0 : ℚ) < s := by exact_mod_cast hs
  have hlow := roundDown_pow_le hs n (Nat.le_refl s) hb
  have hhigh := pow_le_roundUp_pow hs n (Nat.le_refl s) hb
  rw [← powFixed_eq h, mul_pow, mul_comm (_ ^ n) (_ ^ n)] at hlow hhigh
  refine ⟨?_, ?_, ?_⟩
  . rw [le_div_iff₀ hs', mul_comm]
    exact hlow
  . rw [div_le_iff₀ hs', mul_comm _ (s : ℚ)]
    exact hhigh
  . intro b' r' hle h'
    rw [powFixed_eq h, powFixed_eq h']
    exact pow_mono n (Nat.le_refl s) hle

theorem powFixed_relative_error_year
    : ((1000136986301369863 : Nat) / (1000000000000000000 : Nat) : ℚ) ^ 365
          * (1 - 1 / (2 * (1000000000000000000 : Nat))) ^ 365
        ≤ ((1051267496467462541 : Nat) : ℚ) / (1000000000000000000 : Nat)
      ∧ ((1051267496467462541 : Nat) : ℚ) / (1000000000000000000 : Nat)
        ≤ ((1000136986301369863 : Nat) / (1000000000000000000 : Nat) : ℚ) ^ 365
          * (1 + 1 / (2 * (1000000000000000000 : Nat))) ^ 365
      ∧ ∀ (b' r' : Nat), 1000136986301369863 ≤ b' →
          powFixed b' 365 1000000000000000000 = some r' → 1051267496467462541 ≤ r' :=
  powFixed_relative_error (by decide) (by decide) (by decide)

end Pow

end OnreApp
