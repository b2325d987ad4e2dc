import OnreApp.Lib.FlooredSeries
import OnreApp.PropAmm.Lemmas.FlaggedCurve

/-!
How far the Q40 power is from the real one. Neither series saturates on the arguments it gets, so
the loops of the source are the floored series of the library. Their errors add up to the error of
the logarithm, which the exponent multiplies by less than 10, and to that of the exponential.
-/

namespace OnreApp

open Checked FlooredSeries

section Series

theorem shiftRight_powApproxQShift (n : Nat) : n >>> powApproxQShift = n / powApproxQ := by
  rw [Nat.shiftRight_eq_div_pow]
  rfl

theorem log2IntegerQ.value_addTerm {z2 divisor : Nat} {acc : Nat × Nat}
    (h : (FlaggedCurve.log2IntegerQ.addTerm z2 acc divisor).saturated = false)
    : (FlaggedCurve.log2IntegerQ.addTerm z2 acc divisor).value
        =
      oddStep powApproxQ z2 acc divisor := by
  unfold FlaggedCurve.log2IntegerQ.addTerm at h ⊢
  rcases Flagged.exact_bind h with ⟨hmul, h⟩
  rcases Flagged.exact_bind h with ⟨hadd, _⟩
  rw [Flagged.value_bind, Flagged.value_bind, Flagged.value_pure, Flagged.value_add_of_exact hadd]
  rw [Flagged.value_mul_of_exact hmul, shiftRight_powApproxQShift]
  rfl

theorem exp2HardWallScaledQ.value_addTerm {x divisor : Nat} {acc : Nat × Nat}
    (h : (FlaggedCurve.exp2HardWallScaledQ.addTerm x acc divisor).saturated = false)
    : (FlaggedCurve.exp2HardWallScaledQ.addTerm x acc divisor).value
        =
      expStep powApproxQ x acc divisor := by
  unfold FlaggedCurve.exp2HardWallScaledQ.addTerm at h ⊢
  rcases Flagged.exact_bind h with ⟨hmul, h⟩
  rcases Flagged.exact_bind h with ⟨hadd, _⟩
  rw [Flagged.value_bind, Flagged.value_bind, Flagged.value_pure, Flagged.value_add_of_exact hadd]
  rw [Flagged.value_mul_of_exact hmul, shiftRight_powApproxQShift]
  rfl

theorem log2IntegerQ.value_lnMantissaQ {z : Nat}
    (h : (FlaggedCurve.log2IntegerQ.lnMantissaQ z).saturated = false)
    : (FlaggedCurve.log2IntegerQ.lnMantissaQ z).value = artanhLoop powApproxQ z 6 * 2 := by
  unfold FlaggedCurve.log2IntegerQ.lnMantissaQ at h ⊢
  rcases Flagged.exact_bind h with ⟨hsquare, h⟩
  rcases Flagged.exact_bind h with ⟨hseries, hdouble⟩
  rw [Flagged.value_bind, Flagged.value_bind, Flagged.value_mul_of_exact hdouble]
  rw [Flagged.value_foldlM_of_exact (fun _ _ => log2IntegerQ.value_addTerm) hseries]
  rw [Flagged.value_mul_of_exact hsquare, shiftRight_powApproxQShift]
  rfl

theorem log2IntegerQ.fractionalQ_eq {m : Nat} (hm : powApproxQ ≤ m) (hm' : m < 2 * powApproxQ)
    : fractionalQ m
        =
      artanhLoop powApproxQ (artanhArgument powApproxQ m) 6 * 2 * powApproxLog2EQ / powApproxQ := by
  have hexact := FlaggedCurve.log2IntegerQ.fractionalQ_exact hm hm'
  rw [← FlaggedCurve.value_fractionalQ]
  unfold FlaggedCurve.log2IntegerQ.fractionalQ at hexact ⊢
  rcases Flagged.exact_bind hexact with ⟨hexcess, hexact⟩
  rcases Flagged.exact_bind hexact with ⟨hnumerator, hexact⟩
  rcases Flagged.exact_bind hexact with ⟨hdenominator, hexact⟩
  rcases Flagged.exact_bind hexact with ⟨hln, hexact⟩
  rcases Flagged.exact_bind hexact with ⟨hproduct, _⟩
  simp only [Flagged.value_bind, Flagged.value_pure]
  rw [Flagged.value_mul_of_exact hproduct, log2IntegerQ.value_lnMantissaQ hln]
  rw [Flagged.value_mul_of_exact hnumerator, Flagged.value_add_of_exact hdenominator]
  rw [shiftRight_powApproxQShift]
  rfl

theorem exp2HardWallScaledQ.scaled_eq {f : Nat} (hf : f < powApproxQ)
    : scaled f
        =
      expLoop powApproxQ (f * powApproxLn2Q / powApproxQ) 10 * hardWallScale / powApproxQ := by
  have hexact := FlaggedCurve.exp2HardWallScaledQ.scaled_exact hf
  rw [← FlaggedCurve.value_scaled]
  unfold FlaggedCurve.exp2HardWallScaledQ.scaled at hexact ⊢
  rcases Flagged.exact_bind hexact with ⟨hx, hexact⟩
  rcases Flagged.exact_bind hexact with ⟨hseries, hexact⟩
  rcases Flagged.exact_bind hexact with ⟨hproduct, _⟩
  simp only [Flagged.value_bind, Flagged.value_pure]
  rw [Flagged.value_mul_of_exact hproduct]
  rw [Flagged.value_foldlM_of_exact (fun _ _ => exp2HardWallScaledQ.value_addTerm) hseries]
  rw [Flagged.value_mul_of_exact hx, shiftRight_powApproxQShift, shiftRight_powApproxQShift]
  rfl

end Series

section Log

theorem cast_powApproxQ : (powApproxQ : ℝ) = 1099511627776 := by
  have : powApproxQ = 1099511627776 := rfl
  rw [this]
  norm_num

theorem powApproxQ_pos : (0 : ℝ) < powApproxQ := by
  rw [cast_powApproxQ]
  norm_num

theorem one_div_powApproxQ_le : (1 : ℝ) / powApproxQ ≤ 1 / 10 ^ 12 := by
  rw [cast_powApproxQ]
  norm_num

theorem cast_hardWallScale : (hardWallScale : ℝ) = 10 ^ 12 := by
  norm_num [hardWallScale]

theorem hardWallScale_pos : (0 : ℝ) < hardWallScale := by
  rw [cast_hardWallScale]
  norm_num

theorem log2_lt_powApproxQShift {v : Nat} (hv : v ≠ 0) (hv' : v ≤ hardWallScale)
    : v.log2 < powApproxQShift := by
  rw [Nat.log2_lt hv]
  have : hardWallScale < 2 ^ powApproxQShift := by decide
  omega

-- below `2 ^ 40` nothing is shifted out of the mantissa
theorem log2IntegerQ.cast_mantissaQ {v : Nat} (hv : v ≠ 0) (hv' : v ≤ hardWallScale)
    : (mantissaQ v : ℝ) / powApproxQ = v / 2 ^ v.log2 := by
  have hlog := log2_lt_powApproxQShift hv hv'
  have hpow : (2 : ℝ) ^ powApproxQShift = 2 ^ (powApproxQShift - v.log2) * 2 ^ v.log2 := by
    rw [← pow_add]
    congr 1
    omega
  have hq : (powApproxQ : ℝ) = 2 ^ powApproxQShift := by
    rw [cast_powApproxQ]
    norm_num [powApproxQShift]
  rw [mantissaQ_eq, if_neg (by omega), hq, hpow]
  push_cast
  rw [mul_comm, mul_div_mul_left _ _ (by positivity)]

theorem log2E_mul_log_two
    : 1 - 4 / 10 ^ 10 ≤ (powApproxLog2EQ : ℝ) / powApproxQ * Real.log 2
        ∧ (powApproxLog2EQ : ℝ) / powApproxQ * Real.log 2 ≤ 1 + 4 / 10 ^ 10 := by
  have hlow := Real.log_two_gt_d9
  have hhigh := Real.log_two_lt_d9
  have he : (powApproxLog2EQ : ℝ) = 1586259972792 := by norm_num [powApproxLog2EQ]
  rw [he, cast_powApproxQ]
  constructor
  . linarith
  . linarith

theorem changeOfBase_bounds {F s c e L log2 : ℝ} (hs : 0 ≤ s) (hs' : s ≤ 7 / 10)
    (hlog2 : 0 ≤ log2) (hlog2' : log2 ≤ 1) (hc : 1 - 4 / 10 ^ 10 ≤ c * log2)
    (hc' : c * log2 ≤ 1 + 4 / 10 ^ 10) (hF : F ≤ s * c) (hF' : s * c - e ≤ F) (he : 0 ≤ e)
    (he' : e ≤ 1 / 10 ^ 12) (hL : s ≤ L) (hL' : L - 11 / 10 ^ 9 - 38 * e ≤ s)
    : L - 12 / 10 ^ 9 ≤ F * log2 ∧ F * log2 ≤ L + 3 / 10 ^ 10 := by
  have hhigh : F * log2 ≤ s * (c * log2) := by
    rw [← mul_assoc]
    exact mul_le_mul_of_nonneg_right hF hlog2
  have hlow : s * (c * log2) - e * log2 ≤ F * log2 := by
    rw [← mul_assoc, ← sub_mul]
    exact mul_le_mul_of_nonneg_right hF' hlog2
  have hsc := mul_le_mul_of_nonneg_left hc hs
  have hsc' := mul_le_mul_of_nonneg_left hc' hs
  have helog := mul_le_mul_of_nonneg_left hlog2' he
  constructor
  . linarith
  . linarith

theorem log2IntegerQ.fractionalQ_bounds {m : Nat} (hm : powApproxQ ≤ m) (hm' : m < 2 * powApproxQ)
    : Real.log (m / powApproxQ) - 12 / 10 ^ 9 ≤ (fractionalQ m : ℝ) / powApproxQ * Real.log 2
        ∧ (fractionalQ m : ℝ) / powApproxQ * Real.log 2
            ≤ Real.log (m / powApproxQ) + 3 / 10 ^ 10 := by
  have hq : 0 < powApproxQ := by decide
  have hq' := powApproxQ_pos
  rcases artanhLoop_bounds hq hm hm'.le with ⟨hseries, hseries'⟩
  rcases log2E_mul_log_two with ⟨hconst, hconst'⟩
  have hlow := Real.log_two_gt_d9
  have hhigh := Real.log_two_lt_d9
  have hlog0 : 0 ≤ Real.log ((m : ℝ) / powApproxQ) := by
    apply Real.log_nonneg
    rw [le_div_iff₀ hq', one_mul]
    exact_mod_cast hm
  have hlog1 : Real.log ((m : ℝ) / powApproxQ) ≤ Real.log 2 := by
    apply Real.log_le_log
    . have : (0 : ℝ) < m := by exact_mod_cast Nat.lt_of_lt_of_le hq hm
      positivity
    . rw [div_le_iff₀ hq']
      exact_mod_cast hm'.le
  have hfloor := mul_div_le hq (artanhLoop powApproxQ (artanhArgument powApproxQ m) 6 * 2)
    powApproxLog2EQ
  have hfloor' := le_mul_div hq (artanhLoop powApproxQ (artanhArgument powApproxQ m) 6 * 2)
    powApproxLog2EQ
  rw [fractionalQ_eq hm hm']
  rw [Nat.cast_mul, Nat.cast_ofNat, mul_comm _ (2 : ℝ)] at hfloor hfloor'
  apply changeOfBase_bounds (by positivity) _ (by linarith) (by linarith) hconst hconst' hfloor
    hfloor' (by positivity) one_div_powApproxQ_le hseries
  . rw [mul_one_div]
    exact hseries'
  . linarith

theorem log2IntegerQ_bounds {v : Nat} (hv : v ≠ 0) (hv' : v ≤ hardWallScale)
    : Real.log v - 12 / 10 ^ 9 ≤ (log2IntegerQ v : ℝ) / powApproxQ * Real.log 2
        ∧ (log2IntegerQ v : ℝ) / powApproxQ * Real.log 2 ≤ Real.log v + 3 / 10 ^ 10 := by
  have hq := powApproxQ_pos.ne'
  have hv0 : (v : ℝ) ≠ 0 := by exact_mod_cast hv
  have hfits : v ≤ u128Max := Nat.le_trans hv' (by decide)
  have hmantissa := log2IntegerQ.fractionalQ_bounds (log2IntegerQ.le_mantissaQ hv)
    (log2IntegerQ.mantissaQ_lt v)
  have hlog : Real.log ((log2IntegerQ.mantissaQ v : ℝ) / powApproxQ)
      = Real.log v - v.log2 * Real.log 2 := by
    rw [log2IntegerQ.cast_mantissaQ hv hv', Real.log_div hv0 (by positivity), Real.log_pow]
  have hsplit : (log2IntegerQ v : ℝ) / powApproxQ * Real.log 2
      = v.log2 * Real.log 2
        + (log2IntegerQ.fractionalQ (log2IntegerQ.mantissaQ v) : ℝ) / powApproxQ * Real.log 2 := by
    rw [log2IntegerQ_eq hv hfits]
    push_cast
    rw [add_div, mul_div_cancel_right₀ _ hq, add_mul]
  rw [hlog] at hmantissa
  rw [hsplit]
  constructor
  . linarith
  . linarith

-- `log2HardWallScaleQ` is the logarithm of the scale with its own error, so the two subtract
theorem abs_log2HardWallScaledQ_sub_log_le {u : Nat} (hu : u ≠ 0) (hu' : u ≤ hardWallScale)
    : |(log2HardWallScaledQ u : ℝ) / powApproxQ * Real.log 2 - Real.log ((u : ℝ) / hardWallScale)|
        ≤ 123 / 10 ^ 10 := by
  have hu0 : (u : ℝ) ≠ 0 := by exact_mod_cast hu
  have hscale0 := hardWallScale_pos.ne'
  rcases log2IntegerQ_bounds hu hu' with ⟨hlow, hhigh⟩
  rcases log2IntegerQ_bounds (v := hardWallScale) (by decide) (Nat.le_refl _) with ⟨hlow', hhigh'⟩
  unfold log2HardWallScaledQ
  rw [← log2IntegerQ_hardWallScale, Int.cast_sub, sub_div, sub_mul, Real.log_div hu0 hscale0]
  rw [abs_le]
  constructor
  . linarith
  . linarith

theorem log2HardWallScaledQ_nonpos {u : Nat} (hu : u ≠ 0) (hu' : u ≤ hardWallScale)
    : log2HardWallScaledQ u ≤ 0 := by
  have hle := log2HardWallScaledQ_le hu hu' (by decide)
  have hzero : log2HardWallScaledQ hardWallScale = 0 := by
    unfold log2HardWallScaledQ
    rw [log2IntegerQ_hardWallScale, Int.sub_self]
  omega

theorem abs_tdiv_sub_div_le (a : Int) {b : Int} (hb : 0 < b)
    : |((a.tdiv b : Int) : ℝ) - a / b| ≤ 1 := by
  have hb' : (0 : ℝ) < b := by exact_mod_cast hb
  have hdiv := Int.mul_tdiv_add_tmod a b
  have hlow := Int.lt_tmod_of_pos a hb
  have hhigh := Int.tmod_lt_of_pos a hb
  have hsplit : (a : ℝ) / b = ((a.tdiv b : Int) : ℝ) + ((a.tmod b : Int) : ℝ) / b := by
    rw [← mul_div_cancel_left₀ ((a.tdiv b : Int) : ℝ) hb'.ne', ← add_div]
    congr 1
    exact_mod_cast hdiv.symm
  have hlow' : -(b : ℝ) ≤ ((a.tmod b : Int) : ℝ) := by exact_mod_cast hlow.le
  have hhigh' : ((a.tmod b : Int) : ℝ) ≤ b := by exact_mod_cast hhigh.le
  rw [hsplit, sub_add_cancel_left, abs_neg, abs_div, abs_of_pos hb', div_le_one hb', abs_le]
  exact ⟨hlow', hhigh'⟩

end Log

section Power

variable {u k : Nat}

-- what the source calls `exponentiated_log_q`, for an exponent of `k / 10`
def exponentiatedLogQ (u k : Nat) : Int :=
  (log2HardWallScaledQ u * (1000 * k : Nat)).tdiv curveExponentScale

theorem abs_exponentiatedLogQ_sub_mul_le (u k : Nat)
    : |(exponentiatedLogQ u k : ℝ) - k / 10 * log2HardWallScaledQ u| ≤ 1 := by
  have htdiv := abs_tdiv_sub_div_le (log2HardWallScaledQ u * (1000 * k : Nat))
    (b := curveExponentScale) (by decide)
  have hexponent : ((log2HardWallScaledQ u * (1000 * k : Nat) : Int) : ℝ)
        / ((curveExponentScale : Int) : ℝ)
      = k / 10 * log2HardWallScaledQ u := by
    have hscale : ((curveExponentScale : Int) : ℝ) = 10000 := by norm_num [curveExponentScale]
    rw [hscale]
    push_cast
    ring
  rw [hexponent] at htdiv
  exact htdiv

theorem abs_exponentiatedLogQ_sub_log_le (hu : u ≠ 0) (hu' : u ≤ hardWallScale) (hk : k ≤ 99)
    : |(exponentiatedLogQ u k : ℝ) / powApproxQ * Real.log 2
        - k / 10 * Real.log ((u : ℝ) / hardWallScale)| ≤ 122 / 10 ^ 9 := by
  have hlog := abs_log2HardWallScaledQ_sub_log_le hu hu'
  have htdiv := abs_exponentiatedLogQ_sub_mul_le u k
  have hk' : (k : ℝ) / 10 ≤ 99 / 10 := by
    have : (k : ℝ) ≤ 99 := by exact_mod_cast hk
    linarith
  have hunit : |Real.log 2 / powApproxQ| ≤ 1 / 10 ^ 12 := by
    have hlow := Real.log_two_gt_d9
    have hhigh := Real.log_two_lt_d9
    rw [cast_powApproxQ, abs_of_nonneg (by positivity)]
    linarith
  have hsplit : (exponentiatedLogQ u k : ℝ) / powApproxQ * Real.log 2
        - k / 10 * Real.log ((u : ℝ) / hardWallScale)
      = ((exponentiatedLogQ u k : ℝ) - k / 10 * log2HardWallScaledQ u) * (Real.log 2 / powApproxQ)
        + k / 10 * ((log2HardWallScaledQ u : ℝ) / powApproxQ * Real.log 2
          - Real.log ((u : ℝ) / hardWallScale)) := by
    ring
  rw [hsplit]
  apply (abs_add_le _ _).trans
  rw [abs_mul, abs_mul, abs_of_nonneg (show (0 : ℝ) ≤ (k : ℝ) / 10 by positivity)]
  have hrounding := mul_le_mul htdiv hunit (abs_nonneg _) zero_le_one
  have hseries := mul_le_mul hk' hlog (abs_nonneg _) (by norm_num)
  linarith

theorem exponentiatedLogQ_nonpos (hu : u ≠ 0) (hu' : u ≤ hardWallScale)
    : exponentiatedLogQ u k ≤ 0 := by
  have hlog := log2HardWallScaledQ_nonpos hu hu'
  have hproduct : log2HardWallScaledQ u * (1000 * k : Nat) ≤ 0 :=
    Int.mul_nonpos_of_nonpos_of_nonneg hlog (Int.natCast_nonneg _)
  have htdiv := Int.tdiv_le_tdiv (c := curveExponentScale) (by decide) hproduct
  rw [Int.zero_tdiv] at htdiv
  exact htdiv

end Power

section Exp

open exp2HardWallScaledQ in
theorem shiftBy_of_nonpos {a : Nat} {n : Int} (ha : a ≠ 0) (ha' : a ≤ 2 * hardWallScale)
    (hn : -4294967296 < n) (hn' : n ≤ 0) : shiftBy a n = a / 2 ^ (-n).toNat := by
  rw [shiftBy_eq ha ha' hn (by omega)]
  split
  . next hpos =>
    have hzero : n = 0 := by omega
    subst hzero
    have hfits : a ≤ u128Max := Nat.le_trans ha' (by decide)
    simpa using hfits
  . rfl

theorem abs_ln2_sub_log_two_le : |(powApproxLn2Q : ℝ) / powApproxQ - Real.log 2| ≤ 3 / 10 ^ 10 := by
  have hlow := Real.log_two_gt_d9
  have hhigh := Real.log_two_lt_d9
  have hln : (powApproxLn2Q : ℝ) = 762123384786 := by norm_num [powApproxLn2Q]
  rw [hln, cast_powApproxQ, abs_le]
  constructor
  . linarith
  . linarith

theorem exp_le_three {x : ℝ} (hx : x ≤ 1) : Real.exp x ≤ 3 := by
  have hone := Real.exp_one_lt_d9
  have hle := Real.exp_le_exp.mpr hx
  linarith

section Fraction

variable {f : Nat} (hf : f < powApproxQ)

include hf

theorem cast_div_powApproxQ_le_one : (f : ℝ) / powApproxQ ≤ 1 := by
  rw [div_le_one powApproxQ_pos]
  exact_mod_cast hf.le

theorem fraction_le : ((f * powApproxLn2Q / powApproxQ : Nat) : ℝ) / powApproxQ ≤ 7 / 10 := by
  have hq : 0 < powApproxQ := by decide
  have hfloor := mul_div_le hq f powApproxLn2Q
  have hone := cast_div_powApproxQ_le_one hf
  have hln : (powApproxLn2Q : ℝ) / powApproxQ ≤ 7 / 10 := by
    have hclose := (abs_le.mp abs_ln2_sub_log_two_le).2
    have hhigh := Real.log_two_lt_d9
    linarith
  have hproduct := mul_le_mul hone hln (by positivity) zero_le_one
  linarith

theorem abs_fraction_sub_le
    : |((f * powApproxLn2Q / powApproxQ : Nat) : ℝ) / powApproxQ - f / powApproxQ * Real.log 2|
        ≤ 4 / 10 ^ 10 := by
  have hq : 0 < powApproxQ := by decide
  have hfloor := mul_div_le hq f powApproxLn2Q
  have hfloor' := le_mul_div hq f powApproxLn2Q
  have hone := cast_div_powApproxQ_le_one hf
  have hunit := one_div_powApproxQ_le
  have hconst : |(f : ℝ) / powApproxQ * (powApproxLn2Q / powApproxQ)
      - f / powApproxQ * Real.log 2| ≤ 3 / 10 ^ 10 := by
    rw [← mul_sub, abs_mul, abs_of_nonneg (show (0 : ℝ) ≤ (f : ℝ) / powApproxQ by positivity)]
    have hproduct := mul_le_mul hone abs_ln2_sub_log_two_le (abs_nonneg _) zero_le_one
    linarith
  rw [abs_le] at hconst ⊢
  constructor
  . linarith
  . linarith

theorem abs_expLoop_sub_exp_le
    : |(expLoop powApproxQ (f * powApproxLn2Q / powApproxQ) 10 : ℝ) / powApproxQ
        - Real.exp (f / powApproxQ * Real.log 2)| ≤ 19 / 10 ^ 10 := by
  have hone := cast_div_powApproxQ_le_one hf
  have hfraction := fraction_le hf
  have hclose := abs_fraction_sub_le hf
  rcases expLoop_bounds (by decide) hfraction with ⟨hloop, hloop'⟩
  have hunit : (70 : ℝ) / powApproxQ ≤ 1 / 10 ^ 10 := by
    rw [cast_powApproxQ]
    norm_num
  have hlog : (f : ℝ) / powApproxQ * Real.log 2 ≤ 1 := by
    have hlow := Real.log_two_gt_d9
    have hhigh := Real.log_two_lt_d9
    have hproduct := mul_le_mul hone hhigh.le (by linarith) zero_le_one
    linarith
  have hexp := abs_exp_sub_exp_le (exp_le_three (by linarith)) (exp_le_three hlog)
    (a := ((f * powApproxLn2Q / powApproxQ : Nat) : ℝ) / powApproxQ)
  rw [abs_le] at hexp ⊢
  constructor
  . linarith
  . linarith

theorem abs_scaled_sub_exp_le
    : |(exp2HardWallScaledQ.scaled f : ℝ) - hardWallScale * Real.exp (f / powApproxQ * Real.log 2)|
        ≤ 2000 := by
  have hscale := cast_hardWallScale
  have hloop := abs_expLoop_sub_exp_le hf
  rw [exp2HardWallScaledQ.scaled_eq hf]
  generalize expLoop powApproxQ (f * powApproxLn2Q / powApproxQ) 10 = series at *
  have hfloor := cast_div_le (series * hardWallScale) powApproxQ
  have hfloor' := le_cast_div_add_one (series * hardWallScale) powApproxQ (by decide)
  rw [Nat.cast_mul, mul_div_right_comm, hscale] at hfloor hfloor'
  rw [abs_le] at hloop ⊢
  rw [hscale]
  constructor
  . linarith
  . linarith

end Fraction

theorem exp_div_powApproxQ (l : Int) (hl : l ≤ 0)
    : Real.exp ((l : ℝ) / powApproxQ * Real.log 2)
        =
      Real.exp (((l % powApproxQ).toNat : ℝ) / powApproxQ * Real.log 2)
        / 2 ^ (-(l / powApproxQ)).toNat := by
  have hq : (powApproxQ : Int) = 1099511627776 := rfl
  have hq' := powApproxQ_pos.ne'
  have hdiv : l = ((l % powApproxQ).toNat : Int) - powApproxQ * (-(l / powApproxQ)).toNat := by
    rw [hq]
    omega
  have hdiv' : (l : ℝ) = ((l % powApproxQ).toNat : ℝ) - powApproxQ * (-(l / powApproxQ)).toNat := by
    exact_mod_cast congrArg (Int.cast : Int → ℝ) hdiv
  have hpow : (2 : ℝ) ^ (-(l / powApproxQ)).toNat
      = Real.exp ((-(l / powApproxQ)).toNat * Real.log 2) := by
    rw [Real.exp_nat_mul, Real.exp_log (by norm_num)]
  rw [hpow, ← Real.exp_sub]
  congr 1
  rw [hdiv', sub_div, mul_div_cancel_left₀ _ hq', sub_mul]

theorem abs_div_two_pow_sub_le {a : Nat} {b c : ℝ} (h : |(a : ℝ) - b| ≤ c) (n : Nat)
    : |((a / 2 ^ n : Nat) : ℝ) - b / 2 ^ n| ≤ c + 1 := by
  have hpow : (1 : ℝ) ≤ 2 ^ n := one_le_pow₀ (by norm_num)
  have hfloor := cast_div_le a (2 ^ n)
  have hfloor' := le_cast_div_add_one a (2 ^ n) (by positivity)
  have hscaled : |(a : ℝ) / 2 ^ n - b / 2 ^ n| ≤ c := by
    rw [← sub_div, abs_div, abs_of_pos (show (0 : ℝ) < 2 ^ n by positivity)]
    exact (div_le_self (abs_nonneg _) hpow).trans h
  rw [Nat.cast_pow, Nat.cast_ofNat] at hfloor hfloor'
  rw [abs_le] at hscaled ⊢
  constructor
  . linarith
  . linarith

theorem abs_exp2HardWallScaledQ_sub_exp_le {l : Int} (hlow : -1099511627776000000 ≤ l) (hl : l ≤ 0)
    : |(exp2HardWallScaledQ l : ℝ)
        - hardWallScale * Real.exp ((l : ℝ) / powApproxQ * Real.log 2)| ≤ 2001 := by
  have hq : (powApproxQ : Int) = 1099511627776 := rfl
  have hf : (l % powApproxQ).toNat < powApproxQ := by
    rw [hq]
    have : powApproxQ = 1099511627776 := rfl
    omega
  have hn : -4294967296 < l / powApproxQ ∧ l / powApproxQ ≤ 0 := by
    rw [hq]
    omega
  have hscaled := abs_scaled_sub_exp_le hf
  have hpos := exp2HardWallScaledQ.hardWallScale_le_scaled (l % powApproxQ).toNat
  have hle := exp2HardWallScaledQ.scaled_le_two_mul hf
  have hne : exp2HardWallScaledQ.scaled (l % powApproxQ).toNat ≠ 0 := by
    unfold hardWallScale at hpos
    omega
  rw [exp2HardWallScaledQ_eq, shiftBy_of_nonpos hne hle hn.1 hn.2]
  rw [exp_div_powApproxQ l hl, ← mul_div_assoc]
  have hshift := abs_div_two_pow_sub_le hscaled (-(l / powApproxQ)).toNat
  linarith

end Exp

section Approximation

variable {u k r : Nat}

theorem abs_exp2HardWallScaledQ_sub_rpow_le (hu : u ≠ 0) (hu' : u ≤ hardWallScale) (hk : k ≤ 99)
    : |(exp2HardWallScaledQ (exponentiatedLogQ u k) : ℝ)
        - hardWallScale * ((u : ℝ) / hardWallScale) ^ ((k : ℝ) / 10)| ≤ 200000 := by
  have hscale0 := hardWallScale_pos
  have hu0 : (0 : ℝ) < u := by exact_mod_cast Nat.pos_of_ne_zero hu
  have hratio : (u : ℝ) / hardWallScale ≤ 1 := by
    rw [div_le_one hscale0]
    exact_mod_cast hu'
  have hlog : (k : ℝ) / 10 * Real.log ((u : ℝ) / hardWallScale) ≤ 0 :=
    mul_nonpos_of_nonneg_of_nonpos (by positivity) (Real.log_nonpos (by positivity) hratio)
  have hlog2 : (exponentiatedLogQ u k : ℝ) / powApproxQ * Real.log 2 ≤ 0 := by
    have hnonpos : (exponentiatedLogQ u k : ℝ) ≤ 0 := by
      exact_mod_cast exponentiatedLogQ_nonpos (k := k) hu hu'
    apply mul_nonpos_of_nonpos_of_nonneg
    . exact div_nonpos_of_nonpos_of_nonneg hnonpos (Nat.cast_nonneg _)
    . exact Real.log_nonneg (by norm_num)
  have hexponent := abs_exponentiatedLogQ_sub_log_le hu hu' hk
  have hexp := abs_exp_sub_exp_le (Real.exp_le_one_iff.mpr hlog2) (Real.exp_le_one_iff.mpr hlog)
  have hpower : |hardWallScale * Real.exp ((exponentiatedLogQ u k : ℝ) / powApproxQ * Real.log 2)
      - hardWallScale * Real.exp (k / 10 * Real.log ((u : ℝ) / hardWallScale))| ≤ 122000 := by
    rw [← mul_sub, abs_mul, abs_of_pos hscale0]
    calc
      (hardWallScale : ℝ) * _ ≤ hardWallScale * (122 / 10 ^ 9) := by
        apply mul_le_mul_of_nonneg_left _ hscale0.le
        linarith
      _ = 122000 := by
        rw [cast_hardWallScale]
        norm_num
  have hbound : -1099511627776000000 ≤ exponentiatedLogQ u k := by
    have hexponent : 1000 * k ≤ 100000 := by omega
    exact (exponentiatedLogQ_bounds hu (Nat.le_trans hu' (by decide)) hexponent).1
  have hexp2 := abs_exp2HardWallScaledQ_sub_exp_le hbound (exponentiatedLogQ_nonpos hu hu')
  rw [Real.rpow_def_of_pos (by positivity), mul_comm (Real.log _)]
  apply (abs_sub_le _ _ _).trans (add_le_add hexp2 hpower) |>.trans
  norm_num

theorem rpow_pow_ten {x : ℝ} (hx : 0 ≤ x) (k : Nat) : (x ^ ((k : ℝ) / 10)) ^ 10 = x ^ k := by
  rw [← Real.rpow_mul_natCast hx, ← Real.rpow_natCast x k]
  congr 1
  push_cast
  ring

theorem utilizationPowerScaled_fractional (hu : u ≠ 0) (hu' : u ≤ hardWallScale) (hk : k ≤ 99)
    (hfractional : k % 10 ≠ 0)
    : utilizationPowerScaled u (1000 * k) = .ok (exp2HardWallScaledQ (exponentiatedLogQ u k)) := by
  have hzero : 1000 * k ≠ 0 := by omega
  have hinteger : ¬ 1000 * k % curveExponentScale = 0 := by
    unfold curveExponentScale
    omega
  have hstep : 1000 * k % curveExponentStep = 0 := Nat.mul_mod_right _ _
  rw [utilizationPowerScaled_eq (Nat.le_trans hu' (by decide)) (by omega) hstep]
  rw [if_neg hzero, if_neg hu, if_neg hinteger]
  rfl

theorem rational_bounds_of_abs_sub_le {S D : Nat} (hS : 0 < S)
    (h : |(r : ℝ) - S * ((u : ℝ) / S) ^ ((k : ℝ) / 10)| ≤ D)
    : (max 0 ((r : ℚ) - D) / S) ^ 10 ≤ ((u : ℚ) / S) ^ k
        ∧ ((u : ℚ) / S) ^ k ≤ (((r : ℚ) + D) / S) ^ 10 := by
  have hS' : (0 : ℝ) < S := by exact_mod_cast hS
  have hpower := rpow_pow_ten (show (0 : ℝ) ≤ (u : ℝ) / S by positivity) k
  have hnonneg : (0 : ℝ) ≤ ((u : ℝ) / S) ^ ((k : ℝ) / 10) := by positivity
  rw [abs_le] at h
  have hlow : max 0 ((r : ℝ) - D) / S ≤ ((u : ℝ) / S) ^ ((k : ℝ) / 10) := by
    rw [div_le_iff₀ hS', mul_comm]
    apply max_le
    . positivity
    . linarith
  have hhigh : ((u : ℝ) / S) ^ ((k : ℝ) / 10) ≤ ((r : ℝ) + D) / S := by
    rw [le_div_iff₀ hS', mul_comm]
    linarith
  have hlow' := pow_le_pow_left₀ (by positivity) hlow 10
  have hhigh' := pow_le_pow_left₀ hnonneg hhigh 10
  rw [hpower] at hlow' hhigh'
  constructor
  . rw [← Rat.cast_le (K := ℝ)]
    push_cast
    exact hlow'
  . rw [← Rat.cast_le (K := ℝ)]
    push_cast
    exact hhigh'

theorem utilizationPowerScaled_accurate (hk : k ≤ 99) (hfractional : k % 10 ≠ 0) (hu : 0 < u)
    (hu' : u ≤ hardWallScale)
    : ∃ r : Nat,
        utilizationPowerScaled u (1000 * k) = .ok r
          ∧ |(r : ℝ) - hardWallScale * ((u : ℝ) / hardWallScale) ^ ((k : ℝ) / 10)| ≤ 200000
          ∧ (max 0 ((r : ℚ) - 200000) / hardWallScale) ^ 10 ≤ ((u : ℚ) / hardWallScale) ^ k
          ∧ ((u : ℚ) / hardWallScale) ^ k ≤ (((r : ℚ) + 200000) / hardWallScale) ^ 10 := by
  have hne : u ≠ 0 := by omega
  have herror := abs_exp2HardWallScaledQ_sub_rpow_le hne hu' hk
  refine ⟨_, utilizationPowerScaled_fractional hne hu' hk hfractional, herror, ?_⟩
  exact_mod_cast rational_bounds_of_abs_sub_le (D := 200000) (by decide) (by exact_mod_cast herror)

theorem utilizationPowerScaled_accurate_half
    : ∃ r : Nat,
        utilizationPowerScaled 500000000000 (1000 * 99) = .ok r
          ∧ |(r : ℝ) - hardWallScale * ((500000000000 : Nat) / hardWallScale) ^ (((99 : Nat) : ℝ) / 10)|
              ≤ 200000
          ∧ (max 0 ((r : ℚ) - 200000) / hardWallScale) ^ 10
              ≤ (((500000000000 : Nat) : ℚ) / hardWallScale) ^ 99
          ∧ (((500000000000 : Nat) : ℚ) / hardWallScale) ^ 99
              ≤ (((r : ℚ) + 200000) / hardWallScale) ^ 10 :=
  utilizationPowerScaled_accurate (by decide) (by decide) (by decide) (by decide)

end Approximation

end OnreApp
