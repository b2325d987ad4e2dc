import OnreApp.PropAmm.Impl.FlaggedCurve
import OnreApp.PropAmm.Lemmas.Pricing

namespace OnreApp

open Checked

namespace FlaggedCurve

section Value

theorem value_integerUtilizationPowerScaled (u exponent : Nat)
    : (integerUtilizationPowerScaled u exponent).value
        =
      OnreApp.integerUtilizationPowerScaled u exponent := by
  unfold integerUtilizationPowerScaled OnreApp.integerUtilizationPowerScaled
  apply Flagged.value_iterate
  intro value
  rfl

theorem value_fractionalQ (mantissaQ : Nat)
    : (log2IntegerQ.fractionalQ mantissaQ).value = OnreApp.log2IntegerQ.fractionalQ mantissaQ := by
  unfold log2IntegerQ.fractionalQ log2IntegerQ.lnMantissaQ OnreApp.log2IntegerQ.fractionalQ
  simp only [Flagged.value_bind, Flagged.value_pure, Flagged.value_mul, Flagged.value_sub,
    Flagged.value_add]
  rw [Flagged.value_foldlM]
  intro acc divisor
  rfl

theorem value_log2IntegerQ (value : Nat)
    : (log2IntegerQ value).value = OnreApp.log2IntegerQ value := by
  unfold log2IntegerQ OnreApp.log2IntegerQ
  rw [Flagged.value_bind, Flagged.value_bind, Flagged.value_addInt, Flagged.value_mulInt]
  rw [value_fractionalQ]

theorem value_scaled (fractionalPart : Nat)
    : (exp2HardWallScaledQ.scaled fractionalPart).value
        =
      OnreApp.exp2HardWallScaledQ.scaled fractionalPart := by
  unfold exp2HardWallScaledQ.scaled OnreApp.exp2HardWallScaledQ.scaled
  simp only [Flagged.value_bind, Flagged.value_pure, Flagged.value_mul]
  rw [Flagged.value_foldlM]
  intro acc divisor
  rfl

theorem value_shiftBy (scaled : Nat) (integerPart : Int)
    : (exp2HardWallScaledQ.shiftBy scaled integerPart).value
        =
      OnreApp.exp2HardWallScaledQ.shiftBy scaled integerPart := by
  unfold exp2HardWallScaledQ.shiftBy OnreApp.exp2HardWallScaledQ.shiftBy
  dsimp only
  split
  . split
    . rfl
    . split
      . rfl
      . rfl
  . rfl

theorem value_exp2HardWallScaledQ (log2ValueQ : Int)
    : (exp2HardWallScaledQ log2ValueQ).value = OnreApp.exp2HardWallScaledQ log2ValueQ := by
  unfold exp2HardWallScaledQ OnreApp.exp2HardWallScaledQ
  dsimp only
  split
  . rw [Flagged.value_bind, value_shiftBy, value_scaled]
  . rw [Flagged.value_bind, value_shiftBy, value_scaled]

theorem map_utilizationPowerScaled (u exponent : Nat)
    : (utilizationPowerScaled u exponent).map Flagged.value
        =
      OnreApp.utilizationPowerScaled u exponent := by
  unfold utilizationPowerScaled OnreApp.utilizationPowerScaled
  apply map_bind_of
  intro _
  split
  . rfl
  . split
    . rfl
    . split
      . rfl
      . split
        . rw [← value_integerUtilizationPowerScaled]
          rfl
        . dsimp only
          rw [value_log2IntegerQ]
          apply map_bind_of
          intro product
          rw [← value_exp2HardWallScaledQ]
          rfl

theorem map_redemptionHaircutScaled (u bps exponent : Nat)
    : (redemptionHaircutScaled u bps exponent).map Flagged.value
        =
      OnreApp.redemptionHaircutScaled u bps exponent := by
  unfold redemptionHaircutScaled OnreApp.redemptionHaircutScaled
  apply map_bind_of
  intro peg
  split
  . apply map_bind_of
    intro _
    rfl
  . apply map_bind_map (map_utilizationPowerScaled u exponent)
    intro power
    dsimp only
    rw [← bind_pure (okOr (checkedDiv (saturatingMul u128Max peg power.value) _) _)]
    apply map_bind_of
    intro haircut
    rfl

theorem map_cadenceWaveTargetHaircutScaled (u y : Nat)
    : (cadenceWaveTargetHaircutScaled u y).map Flagged.value
        =
      OnreApp.cadenceWaveTargetHaircutScaled u y := by
  unfold cadenceWaveTargetHaircutScaled OnreApp.cadenceWaveTargetHaircutScaled
  dsimp only [Flagged.mul, Flagged.sub]
  split
  . rfl
  . split
    . rfl
    . apply map_bind_of
      intro denominator
      apply map_bind_of
      intro easedRise
      apply map_bind_of
      intro divisor
      apply map_bind_of
      intro target
      rfl

theorem map_sellHaircutScaled (x actual reserve : Nat) (pair : PropAmmPairState) (now : Int)
    : (sellHaircutScaled x actual reserve pair now).map Flagged.value
        =
      OnreApp.sellHaircutScaled x actual reserve pair now := by
  unfold sellHaircutScaled OnreApp.sellHaircutScaled
  apply map_bind_of
  intro liquidity
  apply map_bind_of
  intro u
  apply map_bind_map (map_redemptionHaircutScaled u _ _)
  intro base
  apply map_bind_of
  intro y
  apply map_bind_map (map_cadenceWaveTargetHaircutScaled u y)
  intro target
  rfl

end Value

section Exact

theorem cadenceWaveYForQuoteScaled_le_max {pair : PropAmmPairState} {now : Int} {y : Nat}
    (h : cadenceWaveYForQuoteScaled pair now = .ok y) : y ≤ maxCadenceWaveScaled := by
  have hwave : pair.cadenceWaveScaled ≤ maxCadenceWaveScaled := by
    unfold cadenceWaveYForQuoteScaled at h
    simp only [bind_eq_ok, require_eq_ok] at h
    exact h.choose_spec.2.choose_spec.1
  rcases cadenceWaveYForQuoteScaled_inv h with ⟨hthreshold, hzero | ⟨count, ramp, _, hramp, rfl⟩⟩
  . rw [hzero.2]
    apply Nat.zero_le
  . have hrampLe : ramp ≤ cadenceWaveScale := by
      rw [cadenceRamp_inv hramp]
      split
      . apply Nat.le_refl
      . next hcount =>
        apply Nat.div_le_of_le_mul
        apply Nat.mul_le_mul_right
        omega
    calc
      pair.cadenceWaveScaled * ramp / cadenceWaveScale
        ≤ pair.cadenceWaveScaled * cadenceWaveScale / cadenceWaveScale := by
          apply Nat.div_le_div_right
          apply Nat.mul_le_mul_left _ hrampLe
      _ = pair.cadenceWaveScaled := Nat.mul_div_cancel _ (by decide)
      _ ≤ maxCadenceWaveScaled := hwave

theorem mul_le_u128Max {a b c d : Nat} (ha : a ≤ c) (hb : b ≤ d) (h : c * d ≤ u128Max)
    : a * b ≤ u128Max :=
  Nat.le_trans (Nat.mul_le_mul ha hb) h

theorem saturatingMul_eq {a b : Nat} (h : a * b ≤ u128Max) : saturatingMul u128Max a b = a * b := by
  unfold saturatingMul
  apply Nat.min_eq_left h

theorem saturatingAdd_eq {a b : Nat} (h : a + b ≤ u128Max) : saturatingAdd u128Max a b = a + b := by
  unfold saturatingAdd
  apply Nat.min_eq_left h

theorem mul_shiftRight_le {a b : Nat} (ha : a ≤ powApproxQ) (hb : b ≤ powApproxQ)
    : saturatingMul u128Max a b >>> powApproxQShift ≤ powApproxQ := by
  have hle : saturatingMul u128Max a b ≤ powApproxQ * powApproxQ := by
    apply Nat.le_trans (Nat.min_le_left _ _)
    apply Nat.mul_le_mul ha hb
  apply Nat.le_trans (shiftRight_le hle powApproxQShift)
  decide

def BoundedTerms (k : Nat) (acc : Nat × Nat) : Prop :=
  acc.1 ≤ powApproxQ ∧ acc.2 ≤ (k + 1) * powApproxQ

theorem boundedTerms_add {k : Nat} {acc : Nat × Nat} {term summand : Nat}
    (hacc : BoundedTerms k acc) (hk : k < 10) (hterm : term ≤ powApproxQ) (hsummand : summand ≤ term)
    : (Flagged.add u128Max acc.2 summand).saturated = false
        ∧ BoundedTerms (k + 1) (term, saturatingAdd u128Max acc.2 summand) := by
  have hq : powApproxQ = 1099511627776 := rfl
  have hsum : acc.2 + summand ≤ (k + 1 + 1) * powApproxQ := by
    have := hacc.2
    rw [Nat.add_mul _ 1]
    omega
  have hmax : (k + 1 + 1) * powApproxQ ≤ u128Max := by
    rw [hq]
    unfold u128Max
    omega
  refine ⟨Flagged.saturated_add_eq_false (Nat.le_trans hsum hmax), hterm, ?_⟩
  rw [saturatingAdd_eq (Nat.le_trans hsum hmax)]
  exact hsum

theorem saturated_mul_q {a b : Nat} (ha : a ≤ powApproxQ) (hb : b ≤ powApproxQ)
    : (Flagged.mul u128Max a b).saturated = false := by
  apply Flagged.saturated_mul_eq_false
  apply mul_le_u128Max ha hb (by decide)

theorem log2IntegerQ.addTerm_exact {z2 k : Nat} {acc : Nat × Nat} (divisor : Nat)
    (hz2 : z2 ≤ powApproxQ) (hk : k < 10) (hacc : BoundedTerms k acc)
    : (addTerm z2 acc divisor).saturated = false
        ∧ BoundedTerms (k + 1) (addTerm z2 acc divisor).value := by
  have hterm := mul_shiftRight_le hacc.1 hz2
  have hsum := boundedTerms_add hacc hk hterm (Nat.div_le_self _ divisor)
  unfold addTerm
  simp only [Flagged.saturated_bind, Flagged.value_bind, Flagged.value_mul, Flagged.value_add,
    Flagged.saturated_pure, Flagged.value_pure, Bool.or_false, saturated_mul_q hacc.1 hz2,
    Bool.false_or]
  exact hsum

theorem log2IntegerQ.lnMantissaQ_exact {z : Nat} (hz : z ≤ powApproxQ)
    : (lnMantissaQ z).saturated = false ∧ (lnMantissaQ z).value ≤ 14 * powApproxQ := by
  have hz2 := mul_shiftRight_le hz hz
  have hstart : BoundedTerms 0 (z, z) := by
    refine ⟨hz, ?_⟩
    simpa using hz
  have hfold := Flagged.exact_foldlM (l := [3, 5, 7, 9, 11, 13]) 0 (by
    intro i acc divisor hi hacc
    exact addTerm_exact divisor hz2 (by simp at hi; omega) hacc) hstart
  unfold lnMantissaQ
  simp only [Flagged.saturated_bind, Flagged.value_bind, Flagged.value_mul, hfold.1,
    saturated_mul_q hz hz, Bool.false_or]
  have hsum := hfold.2.2
  constructor
  . apply Flagged.saturated_mul_eq_false
    apply mul_le_u128Max hsum (Nat.le_refl 2) (by decide)
  . apply Nat.le_trans (Nat.min_le_left _ _)
    apply Nat.le_trans (Nat.mul_le_mul_right 2 hsum)
    decide

theorem log2IntegerQ.fractionalQ_exact {m : Nat} (hm : powApproxQ ≤ m) (hm' : m < 2 * powApproxQ)
    : (fractionalQ m).saturated = false := by
  have hq : powApproxQ = 1099511627776 := rfl
  have hexcess : m - powApproxQ ≤ powApproxQ := by omega
  have hz : saturatingMul u128Max (m - powApproxQ) powApproxQ
      / saturatingAdd u128Max m powApproxQ ≤ powApproxQ := by
    have hden : powApproxQ ≤ saturatingAdd u128Max m powApproxQ := by
      rw [saturatingAdd_eq (by unfold u128Max; omega)]
      omega
    apply Nat.le_trans (Nat.div_le_div_left hden (by decide))
    apply Nat.le_trans (Nat.div_le_div_right (Nat.min_le_left _ _))
    rw [Nat.mul_div_cancel _ (by decide)]
    exact hexcess
  have hln := lnMantissaQ_exact hz
  unfold fractionalQ
  simp only [Flagged.saturated_bind, Flagged.value_mul, Flagged.value_sub, Flagged.value_add,
    Flagged.saturated_pure, Flagged.saturated_sub_eq_false hm,
    saturated_mul_q hexcess (Nat.le_refl _), hln.1, Bool.false_or, Bool.or_false]
  rw [Flagged.saturated_add_eq_false (by unfold u128Max; omega)]
  rw [Flagged.saturated_mul_eq_false]
  . rfl
  . apply mul_le_u128Max hln.2 (Nat.le_refl powApproxLog2EQ) (by decide)

theorem saturatingMulInt_eq {lo hi a b : Int} (h : lo ≤ a * b ∧ a * b ≤ hi)
    : saturatingMulInt lo hi a b = a * b := by
  unfold saturatingMulInt
  omega

theorem log2_mul_q_bounds {log2 : Nat} (h : log2 < 128)
    : i128Min ≤ (log2 : Int) * powApproxQ ∧ (log2 : Int) * powApproxQ ≤ i128Max := by
  have hq : (powApproxQ : Int) = 1099511627776 := rfl
  rw [hq]
  unfold i128Min i128Max
  omega

theorem log2_mul_q_add_bounds {log2 fractional : Nat} (h : log2 < 128)
    (hfrac : fractional < powApproxQ)
    : i128Min ≤ (log2 : Int) * powApproxQ + fractional
        ∧ (log2 : Int) * powApproxQ + fractional ≤ i128Max := by
  have hq : powApproxQ = 1099511627776 := rfl
  rw [hq] at hfrac ⊢
  unfold i128Min i128Max
  omega

theorem log2IntegerQ_exact {value : Nat} (hne : value ≠ 0) (h : value ≤ u128Max)
    : (log2IntegerQ value).saturated = false := by
  have hm := OnreApp.log2IntegerQ.le_mantissaQ hne
  have hm' := OnreApp.log2IntegerQ.mantissaQ_lt value
  have hfrac := OnreApp.log2IntegerQ.fractionalQ_lt hm hm'
  have hlog : value.log2 < 128 := by
    rw [Nat.log2_lt hne]
    unfold u128Max at h
    omega
  have hinteger := log2_mul_q_bounds hlog
  have hsum := log2_mul_q_add_bounds hlog hfrac
  unfold log2IntegerQ
  rw [Flagged.saturated_bind, Flagged.saturated_bind, log2IntegerQ.fractionalQ_exact hm hm']
  rw [value_fractionalQ, Flagged.saturated_mulInt_eq_false hinteger, Flagged.value_mulInt]
  rw [saturatingMulInt_eq hinteger, Flagged.saturated_addInt_eq_false hsum]
  rfl

theorem exp2HardWallScaledQ.addTerm_exact {xQ k : Nat} {acc : Nat × Nat} (divisor : Nat)
    (hx : xQ ≤ powApproxQ) (hk : k < 10) (hacc : BoundedTerms k acc)
    : (addTerm xQ acc divisor).saturated = false
        ∧ BoundedTerms (k + 1) (addTerm xQ acc divisor).value := by
  have hterm := Nat.le_trans (Nat.div_le_self _ divisor) (mul_shiftRight_le hacc.1 hx)
  have hsum := boundedTerms_add hacc hk hterm (Nat.le_refl _)
  unfold addTerm
  simp only [Flagged.saturated_bind, Flagged.value_bind, Flagged.value_mul, Flagged.value_add,
    Flagged.saturated_pure, Flagged.value_pure, Bool.or_false, saturated_mul_q hacc.1 hx,
    Bool.false_or]
  exact hsum

theorem exp2HardWallScaledQ.scaled_exact {f : Nat} (hf : f < powApproxQ)
    : (scaled f).saturated = false := by
  have hln2 : powApproxLn2Q ≤ powApproxQ := by decide
  have hx := mul_shiftRight_le (Nat.le_of_lt hf) hln2
  have hstart : BoundedTerms 0 (powApproxQ, powApproxQ) := by
    refine ⟨Nat.le_refl _, ?_⟩
    simp
  have hfold := Flagged.exact_foldlM (l := [1, 2, 3, 4, 5, 6, 7, 8, 9, 10]) 0 (by
    intro i acc divisor hi hacc
    exact addTerm_exact divisor hx (by simp at hi; omega) hacc) hstart
  unfold scaled
  simp only [Flagged.saturated_bind, Flagged.value_mul, hfold.1, Flagged.saturated_pure,
    saturated_mul_q (Nat.le_of_lt hf) hln2, Bool.false_or, Bool.or_false]
  apply Flagged.saturated_mul_eq_false
  apply mul_le_u128Max hfold.2.2 (Nat.le_refl hardWallScale) (by decide)

theorem cadenceWaveTargetHaircutScaled_exact {u y : Nat} {target : Flagged Nat}
    (hy : y ≤ maxCadenceWaveScaled) (h : cadenceWaveTargetHaircutScaled u y = .ok target)
    : target.saturated = false := by
  have hn : min u hardWallScale ≤ hardWallScale := Nat.min_le_right _ _
  have heased := mul_le_u128Max hn (Nat.le_refl cadenceWaveEase) (by decide)
  have hproduct : min u hardWallScale * cadenceWaveEase * hardWallScale ≤ u128Max := by
    apply mul_le_u128Max (Nat.mul_le_mul_right cadenceWaveEase hn) (Nat.le_refl _) (by decide)
  unfold cadenceWaveTargetHaircutScaled at h
  split at h
  . rw [← pure_eq_ok.mp h]
    rfl
  . dsimp only at h
    split at h
    . rw [← pure_eq_ok.mp h]
      rfl
    . simp only [Flagged.value_mul, Flagged.value_sub, saturatingMul_eq heased,
        saturatingMul_eq hproduct, bind_eq_ok, okOr_eq_ok, checkedAdd_eq_some, checkedDiv_eq_some,
        pure_eq_ok] at h
      rcases h with ⟨_, ⟨_, rfl⟩, rise, ⟨_, hrise⟩, _, _, _, _, rfl⟩
      have hriseLe : rise ≤ hardWallScale := by
        rw [← hrise]
        apply Nat.div_le_of_le_mul
        apply Nat.mul_le_mul_right
        apply Nat.le_add_right
      simp only [Flagged.saturated_sub_eq_false hn, Flagged.saturated_mul_eq_false heased,
        Flagged.saturated_mul_eq_false hproduct, Bool.or_false]
      apply Flagged.saturated_mul_eq_false
      apply mul_le_u128Max hriseLe hy (by decide)

end Exact

section Saturated

def saturatedPower : Nat := u128Max / hardWallScale

theorem saturatedPower_le_mulScaledSaturating {value u : Nat} (hu : hardWallScale ≤ u)
    (h : saturatedPower ≤ value) : saturatedPower ≤ OnreApp.mulScaledSaturating value u := by
  rw [mulScaledSaturating_eq]
  have hproduct : saturatedPower * hardWallScale ≤ min (value * u) u128Max := by
    apply Nat.le_min.mpr
    constructor
    . apply Nat.mul_le_mul h hu
    . apply Nat.div_mul_le_self
  have hdiv := Nat.div_le_div_right (c := hardWallScale) hproduct
  rw [Nat.mul_div_cancel _ (by decide)] at hdiv
  exact hdiv

theorem mulScaledSaturating_saturated {value u : Nat}
    (h : (mulScaledSaturating value u).saturated = true)
    : saturatedPower ≤ OnreApp.mulScaledSaturating value u := by
  have hbig : u128Max < value * u := by
    simpa [mulScaledSaturating, Flagged.mul] using h
  rw [mulScaledSaturating_eq, Nat.min_eq_right (Nat.le_of_lt hbig)]
  apply Nat.le_refl

theorem integerUtilizationPowerScaled_exact_of_lt {u : Nat} (hu : u < hardWallScale) (n : Nat)
    : (integerUtilizationPowerScaled u n).saturated = false := by
  have hvalue : ∀ k, (integerUtilizationPowerScaled u k).value ≤ hardWallScale := by
    intro k
    rw [value_integerUtilizationPowerScaled, ← integerUtilizationPowerScaled_hardWallScale k]
    apply integerUtilizationPowerScaled_le (Nat.le_of_lt hu)
  unfold integerUtilizationPowerScaled at hvalue ⊢
  induction n with
  | zero => rfl
  | succ n ih =>
    rw [Flagged.iterate, Flagged.saturated_bind, ih, Bool.false_or]
    unfold mulScaledSaturating
    rw [Flagged.saturated_bind, Flagged.saturated_mul_eq_false]
    . rfl
    . apply mul_le_u128Max (hvalue n) (Nat.le_of_lt hu) (by decide)

theorem integerUtilizationPowerScaled_saturated {u n : Nat}
    (h : (integerUtilizationPowerScaled u n).saturated = true)
    : saturatedPower ≤ (integerUtilizationPowerScaled u n).value := by
  by_cases hu : u < hardWallScale
  . rw [integerUtilizationPowerScaled_exact_of_lt hu n] at h
    contradiction
  . rw [Nat.not_lt] at hu
    unfold integerUtilizationPowerScaled at h ⊢
    induction n with
    | zero => contradiction
    | succ n ih =>
      rw [Flagged.iterate, Flagged.saturated_bind, Bool.or_eq_true] at h
      rw [Flagged.iterate, Flagged.value_bind]
      rcases h with hbefore | hnow
      . exact saturatedPower_le_mulScaledSaturating hu (ih hbefore)
      . exact mulScaledSaturating_saturated hnow

theorem exp2HardWallScaledQ.shiftBy_saturated {scaled : Nat} {integerPart : Int}
    (h : (shiftBy scaled integerPart).saturated = true)
    : (shiftBy scaled integerPart).value = u128Max := by
  unfold shiftBy at h ⊢
  dsimp only at h ⊢
  split
  . next hpos =>
    rw [if_pos hpos] at h
    split
    . rfl
    . next hshift =>
      rw [if_neg hshift] at h
      split
      . rfl
      . next hfits =>
        rw [if_neg hfits] at h
        contradiction
  . next hneg =>
    rw [if_neg hneg] at h
    contradiction

theorem toNat_tmod_add_lt {l : Int} {q : Nat} (hq : 0 < q) (h : l.tmod q < 0)
    : (l.tmod q + q).toNat < q := by
  omega

theorem toNat_tmod_lt (l : Int) {q : Nat} (hq : 0 < q) : (l.tmod q).toNat < q := by
  have := Int.tmod_lt_of_pos l (b := q) (by omega)
  omega

theorem exp2HardWallScaledQ_eq (l : Int)
    : ∃ f k, f < powApproxQ
        ∧ exp2HardWallScaledQ l
            =
          exp2HardWallScaledQ.scaled f >>= fun scaled => exp2HardWallScaledQ.shiftBy scaled k := by
  have hq : 0 < powApproxQ := by decide
  unfold exp2HardWallScaledQ
  by_cases hneg : l.tmod powApproxQ < 0
  . exact ⟨_, _, toNat_tmod_add_lt hq hneg, if_pos hneg⟩
  . exact ⟨_, _, toNat_tmod_lt l hq, if_neg hneg⟩

theorem exp2HardWallScaledQ_saturated {l : Int} (h : (exp2HardWallScaledQ l).saturated = true)
    : (exp2HardWallScaledQ l).value = u128Max := by
  rcases exp2HardWallScaledQ_eq l with ⟨f, k, hf, heq⟩
  rw [heq] at h ⊢
  rw [Flagged.saturated_bind, exp2HardWallScaledQ.scaled_exact hf, Bool.false_or] at h
  rw [Flagged.value_bind]
  exact exp2HardWallScaledQ.shiftBy_saturated h

theorem utilizationPowerScaled_saturated {u exponent : Nat} {power : Flagged Nat}
    (hu : u ≤ u128Max) (hpower : utilizationPowerScaled u exponent = .ok power)
    (h : power.saturated = true) : saturatedPower ≤ power.value := by
  unfold utilizationPowerScaled at hpower
  rw [bind_eq_ok] at hpower
  rcases hpower with ⟨_, _, hpower⟩
  split at hpower
  . rw [← pure_eq_ok.mp hpower] at h
    contradiction
  . split at hpower
    . rw [← pure_eq_ok.mp hpower] at h
      contradiction
    . next hne =>
      split at hpower
      . rw [← pure_eq_ok.mp hpower] at h
        contradiction
      . split at hpower
        . rw [← pure_eq_ok.mp hpower] at h ⊢
          exact integerUtilizationPowerScaled_saturated h
        . simp only [bind_eq_ok, pure_eq_ok] at hpower
          rcases hpower with ⟨product, _, rfl⟩
          rw [Flagged.saturated_bind, log2IntegerQ_exact hne hu, Bool.false_or] at h
          rw [Flagged.value_bind, exp2HardWallScaledQ_saturated h]
          apply Nat.div_le_self

theorem hardWallScale_le_saturatingMul_div {peg power : Nat} (hpeg : peg ≠ 0)
    (h : saturatedPower ≤ power ∨ u128Max < peg * power)
    : hardWallScale ≤ saturatingMul u128Max peg power / hardWallScale := by
  have hfull : saturatedPower ≤ saturatingMul u128Max peg power := by
    unfold saturatingMul
    rcases h with hpower | hproduct
    . apply Nat.le_min.mpr
      constructor
      . exact Nat.le_trans hpower (Nat.le_mul_of_pos_left power (Nat.pos_of_ne_zero hpeg))
      . apply Nat.div_le_self
    . rw [Nat.min_eq_right (Nat.le_of_lt hproduct)]
      apply Nat.div_le_self
  have hscale : hardWallScale ≤ saturatedPower / hardWallScale := by decide
  exact Nat.le_trans hscale (Nat.div_le_div_right hfull)

theorem redemptionHaircutScaled_saturated {u bps exponent : Nat} {haircut : Flagged Nat}
    (hu : u ≤ u128Max) (hhaircut : redemptionHaircutScaled u bps exponent = .ok haircut)
    (h : haircut.saturated = true) : hardWallScale ≤ haircut.value := by
  unfold redemptionHaircutScaled at hhaircut
  rw [bind_eq_ok] at hhaircut
  rcases hhaircut with ⟨peg, _, hhaircut⟩
  split at hhaircut
  . rw [bind_eq_ok] at hhaircut
    rcases hhaircut with ⟨_, _, hhaircut⟩
    rw [← pure_eq_ok.mp hhaircut] at h
    contradiction
  . next hpeg =>
    simp only [bind_eq_ok, okOr_eq_ok, checkedDiv_eq_some, pure_eq_ok] at hhaircut
    rcases hhaircut with ⟨power, hpower, _, ⟨_, rfl⟩, rfl⟩
    simp only [Flagged.saturated_bind, Flagged.saturated_pure, Bool.or_false, Bool.or_eq_true] at h
    apply hardWallScale_le_saturatingMul_div hpeg
    rcases h with hbefore | hproduct
    . exact .inl (utilizationPowerScaled_saturated hu hpower hbefore)
    . exact .inr (of_decide_eq_true hproduct)

theorem sellHaircutScaled_saturated {x actual reserve : Nat} {pair : PropAmmPairState} {now : Int}
    {haircut : Flagged Nat} (hactual : 0 < actual) (hreserve : 0 < reserve)
    (hhaircut : sellHaircutScaled x actual reserve pair now = .ok haircut)
    (h : haircut.saturated = true) : hardWallScale ≤ haircut.value := by
  unfold sellHaircutScaled at hhaircut
  simp only [bind_eq_ok, pure_eq_ok] at hhaircut
  rcases hhaircut with ⟨wall, hwall, u, hu, base, hbase, y, hy, target, htarget, rfl⟩
  have hpos := dynamicWallLiquidityAtTime_pos hactual hreserve hwall
  have hbound := (utilizationScaled_inv hpos hu).2
  have htargetExact := cadenceWaveTargetHaircutScaled_exact
    (cadenceWaveYForQuoteScaled_le_max hy) htarget
  simp only [Flagged.saturated_bind, Flagged.saturated_pure, htargetExact, Bool.or_false] at h
  have hbaseSaturated := redemptionHaircutScaled_saturated hbound hbase h
  simp only [Flagged.value_bind, Flagged.value_pure]
  exact Nat.le_trans hbaseSaturated (Nat.le_max_left _ _)

theorem liquidityFactor_saturated {x actual reserve : Nat} {pair : PropAmmPairState} {now : Int}
    {haircut : Flagged Nat} (hactual : 0 < actual) (hreserve : 0 < reserve)
    (hhaircut : sellHaircutScaled x actual reserve pair now = .ok haircut)
    (h : (liquidityFactor haircut).saturated = true) : hardWallScale ≤ haircut.value := by
  unfold liquidityFactor at h
  rw [Flagged.saturated_bind, Bool.or_eq_true] at h
  rcases h with hbefore | hsub
  . exact sellHaircutScaled_saturated hactual hreserve hhaircut hbefore
  . exact Nat.le_of_lt (of_decide_eq_true hsub)

end Saturated

end FlaggedCurve

end OnreApp
