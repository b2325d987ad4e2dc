import OnreApp.Offer.Impl.OfferUtils
import OnreApp.Utils.Lemmas.MathUtils

/-!
The price of a vector compounds daily and is interpolated within a day, but towards the next day's
price as computed from the rounded price of the day, and not towards the price that day really
starts with. So the price can fall at the end of a day.
-/

namespace OnreApp

open Checked FixedPoint

def dailyIncrement (apr : Nat) : Nat :=
  mul (aprScale * 365) intScale apr

theorem dailyFactor_inv {apr factor : Nat} (h : dailyFactor apr = .ok factor)
    : factor = intScale + dailyIncrement apr := by
  unfold dailyFactor at h
  simp only [bind_eq_ok, okOr_eq_ok] at h
  rcases h with ⟨scaled, hscaled, adjusted, hadjusted, increment, hincrement, h⟩
  rw [checkedMul_eq_some] at hscaled
  rw [checkedAdd_eq_some] at hadjusted h
  rw [checkedDiv_eq_some] at hincrement
  rw [← h.2, ← hincrement.2, ← hadjusted.2, ← hscaled.2, dailyIncrement, mul]

theorem calculateVectorPrice_inv {apr basePrice elapsedTime price : Nat} (hapr : apr ≠ 0)
    (h : calculateVectorPrice apr basePrice elapsedTime = .ok price)
    : price
        =
      compound intScale secondsInDay (intScale + dailyIncrement apr) basePrice elapsedTime := by
  have hscale : 0 < intScale := by decide
  have hday : 0 < secondsInDay := by decide
  unfold calculateVectorPrice at h
  split at h
  . case isTrue hzero =>
    obtain rfl : elapsedTime = 0 := by omega
    cases h
    rw [compound, whole, Nat.zero_div, Nat.zero_mod, pow_at_zero, mul_zero_right hday]
    rw [mul_scale hscale, Nat.add_zero]
  . simp only [bind_eq_ok, okOr_eq_ok] at h
    rcases h with ⟨factor, hfactor, fullDayFactor, hpow, fullDayPrice, hfull, h⟩
    have hwhole : fullDayPrice = whole intScale factor basePrice (elapsedTime / secondsInDay) := by
      rw [mulDivRoundU128_eq hfull, powFixed_eq hpow, whole]
    rw [← dailyFactor_inv hfactor, compound, ← hwhole]
    split at h
    . case isTrue hremaining =>
      simp only [bind_eq_ok, pure_eq_ok] at h
      rcases h with ⟨_, _, hprice⟩
      rw [hremaining, mul_zero_right hday, Nat.add_zero]
      exact hprice.symm
    . simp only [bind_eq_ok, okOr_eq_ok, pure_eq_ok] at h
      rcases h with ⟨next, hnext, delta, hdelta, part, hpart, sum, hsum, _, _, hprice⟩
      rw [checkedSub_eq_some] at hdelta
      rw [checkedAdd_eq_some] at hsum
      rw [← hprice, ← hsum.2, mulDivRoundU128_eq hpart, ← hdelta.2, mulDivRoundU128_eq hnext]

def stepEnd (baseTime priceFixDuration time : Nat) : Nat :=
  ((time - baseTime) / priceFixDuration + 1) * priceFixDuration

theorem stepEnd_mono {baseTime priceFixDuration time₁ time₂ : Nat} (h : time₁ ≤ time₂)
    : stepEnd baseTime priceFixDuration time₁ ≤ stepEnd baseTime priceFixDuration time₂ := by
  apply Nat.mul_le_mul_right
  apply Nat.add_le_add_right
  apply Nat.div_le_div_right
  omega

theorem calculateStepPriceAt_inv {apr basePrice baseTime priceFixDuration time price : Nat}
    (h : calculateStepPriceAt apr basePrice baseTime priceFixDuration time = .ok price)
    : stepEnd baseTime priceFixDuration time ≤ u64Max
        ∧
      calculateVectorPrice apr basePrice (stepEnd baseTime priceFixDuration time)
        = .ok price := by
  unfold calculateStepPriceAt at h
  simp only [bind_eq_ok, okOr_eq_ok] at h
  rcases h with ⟨_, _, step, hstep, next, hnext, elapsed, helapsed, h⟩
  rw [checkedDiv_eq_some] at hstep
  rw [checkedAdd_eq_some] at hnext
  rw [checkedMul_eq_some] at helapsed
  have hend : elapsed = stepEnd baseTime priceFixDuration time := by
    rw [← helapsed.2, ← hnext.2, ← hstep.2, stepEnd]
  rw [← hend]
  refine ⟨?_, h⟩
  rw [← helapsed.2]
  exact helapsed.1

section Growth

variable {apr : Nat}

theorem cast_intScale : (intScale : ℚ) = 1000000000000000000 := by
  rw [intScale]
  norm_num

theorem cast_secondsInDay : (secondsInDay : ℚ) = 86400 := by
  rw [secondsInDay]
  norm_num

theorem rate_near_apr (apr : Nat)
    : |rate intScale (intScale + dailyIncrement apr) - apr / 365000000|
        ≤ 1 / 2000000000000000000 := by
  have hle := cast_mul_le (s := aprScale * 365) (by decide) intScale apr
  have hge := lt_cast_mul (s := aprScale * 365) (by decide) intScale apr
  have hyear : ((aprScale * 365 : Nat) : ℚ) = 365000000 := by
    rw [aprScale]
    norm_num
  rw [hyear, cast_intScale] at hle hge
  rw [rate, dailyIncrement, Nat.cast_add, cast_intScale, abs_sub_le_iff]
  constructor <;> linarith

theorem rate_bounds (hapr : 0 < apr)
    : 999 / 1000 * (apr / 365000000 : ℚ) ≤ rate intScale (intScale + dailyIncrement apr)
        ∧
      rate intScale (intScale + dailyIncrement apr) ≤ 1001 / 1000 * (apr / 365000000 : ℚ) := by
  have happrox := abs_sub_le_iff.mp (rate_near_apr apr)
  have hapr' : (1 : ℚ) ≤ apr := by exact_mod_cast hapr
  constructor <;> linarith [happrox.1, happrox.2]

theorem rounding_cost (hapr : 0 < apr)
    : (2 * (48 : Nat) + 1) / intScale * (1 + rate intScale (intScale + dailyIncrement apr))
        ≤
      rate intScale (intScale + dailyIncrement apr) / secondsInDay / 100 := by
  have hbounds := rate_bounds hapr
  have hapr' : (1 : ℚ) ≤ apr := by exact_mod_cast hapr
  rw [cast_intScale, cast_secondsInDay]
  push_cast
  linarith [hbounds.1]

end Growth

section Steps

variable {apr basePrice baseTime priceFixDuration : Nat}

/--
When the price cannot fall between two times since the base time: from the first day or the end of a
day on, within a day, over two days, or when the simple interest in between makes a unit of the
price and twice the daily rate, and a tenth more.
-/
def Climbs (apr basePrice elapsed₁ elapsed₂ : Nat) : Prop :=
  apr = 0
    ∨ elapsed₁ < secondsInDay
    ∨ elapsed₁ % secondsInDay = 0
    ∨ elapsed₁ / secondsInDay = elapsed₂ / secondsInDay
    ∨ 2 * secondsInDay ≤ elapsed₂ - elapsed₁
    ∨ secondsInDay * (11 * (aprScale * 365 + 2 * apr))
        ≤ 10 * (basePrice * apr * (elapsed₂ - elapsed₁))

instance (apr basePrice elapsed₁ elapsed₂ : Nat)
    : Decidable (Climbs apr basePrice elapsed₁ elapsed₂) :=
  inferInstanceAs (Decidable (_ ∨ _))

theorem le_interest {e₁ e₂ : Nat} (hapr : 0 < apr)
    (h : secondsInDay * (11 * (aprScale * 365 + 2 * apr)) ≤ 10 * (basePrice * apr * (e₂ - e₁)))
    : 21 / 20 * (1 + 2 * rate intScale (intScale + dailyIncrement apr))
        ≤
      basePrice * rate intScale (intScale + dailyIncrement apr)
        * ((e₂ - e₁ : Nat) / secondsInDay) := by
  have hbounds := rate_bounds hapr
  have hcast : ((secondsInDay * (11 * (aprScale * 365 + 2 * apr)) : Nat) : ℚ)
      ≤ (10 * (basePrice * apr * (e₂ - e₁)) : Nat) := by
    exact_mod_cast h
  rw [secondsInDay, aprScale] at hcast
  push_cast at hcast
  rw [cast_secondsInDay]
  have hearned : 999 / 1000 * (apr / 365000000) * (basePrice * ((e₂ - e₁ : Nat) / 86400) : ℚ)
      ≤ rate intScale (intScale + dailyIncrement apr)
        * (basePrice * ((e₂ - e₁ : Nat) / 86400) : ℚ) := by
    apply mul_le_mul_of_nonneg_right hbounds.1
    positivity
  linarith [hbounds.2]

theorem calculateVectorPrice_mono {e₁ e₂ price₁ price₂ : Nat} (hprice : 0 < basePrice)
    (he : e₁ ≤ e₂) (hbound : e₂ ≤ u64Max) (hclimbs : Climbs apr basePrice e₁ e₂)
    (h₁ : calculateVectorPrice apr basePrice e₁ = .ok price₁)
    (h₂ : calculateVectorPrice apr basePrice e₂ = .ok price₂) : price₁ ≤ price₂ := by
  by_cases hapr : apr = 0
  . rw [calculateVectorPrice, if_pos (.inl hapr)] at h₁ h₂
    cases h₁
    cases h₂
    apply Nat.le_refl
  . rw [calculateVectorPrice_inv hapr h₁, calculateVectorPrice_inv hapr h₂]
    have hscale : 0 < intScale := by decide
    have hday : 0 < secondsInDay := by decide
    have hfactor : intScale ≤ intScale + dailyIncrement apr := Nat.le_add_right _ _
    have hcost := rounding_cost (Nat.pos_of_ne_zero hapr)
    have hgrowth := growth_nonneg hday (rate_nonneg hscale hfactor) hcost
    have hdays : e₂ / secondsInDay ≤ 2 ^ 48 := by
      unfold u64Max at hbound
      unfold secondsInDay
      omega
    rcases hclimbs with hzero | hfirst | hend | hsame | hlong | hinterest
    . exact absurd hzero hapr
    . exact compound_mono_first hscale hday hfactor hgrowth hfirst he hdays
    . exact compound_mono_whole hscale hfactor hgrowth hend he hdays
    . exact compound_mono_same hscale hfactor hsame he
    . by_contra hfall
      have hbounds := compound_fall hscale hday hfactor hprice hcost he hdays
        (Nat.lt_of_not_le hfall)
      omega
    . by_contra hfall
      have hbounds := compound_fall hscale hday hfactor hprice hcost he hdays
        (Nat.lt_of_not_le hfall)
      have hearned := le_interest (Nat.pos_of_ne_zero hapr) hinterest
      linarith [hbounds.2]

theorem le_calculateVectorPrice {elapsedTime price : Nat}
    (h : calculateVectorPrice apr basePrice elapsedTime = .ok price) : basePrice ≤ price := by
  by_cases hapr : apr = 0
  . rw [calculateVectorPrice, if_pos (.inl hapr)] at h
    cases h
    apply Nat.le_refl
  . rw [calculateVectorPrice_inv hapr h]
    apply le_compound (by decide)
    apply Nat.le_add_right

theorem calculateStepPriceAt_climbs {time₁ time₂ price₁ price₂ : Nat}
    (hprice : 0 < basePrice) (htime : time₁ ≤ time₂)
    (h₁ : calculateStepPriceAt apr basePrice baseTime priceFixDuration time₁ = .ok price₁)
    (h₂ : calculateStepPriceAt apr basePrice baseTime priceFixDuration time₂ = .ok price₂)
    (hclimbs : Climbs apr basePrice (stepEnd baseTime priceFixDuration time₁)
      (stepEnd baseTime priceFixDuration time₂))
    : price₁ ≤ price₂ ∧ basePrice ≤ price₁ := by
  rcases calculateStepPriceAt_inv h₁ with ⟨-, h₁⟩
  rcases calculateStepPriceAt_inv h₂ with ⟨hbound, h₂⟩
  constructor
  . exact calculateVectorPrice_mono hprice (stepEnd_mono htime) hbound hclimbs h₁ h₂
  . exact le_calculateVectorPrice h₁

theorem calculateStepPriceAt_climbs_over_day_end
    : calculateStepPriceAt 97600 1000000000 1 3600 168401 = .ok 1000523721
        ∧ calculateStepPriceAt 97600 1000000000 1 3600 176401 = .ok 1000557161
        ∧ 1000523721 ≤ 1000557161
        ∧ 1000000000 ≤ 1000523721 := by
  have h₁ : calculateStepPriceAt 97600 1000000000 1 3600 168401 = .ok 1000523721 := by rfl
  have h₂ : calculateStepPriceAt 97600 1000000000 1 3600 176401 = .ok 1000557161 := by rfl
  refine ⟨h₁, h₂, ?_⟩
  exact calculateStepPriceAt_climbs (by decide) (by decide) h₁ h₂ (by decide)

-- one percent a year from a price of one, in steps of a second, over the end of the eighth day
theorem calculateStepPriceAt_falls_at_day_end
    : ¬ ∀ apr basePrice baseTime priceFixDuration time₁ time₂ price₁ price₂ : Nat,
        0 < basePrice → 0 < priceFixDuration → baseTime ≤ time₁ → time₁ ≤ time₂ →
        calculateStepPriceAt apr basePrice baseTime priceFixDuration time₁ = .ok price₁ →
        calculateStepPriceAt apr basePrice baseTime priceFixDuration time₂ = .ok price₂ →
        price₁ ≤ price₂ ∧ basePrice ≤ price₁ := by
  intro h
  have h₁ : calculateStepPriceAt 10000 1000000000 1 1 691199 = .ok 1000219200 := by rfl
  have h₂ : calculateStepPriceAt 10000 1000000000 1 1 691200 = .ok 1000219199 := by rfl
  have hprices := h 10000 1000000000 1 1 691199 691200 1000219200 1000219199 (by decide)
    (by decide) (by decide) (by decide) h₁ h₂
  exact absurd hprices.1 (by decide)

end Steps

end OnreApp
