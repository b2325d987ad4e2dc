import OnreApp.MarketInfo.Impl.Valuation
import OnreApp.Offer.Lemmas.VectorPrice

namespace OnreApp

open Checked FixedPoint

section Year

variable {apr : Nat}

theorem dailyFactor_eq (hapr : apr ≤ u64Max)
    : dailyFactor apr = .ok (intScale + dailyIncrement apr) := by
  have hincrement : intScale + dailyIncrement apr ≤ u128Max := by
    have hincrement : dailyIncrement apr ≤ intScale * apr + aprScale * 365 / 2 :=
      Nat.div_le_self _ _
    unfold u64Max at hapr
    unfold intScale aprScale at hincrement
    unfold intScale u128Max
    omega
  have hproduct : intScale * apr + aprScale * 365 / 2 ≤ u128Max := by
    unfold u64Max at hapr
    unfold intScale aprScale u128Max
    omega
  unfold dailyFactor
  simp only [bind_eq_ok, okOr_eq_ok, checkedMul_eq_some, checkedAdd_eq_some, checkedDiv_eq_some]
  exact ⟨_, ⟨Nat.le_of_add_right_le hproduct, rfl⟩, _, ⟨hproduct, rfl⟩, _, ⟨by decide, rfl⟩,
    hincrement, rfl⟩

def yearFactor (apr : Nat) : Option Nat := powFixed (intScale + dailyIncrement apr) 365 intScale

theorem yearFactor_bounds {factor : Nat} (h : yearFactor apr = some factor)
    : intScale ≤ factor ∧ factor * intScale ≤ u128Max := by
  refine ⟨?_, powFixed_fits (by decide) h⟩
  rw [powFixed_eq h]
  apply le_pow (by decide) (Nat.le_add_right intScale (dailyIncrement apr))

theorem yearPrice_fits {factor : Nat} (h : factor * intScale ≤ u128Max)
    : 1000000000 * factor + intScale / 2 ≤ u128Max ∧ mul intScale 1000000000 factor ≤ u64Max := by
  unfold intScale u128Max at h
  unfold mul intScale u128Max u64Max
  omega

theorem apy_fits {factor : Nat} (h : factor * intScale ≤ u128Max)
    : (factor - intScale) * extScale + intScale / 2 ≤ u128Max ∧
      mul intScale (factor - intScale) extScale ≤ u64Max := by
  unfold intScale u128Max at h
  unfold mul intScale extScale u128Max u64Max
  omega

theorem yearPrice_eq_ok (hapr : apr ≤ u64Max) {price : Nat}
    : calculateVectorPrice apr 1000000000 (365 * 86400) = .ok price ↔
        ∃ (factor : Nat), yearFactor apr = some factor ∧ price = mul intScale 1000000000 factor := by
  rw [yearFactor]
  by_cases hzero : apr = 0
  . subst hzero
    have hprice : calculateVectorPrice 0 1000000000 (365 * 86400) = .ok 1000000000 := rfl
    have hfactor : powFixed (intScale + dailyIncrement 0) 365 intScale = some intScale := by decide
    rw [hprice, hfactor]
    constructor
    . rintro ⟨⟩
      exact ⟨intScale, rfl, rfl⟩
    . rintro ⟨_, ⟨⟩, rfl⟩
      rfl
  . unfold calculateVectorPrice
    rw [if_neg (by omega)]
    rw [dailyFactor_eq hapr, ok_bind]
    have hdays : 365 * 86400 / secondsInDay = 365 := rfl
    have hremaining : 365 * 86400 % secondsInDay = 0 := rfl
    rw [hdays, hremaining]
    simp only [bind_eq_ok, okOr_eq_ok, ↓reduceIte, require_eq_ok, pure_eq_ok]
    constructor
    . rintro ⟨factor, hfactor, fullDayPrice, hprice, _, _, rfl⟩
      exact ⟨factor, hfactor, mulDivRoundU128_eq hprice⟩
    . rintro ⟨factor, hfactor, rfl⟩
      have hfits := yearPrice_fits (yearFactor_bounds hfactor).2
      exact ⟨factor, hfactor, _, mulDivRoundU128_of_fits (by decide) hfits.1, (), hfits.2, rfl⟩

theorem apy_eq_ok (hapr : apr ≤ u64Max) {apy : Nat}
    : calculateApyFromApr apr = .ok apy ↔
        ∃ (factor : Nat), yearFactor apr = some factor ∧
          apy = mul intScale (factor - intScale) extScale := by
  -- the APY takes the daily factor in the same steps as the price
  have hbase : (do
      let num ← okOr (checkedMul u128Max intScale apr) .overflow
      let den ← okOr (checkedMul u128Max extScale compoundingPeriods) .overflow
      let adjusted ← okOr (checkedAdd u128Max num (den / 2)) .overflow
      let incr ← okOr (checkedDiv adjusted den) .divByZero
      okOr (checkedAdd u128Max intScale incr) .overflow) = .ok (intScale + dailyIncrement apr) := by
    have hfactor := dailyFactor_eq hapr
    simp only [dailyFactor, bind_eq_ok, okOr_eq_ok] at hfactor ⊢
    rcases hfactor with ⟨num, hnum, adjusted, hadjusted, incr, hincr, hsum⟩
    exact ⟨num, hnum, _, rfl, adjusted, hadjusted, incr, hincr, hsum⟩
  simp only [bind_eq_ok, okOr_eq_ok] at hbase
  rcases hbase with ⟨num, hnum, den, hden, adjusted, hadjusted, incr, hincr, hsum⟩
  unfold calculateApyFromApr
  rw [hnum, okOr_some, ok_bind, hden, okOr_some, ok_bind, hadjusted, okOr_some, ok_bind]
  rw [hincr, okOr_some, ok_bind, hsum, okOr_some, ok_bind]
  simp only [bind_eq_ok, okOr_eq_ok, checkedSub_eq_some, require_eq_ok, pure_eq_ok]
  constructor
  . rintro ⟨factor, hfactor, _, ⟨_, rfl⟩, _, hapy, _, _, rfl⟩
    exact ⟨factor, hfactor, mulDivRoundU128_eq hapy⟩
  . rintro ⟨factor, hfactor, rfl⟩
    rcases yearFactor_bounds hfactor with ⟨hle, hbound⟩
    have hfits := apy_fits hbound
    exact ⟨factor, hfactor, _, ⟨hle, rfl⟩, _, mulDivRoundU128_of_fits (by decide) hfits.1, (),
      hfits.2, rfl⟩

theorem growth_close {factor : Nat} (h : intScale ≤ factor)
    : |(mul intScale 1000000000 factor : Int) - 1000000000
        - 1000 * mul intScale (factor - intScale) extScale| ≤ 500 := by
  rcases Nat.exists_eq_add_of_le h with ⟨growth, rfl⟩
  rw [Nat.add_sub_cancel_left]
  unfold mul intScale extScale
  rw [abs_le]
  omega

end Year

theorem calculateApyFromApr_growth {apr : Nat} (hapr : apr ≤ u64Max)
    : ((∃ (apy : Nat), calculateApyFromApr apr = .ok apy) ↔
        ∃ (price : Nat), calculateVectorPrice apr 1000000000 (365 * 86400) = .ok price) ∧
      ∀ (apy price : Nat), calculateApyFromApr apr = .ok apy →
        calculateVectorPrice apr 1000000000 (365 * 86400) = .ok price →
        |(price : Int) - 1000000000 - 1000 * apy| ≤ 500 := by
  simp only [apy_eq_ok hapr, yearPrice_eq_ok hapr]
  constructor
  . constructor
    . rintro ⟨_, factor, hfactor, _⟩
      exact ⟨_, factor, hfactor, rfl⟩
    . rintro ⟨_, factor, hfactor, _⟩
      exact ⟨_, factor, hfactor, rfl⟩
  . rintro apy price ⟨factor, hfactor, rfl⟩ ⟨factor', hfactor', rfl⟩
    rw [hfactor, Option.some.injEq] at hfactor'
    subst hfactor'
    apply growth_close (yearFactor_bounds hfactor).1

theorem calculateApyFromApr_growth_tenth
    : calculateApyFromApr 100000 = .ok 105156 ∧
      calculateVectorPrice 100000 1000000000 (365 * 86400) = .ok 1105155782 ∧
      |((1105155782 : Nat) : Int) - 1000000000 - 1000 * (105156 : Nat)| ≤ 500 := by
  have hapy : calculateApyFromApr 100000 = .ok 105156 := by decide +kernel
  have hprice : calculateVectorPrice 100000 1000000000 (365 * 86400) = .ok 1105155782 := by
    decide +kernel
  refine ⟨hapy, hprice, ?_⟩
  exact (calculateApyFromApr_growth (by decide)).2 105156 1105155782 hapy hprice

end OnreApp
