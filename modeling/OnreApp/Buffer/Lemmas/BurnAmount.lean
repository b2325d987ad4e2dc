import OnreApp.Buffer.Lemmas.Supply
import OnreApp.Utils.Lemmas.Fees

namespace OnreApp

open Checked

theorem calculateTvl_eq_ok {circulatingSupply nav tvl : Nat}
    : calculateTvl circulatingSupply nav = .ok tvl ↔
        circulatingSupply * nav ≤ u128Max ∧
          circulatingSupply * nav / 10 ^ priceDecimals ≤ u64Max ∧
          circulatingSupply * nav / 10 ^ priceDecimals = tvl := by
  unfold calculateTvl
  simp only [okOr_eq_ok, Option.bind_eq_bind, Option.bind_eq_some_iff, checkedMul_eq_some,
    checkedDiv_eq_some, tryFrom_eq_some]
  constructor
  . rintro ⟨_, ⟨hmul, rfl⟩, _, ⟨_, rfl⟩, hfits, rfl⟩
    exact ⟨hmul, hfits, rfl⟩
  . rintro ⟨hmul, hfits, rfl⟩
    exact ⟨_, ⟨hmul, rfl⟩, _, ⟨by decide, rfl⟩, hfits, rfl⟩

/-- What is left in circulation after burning `burn` still carries `assets` at this NAV. -/
def AdmissibleBurn (circulatingSupply nav assets burn : Nat) : Prop :=
  burn ≤ circulatingSupply ∧
    ∃ (tvl : Nat), calculateTvl (circulatingSupply - burn) nav = .ok tvl ∧ assets ≤ tvl

def requiredSupply (assets nav : Nat) : Nat :=
  (assets * 10 ^ priceDecimals + (nav - 1)) / nav

section BurnAmount

variable {circulatingSupply nav tvl assetAdjustmentAmount : Nat}

theorem calculateTvl_sub (htvl : calculateTvl circulatingSupply nav = .ok tvl) (burn : Nat)
    : calculateTvl (circulatingSupply - burn) nav
        =
      .ok ((circulatingSupply - burn) * nav / 10 ^ priceDecimals) := by
  rw [calculateTvl_eq_ok] at htvl ⊢
  rcases htvl with ⟨hmul, hfits, _⟩
  have hle : (circulatingSupply - burn) * nav ≤ circulatingSupply * nav :=
    Nat.mul_le_mul_right nav (Nat.sub_le circulatingSupply burn)
  refine ⟨Nat.le_trans hle hmul, ?_, rfl⟩
  apply Nat.le_trans (Nat.div_le_div_right hle) hfits

theorem admissibleBurn_iff (hnav : 0 < nav)
    (htvl : calculateTvl circulatingSupply nav = .ok tvl) (assets burn : Nat)
    : AdmissibleBurn circulatingSupply nav assets burn ↔
        burn ≤ circulatingSupply ∧ requiredSupply assets nav ≤ circulatingSupply - burn := by
  unfold AdmissibleBurn requiredSupply
  rw [calculateTvl_sub htvl burn]
  rw [← Rounding.le_mul_div_iff_ceil_le hnav (by decide)]
  constructor
  . rintro ⟨hle, _, ⟨⟩, hassets⟩
    exact ⟨hle, hassets⟩
  . rintro ⟨hle, hassets⟩
    exact ⟨hle, _, rfl, hassets⟩

theorem requiredSupply_le (hnav : 0 < nav)
    (htvl : calculateTvl circulatingSupply nav = .ok tvl) {assets : Nat} (hassets : assets ≤ tvl)
    : requiredSupply assets nav ≤ circulatingSupply := by
  have hnone : AdmissibleBurn circulatingSupply nav assets 0 :=
    ⟨Nat.zero_le _, tvl, htvl, hassets⟩
  rw [admissibleBurn_iff hnav htvl] at hnone
  exact hnone.2

theorem requiredSupply_eq {assets : Nat} (hnav : 0 < nav) (hnav64 : nav ≤ u64Max)
    (hassets : assets ≤ u64Max)
    : (do
        let scaled ← okOr (checkedMul u128Max assets (10 ^ priceDecimals)) .mathOverflow
        okOr (ceilDivU128 scaled nav) .mathOverflow)
        =
      .ok (requiredSupply assets nav) := by
  have hfits : assets * 10 ^ priceDecimals + (nav - 1) ≤ u128Max := by
    unfold u64Max at hassets hnav64
    unfold priceDecimals u128Max
    omega
  have hmul : assets * 10 ^ priceDecimals ≤ u128Max := Nat.le_of_add_right_le hfits
  simp only [bind_eq_ok, okOr_eq_ok, checkedMul_eq_some]
  exact ⟨_, ⟨hmul, rfl⟩, ceilDivU128_eq hnav hfits⟩

theorem calculateBurnAmount_eq (hsupply : circulatingSupply ≤ u64Max) (hnav : 0 < nav)
    (hnav64 : nav ≤ u64Max) (htvl : calculateTvl circulatingSupply nav = .ok tvl)
    (hadjustment : assetAdjustmentAmount ≤ tvl)
    : calculateBurnAmount circulatingSupply assetAdjustmentAmount nav nav
        =
      if requiredSupply (tvl - assetAdjustmentAmount) nav < circulatingSupply then
        .ok (circulatingSupply - requiredSupply (tvl - assetAdjustmentAmount) nav)
      else
        .error (.onre .noBurnNeeded) := by
  have hrequired := requiredSupply_le hnav htvl (Nat.sub_le tvl assetAdjustmentAmount)
  have htvl64 : tvl ≤ u64Max := by
    rw [calculateTvl_eq_ok] at htvl
    rcases htvl with ⟨_, hfits, rfl⟩
    exact hfits
  have hsupply_eq := requiredSupply_eq hnav hnav64
    (Nat.le_trans (Nat.sub_le tvl assetAdjustmentAmount) htvl64)
  generalize hrequired_def : requiredSupply (tvl - assetAdjustmentAmount) nav = required at *
  have hscale : checkedPow u128Max 10 priceDecimals = some (10 ^ priceDecimals) := rfl
  simp only [bind_eq_ok, okOr_eq_ok] at hsupply_eq
  rcases hsupply_eq with ⟨scaled, hscaled, hceil⟩
  have hsub : checkedSub circulatingSupply required = some (circulatingSupply - required) := by
    rw [checkedSub_eq_some]
    exact ⟨hrequired, rfl⟩
  unfold calculateBurnAmount
  rw [htvl]
  simp only [mapErr]
  rw [ok_bind]
  rw [require_of hadjustment]
  rw [ok_bind]
  rw [hscale]
  rw [okOr_some, ok_bind]
  rw [hscaled]
  rw [okOr_some, ok_bind]
  rw [hceil]
  rw [okOr_some, ok_bind]
  rw [require_of hrequired, ok_bind]
  rw [hsub]
  rw [okOr_some, ok_bind]
  split
  . next hlt =>
    rw [require_of (Nat.sub_pos_of_lt hlt)]
    rw [ok_bind]
    rw [require_of (Nat.le_trans (Nat.sub_le circulatingSupply required) hsupply)]
    rfl
  . next hge =>
    unfold require Checked.require
    rw [if_neg (by omega)]
    rfl

theorem requiredSupply_tvl (hnav : 10 ^ priceDecimals ≤ nav)
    (htvl : calculateTvl circulatingSupply nav = .ok tvl)
    : requiredSupply tvl nav = circulatingSupply := by
  rw [calculateTvl_eq_ok] at htvl
  rcases htvl with ⟨_, _, rfl⟩
  have hunit : 0 < 10 ^ priceDecimals := by decide
  unfold requiredSupply
  generalize 10 ^ priceDecimals = unit at *
  apply Nat.le_antisymm
  . rw [Rounding.ceil_le_iff (by omega)]
    apply Nat.div_mul_le_self
  . -- one unit of supply less is worth less than the floor of the assets
    cases circulatingSupply with
    | zero => apply Nat.zero_le
    | succ supply =>
      rw [Nat.succ_le_iff, ← Nat.not_le]
      rw [Rounding.ceil_le_iff (by omega)]
      have hfloor := Nat.lt_div_mul_add (a := (supply + 1) * nav) hunit
      rw [Nat.succ_mul] at hfloor ⊢
      omega

end BurnAmount

theorem calculateBurnAmount_largest {circulatingSupply nav tvl assetAdjustmentAmount : Nat}
    (hsupply : circulatingSupply ≤ u64Max) (hnav : 0 < nav) (hnav64 : nav ≤ u64Max)
    (htvl : calculateTvl circulatingSupply nav = .ok tvl) (hadjustment : assetAdjustmentAmount ≤ tvl)
    : (calculateBurnAmount circulatingSupply assetAdjustmentAmount nav nav
          = .error (.onre .noBurnNeeded) ↔
        ¬∃ (burn : Nat), 0 < burn ∧
          AdmissibleBurn circulatingSupply nav (tvl - assetAdjustmentAmount) burn) ∧
      ((∃ (burn : Nat), 0 < burn ∧
          AdmissibleBurn circulatingSupply nav (tvl - assetAdjustmentAmount) burn) →
        ∃ (burn : Nat),
          calculateBurnAmount circulatingSupply assetAdjustmentAmount nav nav = .ok burn ∧
          0 < burn ∧
          AdmissibleBurn circulatingSupply nav (tvl - assetAdjustmentAmount) burn ∧
          ∀ (larger : Nat), burn < larger → larger ≤ circulatingSupply →
            ∃ (rest : Nat), calculateTvl (circulatingSupply - larger) nav = .ok rest ∧
              rest < tvl - assetAdjustmentAmount) ∧
      (assetAdjustmentAmount = 0 → 10 ^ priceDecimals ≤ nav →
        calculateBurnAmount circulatingSupply assetAdjustmentAmount nav nav
          = .error (.onre .noBurnNeeded)) := by
  have hburn := calculateBurnAmount_eq hsupply hnav hnav64 htvl hadjustment
  have hadmissible := admissibleBurn_iff hnav htvl (tvl - assetAdjustmentAmount)
  have hexists :
      (∃ (burn : Nat), 0 < burn ∧
        AdmissibleBurn circulatingSupply nav (tvl - assetAdjustmentAmount) burn) ↔
        requiredSupply (tvl - assetAdjustmentAmount) nav < circulatingSupply := by
    constructor
    . rintro ⟨burn, hpos, hburn⟩
      rw [hadmissible] at hburn
      omega
    . intro hlt
      refine ⟨1, Nat.one_pos, ?_⟩
      rw [hadmissible]
      omega
  refine ⟨?_, ?_, ?_⟩
  . rw [hexists, hburn]
    split
    . next hlt => simp [hlt]
    . next hge => simp [hge]
  . rw [hexists]
    intro hlt
    rw [if_pos hlt] at hburn
    refine ⟨_, hburn, by omega, ?_, ?_⟩
    . rw [hadmissible]
      omega
    . intro larger hlarger hle
      refine ⟨_, calculateTvl_sub htvl larger, ?_⟩
      rw [← Nat.not_le]
      rw [Rounding.le_mul_div_iff_ceil_le hnav (by decide)]
      unfold requiredSupply at hlt hlarger
      omega
  . rintro rfl hscale
    rw [hburn]
    rw [Nat.sub_zero, requiredSupply_tvl hscale htvl]
    rw [if_neg (Nat.lt_irrefl _)]

theorem calculateBurnAmount_largest_below_par
    : (calculateBurnAmount 10 2 700000000 700000000 = .error (.onre .noBurnNeeded) ↔
        ¬∃ (burn : Nat), 0 < burn ∧ AdmissibleBurn 10 700000000 (7 - 2) burn) ∧
      ((∃ (burn : Nat), 0 < burn ∧ AdmissibleBurn 10 700000000 (7 - 2) burn) →
        ∃ (burn : Nat), calculateBurnAmount 10 2 700000000 700000000 = .ok burn ∧ 0 < burn ∧
          AdmissibleBurn 10 700000000 (7 - 2) burn ∧
          ∀ (larger : Nat), burn < larger → larger ≤ 10 →
            ∃ (rest : Nat), calculateTvl (10 - larger) 700000000 = .ok rest ∧ rest < 7 - 2) ∧
      (2 = 0 → 10 ^ priceDecimals ≤ 700000000 →
        calculateBurnAmount 10 2 700000000 700000000 = .error (.onre .noBurnNeeded)) :=
  calculateBurnAmount_largest (by decide) (by decide) (by decide) (by decide) (by decide)

example : calculateBurnAmount 10 2 700000000 700000000 = .ok 2 := by decide

end OnreApp
