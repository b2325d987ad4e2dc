import OnreApp.Redemption.Impl.RedemptionUtils
import OnreApp.Utils.Lemmas.Fees

namespace OnreApp

open Checked

variable {clock : Clock} {offer : Offer} {amount bps minimum : Nat}
variable {tokenInMint tokenOutMint : MintAccount}

theorem processOfferCore_inv {result : OfferProcessResult}
    (h : processOfferCore clock offer amount tokenInMint tokenOutMint bps = .ok result) :
    computeOfferCurrentPrice offer clock.time = .ok result.currentPrice ∧
      0 < result.currentPrice ∧
      calculateFees amount bps
        = .ok {
          tokenInFeeAmount := result.tokenInFeeAmount
          tokenInNetAmount := result.tokenInNetAmount
        } ∧
      result.tokenOutAmount =
        result.tokenInNetAmount * 10 ^ (tokenOutMint.decimals + priceDecimals)
          / (result.currentPrice * 10 ^ tokenInMint.decimals) := by
  unfold processOfferCore processOfferCoreAt at h
  simp only [bind_eq_ok, pure_eq_ok] at h
  rcases h with ⟨_, _, _, _, active, hactive, price, hprice, fees, hfees, out, hout, rfl⟩
  have hcomputed : computeOfferCurrentPrice offer clock.time = .ok price := by
    unfold computeOfferCurrentPrice getActiveVectorAndCurrentPrice
    unfold calculateCurrentStepPrice at hprice
    rw [hactive, ok_bind, hprice]
    rfl
  exact ⟨hcomputed, (calculateTokenOutAmount_inv hout).1, hfees,
    (calculateTokenOutAmount_inv hout).2⟩

theorem processRedemptionCore_inv {result : RedemptionProcessResult}
    (h : processRedemptionCore clock offer amount tokenInMint tokenOutMint bps minimum
      = .ok result) :
    computeOfferCurrentPrice offer clock.time = .ok result.price ∧
      calculateFeesWithMinimum amount bps minimum
        = .ok {
          tokenInFeeAmount := result.tokenInFeeAmount
          tokenInNetAmount := result.tokenInNetAmount
        } ∧
      result.tokenOutAmount =
        result.tokenInNetAmount * result.price * 10 ^ tokenOutMint.decimals
          / (10 ^ tokenInMint.decimals * 10 ^ priceDecimals) := by
  unfold processRedemptionCore at h
  simp only [bind_eq_ok, require_eq_ok, okOr_eq_ok, checkedPow_eq_some, checkedMul_eq_some,
    pure_eq_ok] at h
  rcases h with ⟨price, hprice, fees, hfees, _, ⟨_, rfl⟩, _, ⟨_, rfl⟩, _, ⟨_, rfl⟩, _, ⟨_, rfl⟩,
    _, ⟨_, rfl⟩, _, _, _, _, rfl⟩
  exact ⟨hprice, hfees, rfl⟩

theorem calculateFeesWithMinimum_add {fees : CalculateFeeResult}
    (h : calculateFeesWithMinimum amount bps minimum = .ok fees) :
    fees.tokenInFeeAmount + fees.tokenInNetAmount = amount := by
  unfold calculateFeesWithMinimum at h
  rw [bind_eq_ok] at h
  rcases h with ⟨base, hbase, h⟩
  split at h
  . simp only [bind_eq_ok, require_eq_ok, okOr_eq_ok, checkedSub_eq_some, pure_eq_ok] at h
    rcases h with ⟨_, hle, _, ⟨_, rfl⟩, rfl⟩
    dsimp only
    omega
  . rw [← pure_eq_ok.mp h]
    exact (calculateFees_inv hbase).2

theorem calculateFeesWithMinimum_fee {fees : CalculateFeeResult} (hbps : bps ≤ maxBasisPoints)
    (hamount : amount ≤ u64Max) (h : calculateFeesWithMinimum amount bps minimum = .ok fees) :
    fees.tokenInFeeAmount
      = max ((amount * bps + (maxBasisPoints - 1)) / maxBasisPoints) minimum := by
  unfold calculateFeesWithMinimum at h
  rw [bind_eq_ok] at h
  rcases h with ⟨base, hbase, h⟩
  rw [← calculateFees_fee hbps hamount hbase]
  split at h
  . simp only [bind_eq_ok, require_eq_ok, okOr_eq_ok, checkedSub_eq_some, pure_eq_ok] at h
    rcases h with ⟨_, hle, _, ⟨_, rfl⟩, rfl⟩
    dsimp only
    omega
  . rw [← pure_eq_ok.mp h]
    omega

theorem calculateFeesWithMinimum_eq (hbps : bps ≤ maxBasisPoints) (hamount : amount ≤ u64Max)
    (minimum : Nat)
    : calculateFeesWithMinimum amount bps minimum =
        if minimum ≤ amount then
          .ok {
            tokenInFeeAmount := max (feeAmount amount bps) minimum
            tokenInNetAmount := amount - max (feeAmount amount bps) minimum
          }
        else
          .error (.onre .invalidAmount) := by
  have hle := feeAmount_le hbps amount
  unfold calculateFeesWithMinimum
  rw [calculateFees_eq hbps hamount, ok_bind]
  dsimp only
  split
  . next hbelow =>
    rw [Nat.max_eq_right (Nat.le_of_lt hbelow)]
    split
    . next hfits =>
      rw [require_of hfits, ok_bind]
      rw [checkedSub_eq_some.mpr ⟨hfits, rfl⟩, okOr_some, ok_bind]
      rfl
    . next hover =>
      unfold require Checked.require
      rw [if_neg hover]
      rfl
  . next habove =>
    rw [Nat.max_eq_left (by omega)]
    rw [if_pos (by omega)]
    rfl

section Value

variable {asset onyc : MintAccount}

theorem processOfferCore_value {result : OfferProcessResult}
    (h : processOfferCore clock offer amount asset onyc bps = .ok result) :
    result.tokenOutAmount * result.currentPrice * 10 ^ asset.decimals
      ≤
    amount * 10 ^ (onyc.decimals + priceDecimals) := by
  rcases processOfferCore_inv h with ⟨_, _, hfees, hout⟩
  have hnet := (calculateFees_inv hfees).2
  dsimp only at hnet
  rw [hout, Nat.mul_assoc]
  apply Nat.le_trans (Nat.div_mul_le_self _ _)
  apply Nat.mul_le_mul_right
  omega

theorem processRedemptionCore_value {result : RedemptionProcessResult}
    (h : processRedemptionCore clock offer amount onyc asset bps minimum = .ok result) :
    result.tokenOutAmount * 10 ^ (onyc.decimals + priceDecimals)
      ≤
    amount * result.price * 10 ^ asset.decimals := by
  rcases processRedemptionCore_inv h with ⟨_, hfees, hout⟩
  have hnet := calculateFeesWithMinimum_add hfees
  dsimp only at hnet
  rw [hout, Nat.pow_add]
  apply Nat.le_trans (Nat.div_mul_le_self _ _)
  apply Nat.mul_le_mul_right
  apply Nat.mul_le_mul_right
  omega

end Value

end OnreApp
