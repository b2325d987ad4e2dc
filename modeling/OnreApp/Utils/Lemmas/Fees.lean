import OnreApp.Lib.Rounding
import OnreApp.Utils.Impl.TokenUtils

namespace OnreApp

open Checked

theorem ceilDivU128_inv {numerator denominator result : Nat}
    (h : ceilDivU128 numerator denominator = some result) :
    result = (numerator + (denominator - 1)) / denominator := by
  unfold ceilDivU128 at h
  split at h
  . cases h
  . simp only [Option.bind_eq_bind, Option.bind_eq_some_iff, checkedSub_eq_some,
      checkedAdd_eq_some, checkedDiv_eq_some] at h
    rcases h with ⟨_, ⟨_, rfl⟩, _, ⟨_, rfl⟩, _, rfl⟩
    rfl

theorem ceilDivU128_eq {numerator denominator : Nat} (hpos : 0 < denominator)
    (hfits : numerator + (denominator - 1) ≤ u128Max) :
    ceilDivU128 numerator denominator = some ((numerator + (denominator - 1)) / denominator) := by
  unfold ceilDivU128
  rw [if_neg (by omega)]
  simp only [Option.bind_eq_bind, Option.bind_eq_some_iff, checkedSub_eq_some, checkedAdd_eq_some,
    checkedDiv_eq_some]
  refine ⟨_, ⟨hpos, rfl⟩, _, ⟨hfits, rfl⟩, ?_, rfl⟩
  omega

theorem calculateFees_inv {amount bps : Nat} {fees : CalculateFeeResult}
    (h : calculateFees amount bps = .ok fees) :
    fees.tokenInFeeAmount = truncU64 ((amount * bps + (maxBasisPoints - 1)) / maxBasisPoints) ∧
      fees.tokenInFeeAmount + fees.tokenInNetAmount = amount := by
  unfold calculateFees at h
  simp only [bind_eq_ok, okOr_eq_ok, checkedMul_eq_some, checkedSub_eq_some, pure_eq_ok] at h
  rcases h with ⟨_, ⟨_, rfl⟩, fee, hfee, _, ⟨hle, rfl⟩, rfl⟩
  rw [ceilDivU128_inv hfee] at hle
  rw [ceilDivU128_inv hfee]
  refine ⟨rfl, ?_⟩
  dsimp only
  omega

def feeAmount (amount bps : Nat) : Nat := (amount * bps + (maxBasisPoints - 1)) / maxBasisPoints

theorem feeAmount_le {bps : Nat} (hbps : bps ≤ maxBasisPoints) (amount : Nat)
    : feeAmount amount bps ≤ amount := by
  unfold feeAmount
  rw [Rounding.ceil_le_iff (by decide)]
  apply Nat.mul_le_mul_left amount hbps

theorem calculateFees_eq {amount bps : Nat} (hbps : bps ≤ maxBasisPoints) (hamount : amount ≤ u64Max)
    : calculateFees amount bps = .ok {
        tokenInFeeAmount := feeAmount amount bps
        tokenInNetAmount := amount - feeAmount amount bps
      } := by
  have hle := feeAmount_le hbps amount
  have hproduct : amount * bps ≤ u64Max * maxBasisPoints := Nat.mul_le_mul hamount hbps
  have hnumerator : amount * bps + (maxBasisPoints - 1) ≤ u128Max := by
    unfold u64Max maxBasisPoints at hproduct
    unfold u128Max maxBasisPoints
    omega
  have hceil : ceilDivU128 (amount * bps) maxBasisPoints = some (feeAmount amount bps) :=
    ceilDivU128_eq (by decide) hnumerator
  unfold calculateFees
  simp only [bind_eq_ok, okOr_eq_ok, checkedMul_eq_some, checkedSub_eq_some, pure_eq_ok]
  refine ⟨_, ⟨Nat.le_of_add_right_le hnumerator, rfl⟩, _, hceil, _, ⟨?_, rfl⟩, ?_⟩
  . rw [truncU64_of_le (Nat.le_trans hle hamount)]
    exact hle
  . rw [truncU64_of_le (Nat.le_trans hle hamount)]

theorem calculateFees_fee {amount bps : Nat} {fees : CalculateFeeResult} (hbps : bps ≤ maxBasisPoints)
    (hamount : amount ≤ u64Max) (h : calculateFees amount bps = .ok fees) :
    fees.tokenInFeeAmount = (amount * bps + (maxBasisPoints - 1)) / maxBasisPoints := by
  rw [(calculateFees_inv h).1]
  apply truncU64_of_le
  apply Nat.le_trans _ hamount
  have hmul := Nat.mul_le_mul_left amount hbps
  have hmax : maxBasisPoints = 10000 := rfl
  rw [hmax] at hmul ⊢
  omega

theorem calculateTokenOutAmount_inv {amount price tokenInDecimals tokenOutDecimals out : Nat}
    (h : calculateTokenOutAmount amount price tokenInDecimals tokenOutDecimals = .ok out) :
    0 < price ∧
      out = amount * 10 ^ (tokenOutDecimals + priceDecimals) / (price * 10 ^ tokenInDecimals) := by
  unfold calculateTokenOutAmount at h
  simp only [bind_eq_ok, require_eq_ok, okOr_eq_ok, checkedPow_eq_some, checkedMul_eq_some,
    pure_eq_ok] at h
  rcases h with ⟨_, hprice, _, _, _, _, _, ⟨_, rfl⟩, _, ⟨_, rfl⟩, _, ⟨_, rfl⟩, _, ⟨_, rfl⟩, _, _,
    _, _, rfl⟩
  exact ⟨hprice, rfl⟩

end OnreApp
