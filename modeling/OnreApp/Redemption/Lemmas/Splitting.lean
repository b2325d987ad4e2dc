import OnreApp.Redemption.Lemmas.Pricing

namespace OnreApp

open Checked Rounding

variable {clock : Clock} {offer : Offer} {bps minimum : Nat} {tokenInMint tokenOutMint : MintAccount}

theorem processOfferCore_exchange {amount price : Nat} {result : OfferProcessResult}
    (hbps : bps ≤ maxAllowedFeeBps) (hamount : amount ≤ u64Max)
    (hprice : computeOfferCurrentPrice offer clock.time = .ok price)
    (h : processOfferCore clock offer amount tokenInMint tokenOutMint bps = .ok result) :
    Exchange bps maxBasisPoints 0 (10 ^ (tokenOutMint.decimals + priceDecimals))
      (price * 10 ^ tokenInMint.decimals) amount result.tokenInFeeAmount result.tokenInNetAmount
      result.tokenOutAmount := by
  rcases processOfferCore_inv h with ⟨hsame, _, hfees, hout⟩
  rw [hprice] at hsame
  injection hsame with hsame
  have hle : maxAllowedFeeBps ≤ maxBasisPoints := by decide
  constructor
  . rw [Nat.max_zero]
    apply calculateFees_fee (Nat.le_trans hbps hle) hamount hfees
  . apply (calculateFees_inv hfees).2
  . rw [hout, hsame]

theorem processRedemptionCore_exchange {amount price : Nat} {result : RedemptionProcessResult}
    (hbps : bps ≤ maxAllowedFeeBps) (hamount : amount ≤ u64Max)
    (hprice : computeOfferCurrentPrice offer clock.time = .ok price)
    (h : processRedemptionCore clock offer amount tokenInMint tokenOutMint bps minimum
      = .ok result) :
    Exchange bps maxBasisPoints minimum (price * 10 ^ tokenOutMint.decimals)
      (10 ^ tokenInMint.decimals * 10 ^ priceDecimals) amount result.tokenInFeeAmount
      result.tokenInNetAmount result.tokenOutAmount := by
  rcases processRedemptionCore_inv h with ⟨hsame, hfees, hout⟩
  rw [hprice] at hsame
  injection hsame with hsame
  have hle : maxAllowedFeeBps ≤ maxBasisPoints := by decide
  constructor
  . apply calculateFeesWithMinimum_fee (Nat.le_trans hbps hle) hamount hfees
  . apply calculateFeesWithMinimum_add hfees
  . rw [hout, hsame, Nat.mul_assoc]

theorem splitting_never_helps (clock : Clock) (offer : Offer)
    (tokenInMint tokenOutMint : MintAccount) (bps minimum : Nat) (hbps : bps ≤ maxAllowedFeeBps)
    (amounts : List Nat) (hne : amounts ≠ []) (hsum : amounts.sum ≤ u64Max) :
    (∀ (results : List OfferProcessResult) (total : OfferProcessResult),
      List.Forall₂
        (fun amount result =>
          processOfferCore clock offer amount tokenInMint tokenOutMint bps = .ok result)
        amounts results →
      processOfferCore clock offer amounts.sum tokenInMint tokenOutMint bps = .ok total →
      total.tokenInFeeAmount ≤ (results.map (·.tokenInFeeAmount)).sum ∧
      (results.map (·.tokenOutAmount)).sum ≤ total.tokenOutAmount) ∧
    (∀ (results : List RedemptionProcessResult) (total : RedemptionProcessResult),
      List.Forall₂
        (fun amount result =>
          processRedemptionCore clock offer amount tokenInMint tokenOutMint bps minimum
            = .ok result)
        amounts results →
      processRedemptionCore clock offer amounts.sum tokenInMint tokenOutMint bps minimum
        = .ok total →
      total.tokenInFeeAmount ≤ (results.map (·.tokenInFeeAmount)).sum ∧
      (results.map (·.tokenOutAmount)).sum ≤ total.tokenOutAmount) := by
  have hunit : 0 < maxBasisPoints := by decide
  constructor
  . intro results total hparts htotal
    have hprice := (processOfferCore_inv htotal).1
    have hexchanges := forall₂_of_sum_le hsum
      (fun amount result hamount hresult =>
        processOfferCore_exchange hbps hamount hprice hresult) hparts
    apply Exchange.split hunit hne hexchanges
      (processOfferCore_exchange hbps hsum hprice htotal)
  . intro results total hparts htotal
    have hprice := (processRedemptionCore_inv htotal).1
    have hexchanges := forall₂_of_sum_le hsum
      (fun amount result hamount hresult =>
        processRedemptionCore_exchange hbps hamount hprice hresult) hparts
    apply Exchange.split hunit hne hexchanges
      (processRedemptionCore_exchange hbps hsum hprice htotal)

theorem splitting_never_helps_two_parts :
    let asset := mintForTest (.external 1) 6
    let onyc := mintForTest (.external 2) 9
    let offer := offerForTest (.external 1) (.external 2) 0 activeVectorForTest
    let clock : Clock := { unixTimestamp := 1000, slot := 0 }
    let redeem (amount : Nat) := processRedemptionCore clock offer amount onyc asset 100 20
    let result (net fee out : Nat) : RedemptionProcessResult := {
      price := 1000000000
      tokenInNetAmount := net
      tokenInFeeAmount := fee
      tokenOutAmount := out
    }
    redeem 1500 = .ok (result 1480 20 1) ∧ redeem 2700 = .ok (result 2673 27 2) ∧
    redeem 4200 = .ok (result 4158 42 4) ∧ 42 ≤ 20 + 27 ∧ 1 + 2 ≤ 4 := by
  intro asset onyc offer clock redeem result
  have hfirst : redeem 1500 = .ok (result 1480 20 1) := by decide +kernel
  have hsecond : redeem 2700 = .ok (result 2673 27 2) := by decide +kernel
  have htotal : redeem 4200 = .ok (result 4158 42 4) := by decide +kernel
  refine ⟨hfirst, hsecond, htotal, ?_⟩
  apply (splitting_never_helps clock offer onyc asset 100 20 (by decide) [1500, 2700] (by decide)
    (by decide)).2 [result 1480 20 1, result 2673 27 2] (result 4158 42 4) _ htotal
  exact .cons hfirst (.cons hsecond .nil)

end OnreApp
