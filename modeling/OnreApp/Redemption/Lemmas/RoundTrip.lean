import OnreApp.Lib.Run
import OnreApp.PropAmm.Lemmas.Pricing
import OnreApp.Redemption.Lemmas.Pricing

namespace OnreApp

open Checked Run

structure Holdings where
  asset : Nat
  onyc : Nat
  deriving DecidableEq, Repr

inductive Trade where
  | buy (amount feeBasisPoints : Nat)
  | redeem (amount feeBasisPoints minimumFee : Nat)
  | sell (amount feeBasisPoints minimumFee actualLiquidity hardWallReserve : Nat)
      (pair : PropAmmPairState) (now : Int)

namespace Holdings

variable (clock : Clock) (offer : Offer) (asset onyc : MintAccount)

def payAsset (holdings : Holdings) (amount : Nat) : Result Holdings := do
  let left ← Checked.okOr (checkedSub holdings.asset amount) (Fault.token .insufficientFunds)
  return { holdings with asset := left }

def payOnyc (holdings : Holdings) (amount : Nat) : Result Holdings := do
  let left ← Checked.okOr (checkedSub holdings.onyc amount) (Fault.token .insufficientFunds)
  return { holdings with onyc := left }

def trade (holdings : Holdings) : Trade → Result Holdings
  | .buy amount feeBasisPoints => do
    let result ← processOfferCore clock offer amount asset onyc feeBasisPoints
    let holdings ← holdings.payAsset amount
    return { holdings with onyc := holdings.onyc + result.tokenOutAmount }
  | .redeem amount feeBasisPoints minimumFee => do
    let result ← processRedemptionCore clock offer amount onyc asset feeBasisPoints minimumFee
    let holdings ← holdings.payOnyc amount
    return { holdings with asset := holdings.asset + result.tokenOutAmount }
  | .sell amount feeBasisPoints minimumFee actualLiquidity hardWallReserve pair now => do
    let result ← processRedemptionCore clock offer amount onyc asset feeBasisPoints minimumFee
    let tokenOutAmount ← applyHardWallLiquidityFactorAtTime result.tokenOutAmount actualLiquidity
      hardWallReserve pair now
    let holdings ← holdings.payOnyc amount
    return { holdings with asset := holdings.asset + tokenOutAmount }

def value (price : Nat) (holdings : Holdings) : Nat :=
  holdings.asset * 10 ^ (onyc.decimals + priceDecimals)
    + holdings.onyc * price * 10 ^ asset.decimals

variable {clock offer asset onyc} {price : Nat} {holdings holdings' : Holdings}

theorem payAsset_inv {amount : Nat} (h : holdings.payAsset amount = .ok holdings') :
    holdings.asset = amount + holdings'.asset ∧ holdings'.onyc = holdings.onyc := by
  unfold payAsset at h
  simp only [bind_eq_ok, okOr_eq_ok, checkedSub_eq_some, pure_eq_ok] at h
  rcases h with ⟨_, ⟨hle, rfl⟩, rfl⟩
  dsimp only
  omega

theorem payOnyc_inv {amount : Nat} (h : holdings.payOnyc amount = .ok holdings') :
    holdings.onyc = amount + holdings'.onyc ∧ holdings'.asset = holdings.asset := by
  unfold payOnyc at h
  simp only [bind_eq_ok, okOr_eq_ok, checkedSub_eq_some, pure_eq_ok] at h
  rcases h with ⟨_, ⟨hle, rfl⟩, rfl⟩
  dsimp only
  omega

theorem value_of_payAsset {paid : Holdings} {amount out : Nat}
    (hpaid : holdings.payAsset amount = .ok paid)
    (hout : out * price * 10 ^ asset.decimals
      ≤ amount * 10 ^ (onyc.decimals + priceDecimals)) :
    value asset onyc price { paid with onyc := paid.onyc + out }
      ≤
    value asset onyc price holdings := by
  rcases payAsset_inv hpaid with ⟨hasset, honyc⟩
  unfold value
  rw [hasset, ← honyc]
  dsimp only
  rw [Nat.add_mul, Nat.add_mul, Nat.add_mul]
  omega

theorem value_of_payOnyc {paid : Holdings} {amount out : Nat}
    (hpaid : holdings.payOnyc amount = .ok paid)
    (hout : out * 10 ^ (onyc.decimals + priceDecimals)
      ≤ amount * price * 10 ^ asset.decimals) :
    value asset onyc price { paid with asset := paid.asset + out }
      ≤
    value asset onyc price holdings := by
  rcases payOnyc_inv hpaid with ⟨honyc, hasset⟩
  unfold value
  rw [honyc, ← hasset]
  dsimp only
  rw [Nat.add_mul, Nat.add_mul, Nat.add_mul]
  omega

theorem trade_value {t : Trade} (hprice : computeOfferCurrentPrice offer clock.time = .ok price)
    (h : trade clock offer asset onyc holdings t = .ok holdings') :
    value asset onyc price holdings' ≤ value asset onyc price holdings := by
  cases t with
  | buy amount feeBasisPoints =>
    unfold trade at h
    simp only [bind_eq_ok, pure_eq_ok] at h
    rcases h with ⟨result, hresult, paid, hpaid, rfl⟩
    have hsame := (processOfferCore_inv hresult).1
    rw [hprice] at hsame
    cases hsame
    apply value_of_payAsset hpaid
    apply processOfferCore_value hresult
  | redeem amount feeBasisPoints minimumFee =>
    unfold trade at h
    simp only [bind_eq_ok, pure_eq_ok] at h
    rcases h with ⟨result, hresult, paid, hpaid, rfl⟩
    have hsame := (processRedemptionCore_inv hresult).1
    rw [hprice] at hsame
    cases hsame
    apply value_of_payOnyc hpaid
    apply processRedemptionCore_value hresult
  | sell amount feeBasisPoints minimumFee actualLiquidity hardWallReserve pair now =>
    unfold trade at h
    simp only [bind_eq_ok, pure_eq_ok] at h
    rcases h with ⟨result, hresult, out, hout, paid, hpaid, rfl⟩
    have hsame := (processRedemptionCore_inv hresult).1
    rw [hprice] at hsame
    cases hsame
    apply value_of_payOnyc hpaid
    apply Nat.le_trans _ (processRedemptionCore_value hresult)
    apply Nat.mul_le_mul_right
    apply applyHardWallLiquidityFactorAtTime_le_raw hout

theorem no_value_extraction (clock : Clock) (offer : Offer) (asset onyc : MintAccount) (price : Nat)
    (hprice : computeOfferCurrentPrice offer clock.time = .ok price) :
    (∀ (holdings holdings' : Holdings) (t : Trade),
      trade clock offer asset onyc holdings t = .ok holdings' →
      value asset onyc price holdings' ≤ value asset onyc price holdings) ∧
    (∀ (holdings holdings' : Holdings) (trades : List Trade),
      run (trade clock offer asset onyc) holdings trades = .ok holdings' →
      value asset onyc price holdings' ≤ value asset onyc price holdings) ∧
    (∀ (x fee fee' minimum : Nat) (bought : OfferProcessResult)
        (redeemed : RedemptionProcessResult),
      processOfferCore clock offer x asset onyc fee = .ok bought →
      processRedemptionCore clock offer bought.tokenOutAmount onyc asset fee' minimum
        = .ok redeemed →
      redeemed.tokenOutAmount ≤ x) ∧
    (∀ (y fee fee' minimum : Nat) (redeemed : RedemptionProcessResult)
        (bought : OfferProcessResult),
      processRedemptionCore clock offer y onyc asset fee minimum = .ok redeemed →
      processOfferCore clock offer redeemed.tokenOutAmount asset onyc fee' = .ok bought →
      bought.tokenOutAmount ≤ y) := by
  refine ⟨?_, ?_, ?_, ?_⟩
  . intro holdings holdings' t h
    apply trade_value hprice h
  . intro holdings holdings' trades h
    apply run_inv (fun h => value asset onyc price h ≤ value asset onyc price holdings)
      (fun _ => True) _ _ (Nat.le_refl _) h
    . intro s s' t _ hs hstep
      apply Nat.le_trans (trade_value hprice hstep) hs
    . intros
      trivial
  . intro x fee fee' minimum bought redeemed hbuy hredeem
    have hbought := processOfferCore_value hbuy
    have hredeemed := processRedemptionCore_value hredeem
    have hsame := (processOfferCore_inv hbuy).1
    rw [(processRedemptionCore_inv hredeem).1] at hsame
    injection hsame with hsame
    rw [hsame] at hredeemed
    apply Nat.le_of_mul_le_mul_right (Nat.le_trans hredeemed hbought)
    apply Nat.pow_pos (by decide)
  . intro y fee fee' minimum redeemed bought hredeem hbuy
    have hredeemed := processRedemptionCore_value hredeem
    have hbought := processOfferCore_value hbuy
    rcases processOfferCore_inv hbuy with ⟨hsame, hpos, _⟩
    rw [(processRedemptionCore_inv hredeem).1] at hsame
    injection hsame with hsame
    rw [hsame] at hredeemed
    have hle := Nat.le_trans hbought hredeemed
    rw [Nat.mul_assoc, Nat.mul_assoc] at hle
    apply Nat.le_of_mul_le_mul_right hle
    apply Nat.mul_pos hpos (Nat.pow_pos (by decide))

theorem no_value_extraction_two_trades :
    let asset := mintForTest (.external 1) 6
    let onyc := mintForTest (.external 2) 9
    let offer := offerForTest (.external 1) (.external 2) 0
      { activeVectorForTest with basePrice := 1100000000 }
    let clock : Clock := { unixTimestamp := 1000, slot := 0 }
    let trades : List Trade := [.buy 1000000 50, .redeem 904545454 100 5]
    run (trade clock offer asset onyc) { asset := 1000000, onyc := 0 } trades
      = .ok { asset := 985049, onyc := 0 } ∧
    value asset onyc 1100000000 { asset := 985049, onyc := 0 }
      ≤ value asset onyc 1100000000 { asset := 1000000, onyc := 0 } := by
  intro asset onyc offer clock trades
  have hprice : computeOfferCurrentPrice offer clock.time = .ok 1100000000 := by decide +kernel
  have hrun : run (trade clock offer asset onyc) { asset := 1000000, onyc := 0 } trades
      = .ok { asset := 985049, onyc := 0 } := by decide +kernel
  refine ⟨hrun, ?_⟩
  apply (no_value_extraction clock offer asset onyc 1100000000 hprice).2.1 _ _ _ hrun

end Holdings

end OnreApp
