import OnreApp.Program.Routing
import OnreApp.PropAmm.Lemmas.Quote

namespace OnreApp

open Checked TokenLedger

variable {clock clock' : Clock} {w w₁ w' : World} {args : QuoteSwapArgs} {quote : SwapQuote}

section Failures

theorem notSlippage_load {α : Type} (account : Option α) : NotSlippage (World.load account) :=
  failsOnlyWith_okOr nofun

theorem notSlippage_loadMint (w : World) (key : Pubkey) : NotSlippage (w.loadMint key) := by
  apply failsOnlyWith_bind (notSlippage_load _)
  intros
  apply failsOnlyWith_pure

theorem resolveSwapSide_notSlippage (state : State) (tokenInMint tokenOutMint : Pubkey)
    : NotSlippage (resolveSwapSide state tokenInMint tokenOutMint) := by
  unfold resolveSwapSide
  apply failsOnlyWith_bind (notSlippage_require _ (by decide))
  intros
  split
  . apply failsOnlyWith_pure
  . split
    . apply failsOnlyWith_pure
    . intro e he
      cases he
      nofun

theorem validatePropAmmPairForSide_notSlippage (state : State) (pair : PropAmmPairState)
    (offerKey tokenInMint tokenOutMint : Pubkey) (side : SwapSide)
    : NotSlippage (validatePropAmmPairForSide state pair offerKey tokenInMint tokenOutMint side) := by
  unfold validatePropAmmPairForSide validateCanonicalOffer validatePropAmmPairState
  apply failsOnlyWith_bind
  . apply failsOnlyWith_bind (resolveSwapSide_notSlippage _ _ _)
    intros
    apply failsOnlyWith_bind (notSlippage_require _ (by decide))
    intros
    apply failsOnlyWith_pure
  intros
  apply failsOnlyWith_bind (notSlippage_require _ (by decide))
  intros
  apply failsOnlyWith_bind
  . apply failsOnlyWith_bind (resolveSwapSide_notSlippage _ _ _)
    intros
    apply failsOnlyWith_bind (notSlippage_require _ (by decide))
    intros
    apply failsOnlyWith_bind (notSlippage_require _ (by decide))
    intros
    apply failsOnlyWith_bind (notSlippage_require _ (by decide))
    intros
    apply failsOnlyWith_bind (notSlippage_require _ (by decide))
    intros
    apply failsOnlyWith_pure
  intros
  apply notSlippage_require _ (by decide)

theorem calculateFees_notSlippage (tokenInAmount feeBasisPoints : Nat)
    : NotSlippage (calculateFees tokenInAmount feeBasisPoints) := by
  unfold calculateFees
  apply failsOnlyWith_bind (notSlippage_okOr _ (by decide))
  intros
  apply failsOnlyWith_bind (notSlippage_okOr _ (by decide))
  intros
  apply failsOnlyWith_bind (notSlippage_okOr _ (by decide))
  intros
  apply failsOnlyWith_pure

theorem calculateTokenOutAmount_notSlippage (tokenInAmount price tokenInDecimals tokenOutDecimals : Nat)
    : NotSlippage (calculateTokenOutAmount tokenInAmount price tokenInDecimals tokenOutDecimals) := by
  unfold calculateTokenOutAmount
  apply failsOnlyWith_bind (notSlippage_require _ (by decide))
  intros
  apply failsOnlyWith_bind (notSlippage_require _ (by decide))
  intros
  apply failsOnlyWith_bind (notSlippage_require _ (by decide))
  intros
  apply failsOnlyWith_bind (avoids_orPanic _)
  intros
  apply failsOnlyWith_bind (notSlippage_okOr _ (by decide))
  intros
  apply failsOnlyWith_bind (avoids_orPanic _)
  intros
  apply failsOnlyWith_bind (notSlippage_okOr _ (by decide))
  intros
  apply failsOnlyWith_bind (notSlippage_require _ (by decide))
  intros
  apply failsOnlyWith_bind (notSlippage_require _ (by decide))
  intros
  apply failsOnlyWith_pure

theorem processOfferCore_notSlippage (offer : Offer) (tokenInAmount : Nat)
    (tokenInMint tokenOutMint : MintAccount) (feeBasisPoints : Nat)
    : NotSlippage (processOfferCore clock offer tokenInAmount tokenInMint tokenOutMint
        feeBasisPoints) := by
  unfold processOfferCore processOfferCoreAt Offer.requireMints calculateCurrentStepPrice
  apply failsOnlyWith_bind (notSlippage_require _ (by decide))
  intros
  apply failsOnlyWith_bind
  . apply failsOnlyWith_bind (notSlippage_require _ (by decide))
    intros
    apply notSlippage_require _ (by decide)
  intros
  apply failsOnlyWith_bind (notSlippage_okOr _ (by decide))
  intros
  apply failsOnlyWith_bind (calculateStepPriceAt_notSlippage _ _ _ _ _)
  intros
  apply failsOnlyWith_bind (calculateFees_notSlippage _ _)
  intros
  apply failsOnlyWith_bind (calculateTokenOutAmount_notSlippage _ _ _ _)
  intros
  apply failsOnlyWith_pure

theorem recordPropAmmBuy_notSlippage (pair : PropAmmPairState) (value : Nat) (now : Int)
    : NotSlippage (recordPropAmmBuy pair value now) := by
  unfold recordPropAmmBuy
  apply failsOnlyWith_bind (rollPropAmmVolumeTracker_notSlippage _ _)
  intros
  apply failsOnlyWith_bind (notSlippage_okOr _ (by decide))
  intros
  apply failsOnlyWith_pure

theorem vaultTargetBps_notSlippage (w : World) (offerKey tokenInMint tokenOutMint : Pubkey)
    : NotSlippage (loadRedemptionOfferVaultTargetBpsForOffer w offerKey tokenInMint
        tokenOutMint) := by
  unfold loadRedemptionOfferVaultTargetBpsForOffer loadOptionalCheckedRedemptionOffer
  apply failsOnlyWith_bind
  . split
    . apply failsOnlyWith_pure
    . apply failsOnlyWith_bind (notSlippage_require _ (by decide))
      intros
      apply failsOnlyWith_bind (notSlippage_require _ (by decide))
      intros
      apply failsOnlyWith_bind (notSlippage_require _ (by decide))
      intros
      apply failsOnlyWith_pure
  intros
  split
  . apply failsOnlyWith_pure
  . split <;> apply failsOnlyWith_pure

theorem calculateRedemptionVaultRefillAmount_notSlippage (marketStats : Option MarketStats)
    (vaultTargetBps : Nat) (tokenInMint tokenOutMint : MintAccount) (balance amount : Nat)
    : NotSlippage (calculateRedemptionVaultRefillAmount marketStats vaultTargetBps tokenInMint
        tokenOutMint balance amount) := by
  unfold calculateRedemptionVaultRefillAmount calculateRedemptionVaultRefillAmount.targetLiquidity
  split
  . apply failsOnlyWith_pure
  . apply failsOnlyWith_bind
    . split
      . apply failsOnlyWith_pure
      . apply failsOnlyWith_bind (avoids_orPanic _)
        intros
        apply failsOnlyWith_bind (avoids_orPanic _)
        intros
        apply failsOnlyWith_pure
    intros
    apply failsOnlyWith_pure

theorem openSwapBuy.distributeTokenOut_notSlippage (l : Ledger) (state : State)
    (swap : OpenSwapArgs)
    (tokenOutMint : MintAccount) (n : Nat)
    : NotSlippage (distributeTokenOut l state swap tokenOutMint n) := by
  unfold distributeTokenOut
  split
  . apply mintTokens_notSlippage
  . apply failsOnlyWith_bind (notSlippage_tokenCall _)
    intros
    apply notSlippage_tokenCall

theorem storePostMint_notSlippage (accrual : Option BufferAccrualResult) (w : World) (amount : Nat)
    : NotSlippage (storePostMint accrual w amount .overflowError) := by
  unfold storePostMint
  split
  . apply failsOnlyWith_pure
  . apply failsOnlyWith_bind (notSlippage_okOr _ (by decide))
    intros
    apply storeBufferPostSupply_notSlippage

theorem openSwapBuy_notSlippage {swap : OpenSwapArgs}
    (hpriced : ∀ (offer : Offer) (tokenInMint tokenOutMint : MintAccount)
      (result : OfferProcessResult),
      w.offers (.offer swap.tokenInMint swap.tokenOutMint) = some offer →
      w.loadMint swap.tokenInMint = .ok tokenInMint →
      w.loadMint swap.tokenOutMint = .ok tokenOutMint →
      processOfferCore clock offer swap.tokenInAmount tokenInMint tokenOutMint
        offer.feeBasisPointsPermissionless = .ok result → swap.minimumOut ≤ result.tokenOutAmount)
    : NotSlippage (openSwapBuy clock w swap) := by
  unfold openSwapBuy
  dsimp only
  apply failsOnlyWith_bind (notSlippage_load _)
  intro offer hoffer
  apply failsOnlyWith_bind (notSlippage_load _)
  intro pair _
  apply failsOnlyWith_bind (notSlippage_require _ (by decide))
  intro _ _
  apply failsOnlyWith_bind (notSlippage_loadMint _ _)
  intro tokenInMint hin
  apply failsOnlyWith_bind (notSlippage_loadMint _ _)
  intro tokenOutMint hout
  apply failsOnlyWith_bind (validatePropAmmPairForSide_notSlippage _ _ _ _ _ _)
  intro _ _
  apply failsOnlyWith_bind (notSlippage_require _ (by decide))
  intro _ _
  apply failsOnlyWith_bind (notSlippage_require _ (by decide))
  intro _ _
  apply failsOnlyWith_bind (processOfferCore_notSlippage _ _ _ _ _)
  intro result hresult
  apply failsOnlyWith_bind (notSlippage_require _ (by decide))
  intro _ _
  apply failsOnlyWith_bind (notSlippage_require _ (by decide))
  intro _ _
  apply failsOnlyWith_bind
  . apply failsOnlyWith_require
    intro hless
    exact absurd (hpriced offer _ _ result (World.load_eq_ok.mp hoffer) hin hout hresult) hless
  intro _ _
  apply failsOnlyWith_bind
  . unfold loadMainOfferIf
    split
    . apply failsOnlyWith_bind (notSlippage_okOr _ (by decide))
      intros
      apply failsOnlyWith_pure
    . apply failsOnlyWith_pure
  intro mainOffer _
  apply failsOnlyWith_bind (accrueIf_notSlippage _ _ _ _)
  rintro ⟨accrual, w₁⟩ _
  dsimp only
  apply failsOnlyWith_bind (notSlippage_tokenCall _)
  intro l₁ _
  apply failsOnlyWith_bind (vaultTargetBps_notSlippage _ _ _ _)
  intro targetBps _
  apply failsOnlyWith_bind (calculateRedemptionVaultRefillAmount_notSlippage _ _ _ _ _ _)
  intro refillAmount _
  apply failsOnlyWith_bind (notSlippage_okOr _ (by decide))
  intro bossNetAmount _
  apply failsOnlyWith_bind
  . unfold openSwapBuy.takeTokenIn
    apply failsOnlyWith_bind (transferPositive_notSlippage _ _ _ _ _)
    intros
    apply failsOnlyWith_bind (transferPositive_notSlippage _ _ _ _ _)
    intros
    apply transferPositive_notSlippage
  intro l₂ _
  apply failsOnlyWith_bind (recordPropAmmBuy_notSlippage _ _ _)
  intro pair' _
  apply failsOnlyWith_bind (openSwapBuy.distributeTokenOut_notSlippage _ _ _ _ _)
  intro l₃ _
  apply failsOnlyWith_bind (storePostMint_notSlippage _ _ _)
  intro w₂ _
  apply refreshMarketStatsIf_notSlippage

end Failures

section Quote

theorem validatePropAmmPairForSide_buy {state : State} {pair : PropAmmPairState}
    {offerKey tokenInMint tokenOutMint : Pubkey}
    (h : validatePropAmmPairForSide state pair offerKey tokenInMint tokenOutMint .buy = .ok ())
    : offerKey = .offer tokenInMint tokenOutMint ∧ tokenInMint ≠ tokenOutMint := by
  simp only [validatePropAmmPairForSide, validateCanonicalOffer, bind_eq_ok, require_eq_ok,
    pure_eq_ok] at h
  rcases h with ⟨_, ⟨⟨side, assetMint⟩, hside, _, hkey, rfl⟩, _, hbuy, _⟩
  dsimp only at hbuy hkey
  subst hbuy
  simp only [resolveSwapSide, bind_eq_ok, require_eq_ok] at hside
  rcases hside with ⟨_, hne, hside⟩
  split at hside
  . next honyc =>
    cases hside
    rw [hkey, honyc.1]
    exact ⟨rfl, honyc.1 ▸ hne⟩
  . split at hside <;> cases hside

structure QuotedBuy (clock : Clock) (w : World) (args : QuoteSwapArgs) (quote : SwapQuote)
    (offer : Offer) (tokenInMint tokenOutMint : MintAccount) (result : OfferProcessResult)
    : Prop where
  offer_eq : w.offers (.offer args.tokenInMint args.tokenOutMint) = some offer
  loadIn : w.loadMint args.tokenInMint = .ok tokenInMint
  loadOut : w.loadMint args.tokenOutMint = .ok tokenOutMint
  mints_ne : args.tokenInMint ≠ args.tokenOutMint
  result_eq : processOfferCore clock offer args.tokenInAmount tokenInMint tokenOutMint
    offer.feeBasisPointsPermissionless = .ok result
  price_eq : quote.currentPrice = result.currentPrice
  fee_eq : quote.tokenInFeeAmount = result.tokenInFeeAmount
  tokenOutAmount_eq : quote.tokenOutAmount = result.tokenOutAmount
  minimumOut_eq : quote.minimumOut = quote.tokenOutAmount

theorem quoteSwapBuy_inv (h : quoteSwapBuy clock w args = .ok quote)
    : ∃ (offer : Offer) (tokenInMint tokenOutMint : MintAccount) (result : OfferProcessResult),
        QuotedBuy clock w args quote offer tokenInMint tokenOutMint result := by
  simp only [quoteSwapBuy, buildSwapBuyQuote, bind_eq_ok, pure_eq_ok, World.load_eq_ok] at h
  rcases h with ⟨pair, _, _, _, tokenInMint, hin, tokenOutMint, hout, offer, hoffer, h⟩
  rcases h with ⟨_, _, _, _, _, hside, result, hresult, rfl⟩
  rcases validatePropAmmPairForSide_buy hside with ⟨hkey, hne⟩
  rw [(World.loadMint_inv hin).1, (World.loadMint_inv hout).1] at hkey hne
  rw [hkey] at hoffer
  exact ⟨offer, tokenInMint, tokenOutMint, result, hoffer, hin, hout, hne, hresult, rfl, rfl, rfl,
    rfl⟩

theorem processOfferCore_of_price {offer offer' : Offer} {amount bps : Nat}
    {tokenInMint tokenOutMint tokenInMint' tokenOutMint' : MintAccount}
    {result result' : OfferProcessResult}
    (h : processOfferCore clock offer amount tokenInMint tokenOutMint bps = .ok result)
    (h' : processOfferCore clock' offer' amount tokenInMint' tokenOutMint' bps = .ok result')
    (hin : tokenInMint'.decimals = tokenInMint.decimals)
    (hout : tokenOutMint'.decimals = tokenOutMint.decimals)
    (hprice : result'.currentPrice = result.currentPrice) : result' = result := by
  rcases processOfferCore_inv h with ⟨_, _, hfees, hamount⟩
  rcases processOfferCore_inv h' with ⟨_, _, hfees', hamount'⟩
  rw [hfees, Except.ok.injEq, CalculateFeeResult.mk.injEq] at hfees'
  rcases hfees' with ⟨hfee, hnet⟩
  rw [hprice, hin, hout, ← hnet, ← hamount] at hamount'
  cases result
  cases result'
  simp_all

end Quote

end OnreApp
