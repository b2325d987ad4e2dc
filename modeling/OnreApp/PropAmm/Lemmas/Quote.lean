import OnreApp.MarketInfo.Lemmas.Valuation
import OnreApp.Program
import OnreApp.PropAmm.Impl.Quote
import OnreApp.PropAmm.Lemmas.Swap

namespace OnreApp

open Checked TokenLedger

variable {clock : Clock} {w w₁ w' : World} {mint : MintAccount} {offer : Offer}

abbrev NotSlippage {α : Type} (x : Result α) : Prop := Avoids .minimumOutNotMet x

section Failures

theorem notSlippage_okOr {α : Type} (o : Option α) {e : OnreError}
    (h : e ≠ .minimumOutNotMet) : NotSlippage (okOr o e) :=
  avoids_okOr o h

theorem notSlippage_require (c : Prop) [Decidable c] {e : OnreError}
    (h : e ≠ .minimumOutNotMet) : NotSlippage (require c e) :=
  avoids_require c h

theorem notSlippage_tokenCall (x : Except TokenLedger.Error Ledger) : NotSlippage (tokenCall x) := by
  intro e he
  rcases tokenCall_eq_error he with ⟨t, rfl, _⟩
  nofun

theorem calculateVectorPrice_notSlippage (apr basePrice elapsedTime : Nat)
    : NotSlippage (calculateVectorPrice apr basePrice elapsedTime) := by
  intro e he
  rw [calculateVectorPrice_overflowOnly apr basePrice elapsedTime e he]
  nofun

theorem calculateStepPriceAt_notSlippage (apr basePrice baseTime priceFixDuration time : Nat)
    : NotSlippage (calculateStepPriceAt apr basePrice baseTime priceFixDuration time) := by
  unfold calculateStepPriceAt
  apply failsOnlyWith_bind (notSlippage_require _ (by decide))
  intros
  apply failsOnlyWith_bind (avoids_orPanic _)
  intros
  apply failsOnlyWith_bind (notSlippage_okOr _ (by decide))
  intros
  apply failsOnlyWith_bind (notSlippage_okOr _ (by decide))
  intros
  apply calculateVectorPrice_notSlippage

theorem getActiveVectorAndCurrentPrice_notSlippage (offer : Offer) (time : Nat)
    : NotSlippage (getActiveVectorAndCurrentPrice offer time) := by
  unfold getActiveVectorAndCurrentPrice
  apply failsOnlyWith_bind (notSlippage_okOr _ (by decide))
  intros
  apply failsOnlyWith_bind (calculateStepPriceAt_notSlippage _ _ _ _ _)
  intros
  apply failsOnlyWith_pure

theorem refreshMarketStatsPda_notSlippage (w : World) (offer : Offer) (mint : MintAccount)
    : NotSlippage (refreshMarketStatsPda clock w offer mint) := by
  unfold refreshMarketStatsPda recomputeMarketStats
  apply failsOnlyWith_bind
  . apply failsOnlyWith_bind (notSlippage_require _ (by decide))
    intros
    apply failsOnlyWith_bind (notSlippage_require _ (by decide))
    intros
    apply failsOnlyWith_bind (getActiveVectorAndCurrentPrice_notSlippage _ _)
    rintro ⟨activeVector, nav⟩ _
    apply failsOnlyWith_bind (calculateApyFromApr_avoids _ (by decide) (by decide))
    intros
    apply failsOnlyWith_bind (calculateNavAdjustment_avoids _ _ (by decide))
    intros
    apply failsOnlyWith_bind (notSlippage_okOr _ (by decide))
    intros
    apply failsOnlyWith_bind (notSlippage_okOr _ (by decide))
    intros
    apply failsOnlyWith_pure
  . intros
    apply failsOnlyWith_pure

theorem refreshMarketStatsIf_notSlippage (needed : Bool) (w : World) (mainOffer : Option Offer)
    (mint : MintAccount) : NotSlippage (refreshMarketStatsIf needed clock w mainOffer mint) := by
  unfold refreshMarketStatsIf
  split
  . apply failsOnlyWith_bind (notSlippage_okOr _ (by decide))
    intros
    apply refreshMarketStatsPda_notSlippage
  . apply failsOnlyWith_pure

section Accrual

theorem validateMaxSupply_notSlippage (currentSupply amount maxSupply : Nat)
    : NotSlippage (validateMaxSupply currentSupply amount maxSupply) := by
  unfold validateMaxSupply
  split
  . apply failsOnlyWith_bind (notSlippage_okOr _ (by decide))
    intros
    exact notSlippage_require _ (by decide)
  . apply failsOnlyWith_pure

theorem mintTokens_notSlippage (l : Ledger) (mint : MintAccount) (destination : Pubkey)
    (amount maxSupply maxMintAmount : Nat)
    : NotSlippage (mintTokens l mint destination amount maxSupply maxMintAmount) := by
  unfold mintTokens
  apply failsOnlyWith_bind (notSlippage_require _ (by decide))
  intros
  apply failsOnlyWith_bind (validateMaxSupply_notSlippage _ _ _)
  intros
  apply failsOnlyWith_bind
  . apply failsOnlyWith_require
    nofun
  . intros
    apply notSlippage_tokenCall

theorem accrueBuffer.mintAll_notSlippage (l : Ledger) (state : State) (onycMint : MintAccount)
    (destinations : List (Pubkey × Nat))
    : NotSlippage (mintAll l state onycMint destinations) := by
  induction destinations generalizing l with
  | nil => apply failsOnlyWith_pure
  | cons head rest ih =>
    rcases head with ⟨destination, amount⟩
    unfold mintAll
    split
    . apply failsOnlyWith_bind (mintTokens_notSlippage _ _ _ _ _ _)
      intro l₁ _
      apply ih
    . apply ih

theorem accrueBuffer.mintSplit_notSlippage (l : Ledger) (state : State) (onycMint : MintAccount)
    (feeSplit : BufferAccrualBreakdown) : NotSlippage (mintSplit l state onycMint feeSplit) := by
  unfold mintSplit
  split
  . apply failsOnlyWith_bind (validateMaxSupply_notSlippage _ _ _)
    intros
    apply failsOnlyWith_bind (notSlippage_require _ (by decide))
    intros
    apply mintAll_notSlippage
  . apply failsOnlyWith_pure

theorem calculateGrossBufferAccrual_notSlippage (previousSupply grossYield currentYield elapsed : Nat)
    : NotSlippage (calculateGrossBufferAccrual previousSupply grossYield currentYield elapsed) := by
  unfold calculateGrossBufferAccrual calculateAccrualFromAprDelta
  split
  . apply failsOnlyWith_pure
  . iterate 3
      apply failsOnlyWith_bind (notSlippage_okOr _ (by decide))
      intros
    apply failsOnlyWith_bind (notSlippage_require _ (by decide))
    intros
    apply failsOnlyWith_pure

theorem calculateBufferFeeSplit_notSlippage (bufferMintAmount aprDelta managementFeeBasisPoints
    performanceFeeBasisPoints currentNav watermark : Nat) (enabled : Bool)
    : NotSlippage (calculateBufferFeeSplit bufferMintAmount aprDelta managementFeeBasisPoints
        performanceFeeBasisPoints currentNav watermark enabled) := by
  unfold calculateBufferFeeSplit
  apply failsOnlyWith_bind
  . unfold calculateBufferFeeSplit.managementFee
    split
    . apply failsOnlyWith_pure
    . iterate 3
        apply failsOnlyWith_bind (notSlippage_okOr _ (by decide))
        intros
      apply failsOnlyWith_bind (notSlippage_require _ (by decide))
      intros
      apply failsOnlyWith_pure
  intros
  apply failsOnlyWith_bind (notSlippage_okOr _ (by decide))
  intros
  apply failsOnlyWith_bind
  . unfold calculateBufferFeeSplit.performanceFee
    split
    . iterate 2
        apply failsOnlyWith_bind (notSlippage_okOr _ (by decide))
        intros
      apply failsOnlyWith_bind (notSlippage_require _ (by decide))
      intros
      apply failsOnlyWith_pure
    . apply failsOnlyWith_pure
  intros
  apply failsOnlyWith_bind (notSlippage_okOr _ (by decide))
  intros
  apply failsOnlyWith_pure

theorem accrueBuffer_notSlippage (state : State) (bufferState : BufferState) (offer : Offer)
    (onycMint : MintAccount) (l : Ledger) (now : Int)
    : NotSlippage (accrueBuffer state bufferState offer onycMint l now) := by
  unfold accrueBuffer
  apply failsOnlyWith_bind (notSlippage_require _ (by decide))
  intros
  apply failsOnlyWith_bind (getActiveVectorAndCurrentPrice_notSlippage _ _)
  rintro ⟨activeVector, currentNav⟩ _
  apply failsOnlyWith_bind (avoids_orPanic _)
  intros
  dsimp only
  split
  . apply failsOnlyWith_pure
  . apply failsOnlyWith_bind (calculateGrossBufferAccrual_notSlippage _ _ _ _)
    intros
    apply failsOnlyWith_bind (calculateBufferFeeSplit_notSlippage _ _ _ _ _ _ _)
    intros
    apply failsOnlyWith_bind (accrueBuffer.mintSplit_notSlippage _ _ _ _)
    intros
    apply failsOnlyWith_bind (notSlippage_okOr _ (by decide))
    intros
    apply failsOnlyWith_bind (notSlippage_okOr _ (by decide))
    intros
    apply failsOnlyWith_pure

theorem accrueIf_notSlippage (shouldAccrue : Bool) (w : World) (mainOffer : Option Offer)
    (mint : MintAccount) : NotSlippage (accrueIf shouldAccrue clock w mainOffer mint) := by
  unfold accrueIf
  split
  . apply failsOnlyWith_bind (notSlippage_okOr _ (by decide))
    intro canonicalOffer _
    apply failsOnlyWith_bind
    . unfold accrueBufferFromAccounts
      apply failsOnlyWith_bind (notSlippage_okOr _ (by decide))
      intros
      apply failsOnlyWith_bind (notSlippage_require _ (by decide))
      intros
      apply failsOnlyWith_bind (accrueBuffer_notSlippage _ _ _ _ _ _)
      intros
      apply failsOnlyWith_pure
    . intros
      apply failsOnlyWith_pure
  . apply failsOnlyWith_pure

theorem storeBufferPostSupply_notSlippage (w : World) (supply : Nat) (now : Int)
    : NotSlippage (storeBufferPostSupply w supply now) := by
  unfold storeBufferPostSupply
  apply failsOnlyWith_bind (notSlippage_okOr _ (by decide))
  intros
  apply failsOnlyWith_pure

theorem storePostBurn_notSlippage (accrual : Option BufferAccrualResult) (w : World) (amount : Nat)
    : NotSlippage (storePostBurn accrual w amount) := by
  unfold storePostBurn
  split
  . apply failsOnlyWith_pure
  . apply failsOnlyWith_bind (notSlippage_okOr _ (by decide))
    intros
    apply storeBufferPostSupply_notSlippage

end Accrual

theorem rollPropAmmVolumeTracker_notSlippage (pair : PropAmmPairState) (now : Int)
    : NotSlippage (rollPropAmmVolumeTracker pair now) := by
  unfold rollPropAmmVolumeTracker
  apply failsOnlyWith_bind (notSlippage_require _ (by decide))
  intros
  split
  . apply failsOnlyWith_pure
  . apply failsOnlyWith_bind (notSlippage_okOr _ (by decide))
    intros
    split
    . apply failsOnlyWith_pure
    . split <;> apply failsOnlyWith_pure

theorem recordPropAmmSell_notSlippage (pair : PropAmmPairState) (value : Nat) (now : Int)
    : NotSlippage (recordPropAmmSell pair value now) := by
  unfold recordPropAmmSell
  apply failsOnlyWith_bind (rollPropAmmVolumeTracker_notSlippage _ _)
  intros
  apply failsOnlyWith_bind (notSlippage_okOr _ (by decide))
  intros
  apply failsOnlyWith_bind (notSlippage_okOr _ (by decide))
  intros
  apply failsOnlyWith_pure

theorem transferPositive_notSlippage (l : Ledger) (mint : MintAccount) (source destination : Pubkey)
    (n : Nat) : NotSlippage (transferPositive l mint source destination n) := by
  unfold transferPositive
  split
  . apply notSlippage_tokenCall
  . apply failsOnlyWith_pure

theorem executeRedemptionOperations_notSlippage (l : Ledger) (params : ExecuteRedemptionOpsParams)
    : NotSlippage (executeRedemptionOperations l params) := by
  unfold executeRedemptionOperations
  apply failsOnlyWith_bind (notSlippage_require _ (by decide))
  intros
  apply failsOnlyWith_bind (notSlippage_require _ (by decide))
  intros
  apply failsOnlyWith_bind
  . unfold executeRedemptionOperations.takeTokenIn
    split <;> apply notSlippage_tokenCall
  intros
  apply failsOnlyWith_bind (transferPositive_notSlippage _ _ _ _ _)
  intros
  apply notSlippage_tokenCall

end Failures

section Quote

variable {args : QuoteSwapArgs} {quote : SwapQuote}

structure Quoted (clock : Clock) (w : World) (args : QuoteSwapArgs) (quote : SwapQuote)
    (offer : Offer) (pair : PropAmmPairState) (tokenInMint tokenOutMint : MintAccount)
    (config : RedemptionOfferConfig) (hardWallReserve : Nat) (result : RedemptionProcessResult)
    : Prop where
  offer_eq : w.offers (.offer args.tokenOutMint args.tokenInMint) = some offer
  pair_eq : w.propAmmPairStates (.propAmmPairState (.offer args.tokenOutMint args.tokenInMint))
    = some pair
  loadIn : w.loadMint args.tokenInMint = .ok tokenInMint
  loadOut : w.loadMint args.tokenOutMint = .ok tokenOutMint
  enabled : offer.requireEnabled = .ok ()
  side : validatePropAmmPairForSide w.state pair (.offer args.tokenOutMint args.tokenInMint)
    tokenInMint.key tokenOutMint.key .sell = .ok ()
  config_eq : redemptionOfferConfig w (.offer args.tokenOutMint args.tokenInMint) args.tokenInMint
    args.tokenOutMint = .ok config
  reserve_eq : resolveHardWallReserve w.marketStats
    (w.ledger.balance .redemptionVaultAuthority args.tokenOutMint) config.vaultTargetBps
    tokenOutMint.decimals tokenInMint.decimals = .ok hardWallReserve
  result_eq : processRedemptionCore clock offer args.tokenInAmount tokenInMint tokenOutMint
    config.feeBasisPointsPropAmmSell pair.minimumSellHaircutOnyc = .ok result
  tokenOutAmount_eq : applyHardWallLiquidityFactor clock result.tokenOutAmount
    (w.ledger.balance .redemptionVaultAuthority args.tokenOutMint) hardWallReserve pair
    = .ok quote.tokenOutAmount
  minimumOut_eq : quote.minimumOut = quote.tokenOutAmount
  fee_eq : quote.tokenInFeeAmount = result.tokenInFeeAmount

theorem validatePropAmmPairForSide_sell_offer {state : State} {pair : PropAmmPairState}
    {offerKey tokenInMint tokenOutMint : Pubkey}
    (h : validatePropAmmPairForSide state pair offerKey tokenInMint tokenOutMint .sell = .ok ())
    : offerKey = .offer tokenOutMint tokenInMint := by
  have honyc := (validatePropAmmPairForSide_sell h).1
  simp only [validatePropAmmPairForSide, validateCanonicalOffer, bind_eq_ok, require_eq_ok,
    pure_eq_ok] at h
  rcases h with ⟨_, ⟨⟨side, assetMint⟩, hside, _, hkey, rfl⟩, _, hsell, _⟩
  dsimp only at hsell hkey
  subst hsell
  simp only [resolveSwapSide, bind_eq_ok, require_eq_ok] at hside
  rcases hside with ⟨_, _, hside⟩
  split at hside
  . cases hside
  . split at hside
    . cases hside
      rw [hkey, honyc]
    . cases hside

theorem quoteSwapSell_inv (h : quoteSwapSell clock w args = .ok quote)
    : ∃ (offer : Offer) (pair : PropAmmPairState) (tokenInMint tokenOutMint : MintAccount)
        (config : RedemptionOfferConfig) (hardWallReserve : Nat) (result : RedemptionProcessResult),
        Quoted clock w args quote offer pair tokenInMint tokenOutMint config hardWallReserve
          result := by
  simp only [quoteSwapSell, buildSwapSellQuote, sellQuoteLiquidityContext, bind_eq_ok, pure_eq_ok,
    World.load_eq_ok] at h
  rcases h with ⟨pair, hpair, _, _, tokenInMint, hin, tokenOutMint, hout, offer, hoffer, h⟩
  rcases h with ⟨_, _, _, ⟨config, hconfig, reserve, hreserve, rfl⟩, _, henabled, _, hside, h⟩
  rcases h with ⟨result, hresult, tokenOutAmount, hpriced, rfl⟩
  dsimp only at hresult hpriced
  have hkeyIn := (World.loadMint_inv hin).1
  have hkeyOut := (World.loadMint_inv hout).1
  have hkey := validatePropAmmPairForSide_sell_offer hside
  rw [hkeyIn, hkeyOut] at hkey
  rw [hkeyIn, hkeyOut, hkey] at hconfig
  rw [hkeyOut] at hreserve hpriced
  rw [hkey] at hoffer hpair hside
  exact ⟨offer, pair, tokenInMint, tokenOutMint, config, reserve, result, hoffer, hpair, hin, hout,
    henabled, hside, hconfig, hreserve, hresult, hpriced, rfl, rfl⟩

theorem redemptionOfferConfig_noTarget {offerKey tokenInMint tokenOutMint : Pubkey}
    {config : RedemptionOfferConfig}
    (h : redemptionOfferConfig w offerKey tokenInMint tokenOutMint = .ok config)
    (hnone : ∀ (redemptionOffer : RedemptionOffer),
      w.redemptionOffers (.redemptionOffer tokenInMint tokenOutMint) = some redemptionOffer →
      redemptionOffer.vaultTargetBps = 0) : config.vaultTargetBps = 0 := by
  unfold redemptionOfferConfig loadOptionalCheckedRedemptionOffer at h
  split at h
  . cases h
    rfl
  . next redemptionOffer hsome =>
    simp only [bind_eq_ok, pure_eq_ok] at h
    rcases h with ⟨_, ⟨_, _, _, _, _, _, rfl⟩, h⟩
    simp only [RedemptionOffer.requireEnabled, bind_eq_ok, pure_eq_ok] at h
    rcases h with ⟨_, _, rfl⟩
    exact hnone redemptionOffer hsome

theorem resolveHardWallReserve_congr {stats stats' : Option MarketStats}
    {actualLiquidity bps tokenOutDecimals onycDecimals : Nat}
    (h : bps = 0 ∨ stats.map MarketStats.tvl = stats'.map MarketStats.tvl)
    : resolveHardWallReserve stats actualLiquidity bps tokenOutDecimals onycDecimals
        =
      resolveHardWallReserve stats' actualLiquidity bps tokenOutDecimals onycDecimals := by
  unfold resolveHardWallReserve
  split
  . rfl
  . next hbps =>
    rcases h with hzero | htvl
    . exact absurd hzero hbps
    . cases stats <;> cases stats' <;> simp_all [okOr, Checked.okOr]

/-- The stored market stats are as good as refreshed ones for a sell of `tokenInMint`. -/
def World.StatsServeSell (clock : Clock) (w : World) (tokenInMint tokenOutMint : Pubkey) : Prop :=
  (∀ (redemptionOffer : RedemptionOffer),
    w.redemptionOffers (.redemptionOffer tokenInMint tokenOutMint) = some redemptionOffer →
    redemptionOffer.vaultTargetBps = 0) ∨
  ∃ (stats : MarketStats) (snapshot : MarketStatsSnapshot), w.marketStats = some stats ∧
    currentMarketStats clock w = .ok snapshot ∧ stats.tvl = snapshot.tvl

namespace Quoted

variable {pair : PropAmmPairState} {tokenInMint tokenOutMint : MintAccount}
  {config : RedemptionOfferConfig} {hardWallReserve : Nat} {result : RedemptionProcessResult}
  (h : Quoted clock w args quote offer pair tokenInMint tokenOutMint config hardWallReserve result)
  (hstats : w.StatsServeSell clock args.tokenInMint args.tokenOutMint)

include h hstats

theorem reserve_of_snapshot {snapshot : MarketStatsSnapshot}
    (hsnapshot : currentMarketStats clock w = .ok snapshot)
    : resolveHardWallReserve (some (applyMarketStatsSnapshot snapshot clock))
        (w.ledger.balance .redemptionVaultAuthority args.tokenOutMint) config.vaultTargetBps
        tokenOutMint.decimals tokenInMint.decimals = .ok hardWallReserve := by
  rw [← h.reserve_eq]
  apply resolveHardWallReserve_congr
  rcases hstats with hnone | ⟨stats, snapshot', hstored, hcurrent, htvl⟩
  . exact .inl (redemptionOfferConfig_noTarget h.config_eq hnone)
  . right
    rw [hsnapshot, Except.ok.injEq] at hcurrent
    rw [hstored, hcurrent]
    simp [applyMarketStatsSnapshot, htvl]

theorem context_of_refresh {w₀ : World} {mainOffer : Offer}
    (hmain : w.offers w.state.mainOffer = some mainOffer)
    (hrefresh : refreshMarketStatsPda clock w mainOffer tokenInMint = .ok w₀)
    : sellQuoteLiquidityContext w₀ (.offer args.tokenOutMint args.tokenInMint) tokenInMint
        tokenOutMint (w₀.ledger.balance .redemptionVaultAuthority tokenOutMint.key) = .ok {
          feeBasisPointsPropAmmSell := config.feeBasisPointsPropAmmSell
          actualLiquidity := w.ledger.balance .redemptionVaultAuthority args.tokenOutMint
          hardWallReserve
        } := by
  have honyc := (validatePropAmmPairForSide_sell h.side).1
  rw [(World.loadMint_inv h.loadIn).1] at honyc
  rcases refreshMarketStatsPda_snapshot hmain (honyc ▸ h.loadIn) hrefresh with
    ⟨snapshot, hsnapshot, rfl⟩
  have hconfig := h.config_eq
  have hreserve := h.reserve_of_snapshot hstats hsnapshot
  rw [← (World.loadMint_inv h.loadOut).1] at hconfig hreserve ⊢
  rw [← (World.loadMint_inv h.loadIn).1] at hconfig ⊢
  simp only [sellQuoteLiquidityContext, bind_eq_ok, pure_eq_ok]
  exact ⟨config, hconfig, hardWallReserve, hreserve, rfl⟩

theorem openSwapSell_notSlippage (user : Signer)
    : NotSlippage (openSwapSell clock w {
        user
        tokenInMint := args.tokenInMint
        tokenOutMint := args.tokenOutMint
        tokenInAmount := args.tokenInAmount
        minimumOut := quote.minimumOut
      }) := by
  have hoffer : World.load (w.offers (.offer args.tokenOutMint args.tokenInMint)) = .ok offer :=
    World.load_eq_ok.mpr h.offer_eq
  have hpair : World.load (w.propAmmPairStates (.propAmmPairState
      (.offer args.tokenOutMint args.tokenInMint))) = .ok pair :=
    World.load_eq_ok.mpr h.pair_eq
  unfold openSwapSell
  dsimp only
  rw [hoffer, ok_bind, hpair, ok_bind]
  apply failsOnlyWith_bind (notSlippage_require _ (by decide))
  intro _ _
  rw [h.loadIn, ok_bind, h.loadOut, ok_bind, h.side, ok_bind, h.enabled, ok_bind]
  apply failsOnlyWith_bind (notSlippage_okOr _ (by decide))
  intro mainOffer hmain
  apply failsOnlyWith_bind (refreshMarketStatsPda_notSlippage _ _ _)
  intro w₀ hrefresh
  rw [h.context_of_refresh hstats (okOr_eq_ok.mp hmain) hrefresh, ok_bind]
  apply failsOnlyWith_bind (accrueIf_notSlippage _ _ _ _)
  rintro ⟨accrual, w₁⟩ _
  dsimp only
  -- the price is the quoted one, so the minimum is met
  rw [processRedemptionCore_reload, h.result_eq, ok_bind, h.tokenOutAmount_eq, ok_bind]
  apply failsOnlyWith_bind
  . apply failsOnlyWith_require
    intro hless
    exact absurd (Nat.le_of_eq h.minimumOut_eq) hless
  intro _ _
  apply failsOnlyWith_bind (recordPropAmmSell_notSlippage _ _ _)
  intro pair' _
  apply failsOnlyWith_bind (notSlippage_tokenCall _)
  intro l₁ _
  apply failsOnlyWith_bind (executeRedemptionOperations_notSlippage _ _)
  intro l₂ _
  apply failsOnlyWith_bind (storePostBurn_notSlippage _ _ _)
  intro w₂ _
  apply refreshMarketStatsIf_notSlippage

theorem openSwapSell_pays {user : Signer} {minimumOut : Nat}
    (hsell : openSwapSell clock w {
      user
      tokenInMint := args.tokenInMint
      tokenOutMint := args.tokenOutMint
      tokenInAmount := args.tokenInAmount
      minimumOut
    } = .ok w')
    : w'.ledger.balance user.key args.tokenOutMint
        = w.ledger.balance user.key args.tokenOutMint + quote.tokenOutAmount ∧
      w'.ledger.balance (.configurableVault .propAmmSellFee) args.tokenInMint
        = w.ledger.balance (.configurableVault .propAmmSellFee) args.tokenInMint
          + quote.tokenInFeeAmount ∧
      w'.ledger.balance user.key args.tokenInMint + args.tokenInAmount
        = w.ledger.balance user.key args.tokenInMint := by
  rcases openSwapSell_inv hsell with
    ⟨offer', pair', tokenIn', tokenOut', config', result', tokenOutAmount, _, _, _, hsale⟩
  have hoffer : offer' = offer := Option.some.inj (hsale.tradesAt.load.symm.trans h.offer_eq)
  have hpair : pair' = pair := Option.some.inj (hsale.pair_eq.symm.trans h.pair_eq)
  have hin : tokenIn' = tokenInMint := Except.ok.inj (hsale.loadIn.symm.trans h.loadIn)
  have hout : tokenOut' = tokenOutMint := Except.ok.inj (hsale.loadOut.symm.trans h.loadOut)
  have hconfig : config' = config := Except.ok.inj (hsale.config_eq.symm.trans h.config_eq)
  subst hoffer hpair hin hout hconfig
  have hresult : result' = result := Except.ok.inj (hsale.result_eq.symm.trans h.result_eq)
  subst hresult
  rcases hsale.priced with ⟨snapshot, reserve, hsnapshot, hreserve, hpriced⟩
  have hsame : reserve = hardWallReserve :=
    Except.ok.inj (hreserve.symm.trans (h.reserve_of_snapshot hstats hsnapshot))
  subst hsame
  have hamount : tokenOutAmount = quote.tokenOutAmount :=
    Except.ok.inj (hpriced.symm.trans h.tokenOutAmount_eq)
  rw [h.fee_eq, ← hamount]
  exact ⟨hsale.balance_user_out, hsale.balance_fee, hsale.balance_user_in⟩

end Quoted

theorem openSwapSell_honours_quote (hquote : quoteSwapSell clock w args = .ok quote)
    (hstats : w.StatsServeSell clock args.tokenInMint args.tokenOutMint) (user : Signer)
    : let sell : OpenSwapArgs := {
        user
        tokenInMint := args.tokenInMint
        tokenOutMint := args.tokenOutMint
        tokenInAmount := args.tokenInAmount
        minimumOut := quote.minimumOut
      }
      openSwapSell clock w sell ≠ .error (.onre .minimumOutNotMet) ∧
      ∀ (w' : World), openSwapSell clock w sell = .ok w' →
        w'.ledger.balance user.key args.tokenOutMint
          = w.ledger.balance user.key args.tokenOutMint + quote.tokenOutAmount ∧
        w'.ledger.balance (.configurableVault .propAmmSellFee) args.tokenInMint
          = w.ledger.balance (.configurableVault .propAmmSellFee) args.tokenInMint
            + quote.tokenInFeeAmount ∧
        w'.ledger.balance user.key args.tokenInMint + args.tokenInAmount
          = w.ledger.balance user.key args.tokenInMint := by
  rcases quoteSwapSell_inv hquote with ⟨_, _, _, _, _, _, _, hquoted⟩
  constructor
  . intro herror
    exact hquoted.openSwapSell_notSlippage hstats user _ herror rfl
  . intro w' hsell
    exact hquoted.openSwapSell_pays hstats hsell

theorem openSwapSell_honours_quote_with_accrual
    : ∃ (w w' : World) (quote : SwapQuote),
        quoteSwapSell ⟨200000, 0⟩ w ⟨Sample.offer, Sample.onyc, Sample.usdc, 20000000000⟩
          = .ok quote ∧
        quote.tokenOutAmount = 14986850 ∧ quote.tokenInFeeAmount = 5000000000 ∧
        openSwapSell ⟨200000, 0⟩ w
          ⟨Sample.user, Sample.onyc, Sample.usdc, 20000000000, quote.minimumOut⟩ = .ok w' ∧
        w.ledger.balance .reserveVaultAuthority Sample.onyc = 0 ∧
        w'.ledger.balance .reserveVaultAuthority Sample.onyc = 8511743 ∧
        w'.ledger.balance Sample.user.key Sample.usdc
          = w.ledger.balance Sample.user.key Sample.usdc + quote.tokenOutAmount ∧
        w'.ledger.balance (.configurableVault .propAmmSellFee) Sample.onyc
          = w.ledger.balance (.configurableVault .propAmmSellFee) Sample.onyc
            + quote.tokenInFeeAmount := by
  have hview : (runCalls Sample.world (Sample.launch ++ Sample.swaps)).toOption.bind (fun w =>
      (quoteSwapSell ⟨200000, 0⟩ w
        ⟨Sample.offer, Sample.onyc, Sample.usdc, 20000000000⟩).toOption.bind fun quote =>
          (openSwapSell ⟨200000, 0⟩ w ⟨Sample.user, Sample.onyc, Sample.usdc, 20000000000,
            quote.minimumOut⟩).toOption.bind fun w' =>
              some (quote.tokenOutAmount, quote.tokenInFeeAmount,
                w.redemptionOffers Sample.redemptionOffer,
                w.ledger.balance .reserveVaultAuthority Sample.onyc,
                w'.ledger.balance .reserveVaultAuthority Sample.onyc)) =
      some (14986850, 5000000000, none, 0, 8511743) := by decide +kernel
  rcases exists_ok_of_view hview with ⟨w, _, hview⟩
  rcases exists_ok_of_view hview with ⟨quote, hquote, hview⟩
  rcases exists_ok_of_view hview with ⟨w', hsell, hfacts⟩
  simp only [Option.some.injEq, Prod.mk.injEq] at hfacts
  rcases hfacts with ⟨hout, hfee, hoffer, hbefore, hafter⟩
  have hstats : w.StatsServeSell ⟨200000, 0⟩ Sample.onyc Sample.usdc := by
    left
    intro redemptionOffer hsome
    rw [show Pubkey.redemptionOffer Sample.onyc Sample.usdc = Sample.redemptionOffer from rfl,
      hoffer] at hsome
    cases hsome
  rcases (openSwapSell_honours_quote hquote hstats Sample.user).2 w' hsell with ⟨hpaid, hcharged, _⟩
  exact ⟨w, w', quote, hquote, hout, hfee, hsell, hbefore, hafter, hpaid, hcharged⟩

end Quote

end OnreApp
