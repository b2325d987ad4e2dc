import OnreApp.Offer.Impl.TakeOffer
import OnreApp.PropAmm.Impl.Pricing
import OnreApp.Redemption.Impl.RedemptionUtils

namespace OnreApp

open Checked

section Validation

inductive SwapSide where
  | buy
  | sell
  deriving DecidableEq, Repr

def resolveSwapSide (state : State) (tokenInMint tokenOutMint : Pubkey)
    : Result (SwapSide × Pubkey) := do
  require (tokenInMint ≠ tokenOutMint) .invalidSwapPair
  if tokenOutMint = state.onycMint ∧ tokenInMint ≠ state.onycMint then
    return (.buy, tokenInMint)
  else if tokenInMint = state.onycMint ∧ tokenOutMint ≠ state.onycMint then
    return (.sell, tokenOutMint)
  else
    throw (.onre .invalidSwapPair)

def validateCanonicalOffer (state : State) (offerKey tokenInMint tokenOutMint : Pubkey)
    : Result SwapSide := do
  let (side, assetMint) ← resolveSwapSide state tokenInMint tokenOutMint
  require (offerKey = .offer assetMint state.onycMint) .offerMismatch
  return side

def validatePropAmmPairState (state : State) (pair : PropAmmPairState)
    (offerKey tokenInMint tokenOutMint : Pubkey) : Result SwapSide := do
  let (side, assetMint) ← resolveSwapSide state tokenInMint tokenOutMint
  require (pair.offer = offerKey) .invalidPropAmmPairState
  require (pair.assetMint = assetMint) .invalidPropAmmPairState
  require (pair.onycMint = state.onycMint) .invalidPropAmmPairState
  require (pair.enabled = true) .propAmmPairDisabled
  return side

def validatePropAmmPairForSide (state : State) (pair : PropAmmPairState)
    (offerKey tokenInMint tokenOutMint : Pubkey) (expectedSide : SwapSide) : Result Unit := do
  let side ← validateCanonicalOffer state offerKey tokenInMint tokenOutMint
  require (side = expectedSide) .invalidSwapPair
  let pairSide ← validatePropAmmPairState state pair offerKey tokenInMint tokenOutMint
  require (pairSide = expectedSide) .invalidSwapPair

end Validation

section Liquidity

structure RedemptionOfferConfig where
  feeBasisPointsPropAmmSell : Nat
  vaultTargetBps : Nat
  deriving DecidableEq, Repr

def redemptionOfferConfig (w : World) (offerKey tokenInMint tokenOutMint : Pubkey)
    : Result RedemptionOfferConfig := do
  let redemptionOffer ← loadOptionalCheckedRedemptionOffer
    (w.redemptionOffers (.redemptionOffer tokenInMint tokenOutMint)) offerKey tokenInMint
    tokenOutMint
  match redemptionOffer with
  | none => return { feeBasisPointsPropAmmSell := 0, vaultTargetBps := 0 }
  | some redemptionOffer =>
    redemptionOffer.requireEnabled
    return {
      feeBasisPointsPropAmmSell := redemptionOffer.feeBasisPointsPropAmmSell
      vaultTargetBps := redemptionOffer.vaultTargetBps
    }

def hardWallReserveFromTvl (tvl vaultTargetBps tokenOutDecimals onycDecimals : Nat)
    : Result Nat := do
  let weighted ← okOr (checkedMul u128Max tvl vaultTargetBps) .mathOverflow
  let targetInOnycDecimals ← okOr (checkedDiv weighted maxBasisPoints) .divByZero
  let tokenOutScale ← okOr (checkedPow u128Max 10 tokenOutDecimals) .mathOverflow
  let onycScale ← okOr (checkedPow u128Max 10 onycDecimals) .mathOverflow
  let scaled ← okOr (checkedMul u128Max targetInOnycDecimals tokenOutScale) .mathOverflow
  let target ← okOr (checkedDiv scaled onycScale) .divByZero
  require (0 < target) .insufficientBalance
  require (target ≤ u64Max) .mathOverflow
  return target

def resolveHardWallReserve (marketStats : Option MarketStats)
    (actualLiquidity vaultTargetBps tokenOutDecimals onycDecimals : Nat) : Result Nat :=
  if vaultTargetBps = 0 then
    return actualLiquidity
  else do
    let marketStats ← okOr marketStats .invalidMarketStatsOwner
    let targetReserve ←
      hardWallReserveFromTvl marketStats.tvl vaultTargetBps tokenOutDecimals onycDecimals
    return min actualLiquidity targetReserve

structure SellQuoteLiquidityContext where
  feeBasisPointsPropAmmSell : Nat
  actualLiquidity : Nat
  hardWallReserve : Nat
  deriving DecidableEq, Repr

def sellQuoteLiquidityContext (w : World) (offerKey : Pubkey)
    (tokenInMint tokenOutMint : MintAccount) (actualLiquidity : Nat)
    : Result SellQuoteLiquidityContext := do
  let config ← redemptionOfferConfig w offerKey tokenInMint.key tokenOutMint.key
  let hardWallReserve ← resolveHardWallReserve w.marketStats actualLiquidity config.vaultTargetBps
    tokenOutMint.decimals tokenInMint.decimals
  return {
    feeBasisPointsPropAmmSell := config.feeBasisPointsPropAmmSell
    actualLiquidity
    hardWallReserve
  }

end Liquidity

def applyHardWallLiquidityFactor (clock : Clock)
    (tokenOutAmount actualLiquidity hardWallReserve : Nat) (pair : PropAmmPairState)
    : Result Nat :=
  applyHardWallLiquidityFactorAtTime tokenOutAmount actualLiquidity hardWallReserve pair
    clock.unixTimestamp

def configurePropAmm (clock : Clock) (w : World) (boss : Signer) (assetMint : Pubkey)
    (config : PropAmmConfig) : Result World := do
  require (boss.key = w.state.boss) .invalidBoss
  let offerKey := Pubkey.offer assetMint w.state.onycMint
  let offer ← World.load (w.offers offerKey)
  let assetMint ← w.loadMint assetMint
  config.validate
  offer.requireMints assetMint.key w.state.onycMint
  -- a new account has no volumes and no epoch yet
  let pair := (w.propAmmPairStates (.propAmmPairState offerKey)).getD .default
  return w.setPropAmmPairState (.propAmmPairState offerKey) { pair with
    offer := offerKey
    assetMint := assetMint.key
    onycMint := w.state.onycMint
    enabled := config.enabled
    curvePegHaircutBps := config.curvePegHaircutBps
    curveExponentScaled := config.curveExponentScaled
    cadenceThreshold := config.cadenceThreshold
    cadenceWaveScaled := config.cadenceWaveScaled
    epochDurationSeconds := config.epochDurationSeconds
    wallSensitivityScaled := config.wallSensitivityScaled
    minimumSellHaircutOnyc := config.minimumSellHaircutOnyc
    epochStart := if pair.epochStart = 0 then clock.unixTimestamp else pair.epochStart
    epochDurationSeconds_le := config.epochDurationSeconds_le
  }

structure OpenSwapArgs where
  user : Signer
  tokenInMint : Pubkey
  tokenOutMint : Pubkey
  tokenInAmount : Nat
  minimumOut : Nat
  deriving DecidableEq, Repr

namespace openSwapBuy

def takeTokenIn (ledger : Ledger) (tokenInMint : MintAccount) (result : OfferProcessResult)
    (refillAmount bossNetAmount : Nat) : Result Ledger := do
  let ledger ← transferPositive ledger tokenInMint .permissionlessAuthority
    .redemptionVaultAuthority refillAmount
  let ledger ← transferPositive ledger tokenInMint .permissionlessAuthority
    (.configurableVault .propAmmProceeds) bossNetAmount
  transferPositive ledger tokenInMint .permissionlessAuthority
    (.configurableVault .propAmmBuyFee) result.tokenInFeeAmount

def distributeTokenOut (ledger : Ledger) (state : State) (args : OpenSwapArgs)
    (tokenOutMint : MintAccount) (tokenOutAmount : Nat) : Result Ledger :=
  if programControlsMint tokenOutMint then
    mintTokens ledger tokenOutMint args.user.key tokenOutAmount state.maxSupply
      state.maxMintAmount
  else do
    let ledger ← transferTokens ledger tokenOutMint .offerVaultAuthority .permissionlessAuthority
      tokenOutAmount
    transferTokens ledger tokenOutMint .permissionlessAuthority args.user.key tokenOutAmount

end openSwapBuy

def openSwapBuy (clock : Clock) (w : World) (args : OpenSwapArgs) : Result World := do
  let offerKey := Pubkey.offer args.tokenInMint args.tokenOutMint
  let offer ← World.load (w.offers offerKey)
  let pair ← World.load (w.propAmmPairStates (.propAmmPairState offerKey))
  w.requireNotKilled
  let tokenInMint ← w.loadMint args.tokenInMint
  let tokenOutMint ← w.loadMint args.tokenOutMint
  validatePropAmmPairForSide w.state pair offerKey tokenInMint.key tokenOutMint.key .buy
  offer.requireEnabled
  require (offer.allowPermissionless = true) .permissionlessNotAllowed
  let result ← processOfferCore clock offer args.tokenInAmount tokenInMint tokenOutMint
    offer.feeBasisPointsPermissionless
  require (hasTransferFee tokenInMint = false) .transferFeeNotSupported
  require (hasTransferFee tokenOutMint = false) .transferFeeNotSupported
  require (args.minimumOut ≤ result.tokenOutAmount) .minimumOutNotMet
  let redemptionVaultBalance := w.ledger.balance .redemptionVaultAuthority tokenInMint.key
  let isOnyc := isOnycTokenOutMint w.state tokenOutMint
  let shouldAccrue := shouldAccrueOnycMint w.state tokenOutMint w.bufferState.isSome
  let mainOffer ← loadMainOfferIf isOnyc w
  let (accrual, w) ← accrueIf shouldAccrue clock w mainOffer tokenOutMint
  let tokenOutMint := reloadAfterAccrual accrual tokenOutMint w.ledger
  let ledger ← transferTokens w.ledger tokenInMint args.user.key .permissionlessAuthority
    args.tokenInAmount
  let targetBps ←
    loadRedemptionOfferVaultTargetBpsForOffer w offerKey tokenInMint.key tokenOutMint.key
  let refillAmount ← calculateRedemptionVaultRefillAmount w.marketStats (targetBps.getD 0)
    tokenInMint tokenOutMint redemptionVaultBalance result.tokenInNetAmount
  let bossNetAmount ← okOr (checkedSub result.tokenInNetAmount refillAmount) .arithmeticUnderflow
  let ledger ← openSwapBuy.takeTokenIn ledger tokenInMint result refillAmount bossNetAmount
  let pair ← recordPropAmmBuy pair result.tokenInNetAmount clock.unixTimestamp
  let ledger ← openSwapBuy.distributeTokenOut ledger w.state args tokenOutMint
    result.tokenOutAmount
  let w ← storePostMint accrual
    ({ w with ledger }.setPropAmmPairState (.propAmmPairState offerKey) pair)
    result.tokenOutAmount .overflowError
  refreshMarketStatsIf isOnyc clock w mainOffer tokenOutMint

def openSwapSell.opsParams (args : OpenSwapArgs) (tokenInMint tokenOutMint : MintAccount)
    (result : RedemptionProcessResult) (tokenOutAmount : Nat) : ExecuteRedemptionOpsParams where
  tokenInMint := tokenInMint
  tokenInNetAmount := result.tokenInNetAmount
  tokenInFeeAmount := result.tokenInFeeAmount
  vaultTokenInAccount := .redemptionVaultAuthority
  tokenInDestinationAccount := .configurableVault .propAmmProceeds
  feeDestinationTokenInAccount := .configurableVault .propAmmSellFee
  tokenOutMint := tokenOutMint
  tokenOutAmount := tokenOutAmount
  vaultTokenOutAccount := .redemptionVaultAuthority
  userTokenOutAccount := args.user.key

def openSwapSell (clock : Clock) (w : World) (args : OpenSwapArgs) : Result World := do
  let offerKey := Pubkey.offer args.tokenOutMint args.tokenInMint
  let offer ← World.load (w.offers offerKey)
  let pair ← World.load (w.propAmmPairStates (.propAmmPairState offerKey))
  w.requireNotKilled
  let tokenInMint ← w.loadMint args.tokenInMint
  let tokenOutMint ← w.loadMint args.tokenOutMint
  validatePropAmmPairForSide w.state pair offerKey tokenInMint.key tokenOutMint.key .sell
  offer.requireEnabled
  let mainOffer ← loadMainOffer w
  let w ← refreshMarketStatsPda clock w mainOffer tokenInMint
  let liquidity ← sellQuoteLiquidityContext w offerKey tokenInMint tokenOutMint
    (w.ledger.balance .redemptionVaultAuthority tokenOutMint.key)
  let shouldRefreshMarketStats : Bool :=
    tokenInMint.key = w.state.onycMint && programControlsMint tokenInMint
  let (accrual, w) ← accrueIf (shouldRefreshMarketStats && w.bufferState.isSome) clock w
    (some mainOffer) tokenInMint
  let tokenInMint := reloadAfterAccrual accrual tokenInMint w.ledger
  let result ← processRedemptionCore clock offer args.tokenInAmount tokenInMint tokenOutMint
    liquidity.feeBasisPointsPropAmmSell pair.minimumSellHaircutOnyc
  let tokenOutAmount ← applyHardWallLiquidityFactor clock result.tokenOutAmount
    liquidity.actualLiquidity liquidity.hardWallReserve pair
  require (args.minimumOut ≤ tokenOutAmount) .minimumOutNotMet
  let pair ← recordPropAmmSell pair result.tokenOutAmount clock.unixTimestamp
  let ledger ← transferTokens w.ledger tokenInMint args.user.key .redemptionVaultAuthority
    args.tokenInAmount
  let ledger ← executeRedemptionOperations ledger
    (openSwapSell.opsParams args tokenInMint tokenOutMint result tokenOutAmount)
  let w ← storePostBurn accrual
    ({ w with ledger }.setPropAmmPairState (.propAmmPairState offerKey) pair)
    result.tokenInNetAmount
  refreshMarketStatsIf shouldRefreshMarketStats clock w (some mainOffer) tokenInMint

end OnreApp
