import OnreApp.World

namespace OnreApp

open Checked

def initializeBuffer (clock : Clock) (w : World) (boss : Signer) : Result World := do
  constraint (boss.key = w.state.boss)
  constraint (w.bufferState = none)
  let onycMint ← w.loadMint w.state.onycMint
  let offer ← World.load (w.offers w.state.mainOffer)
  require (onycMint.key = offer.tokenOutMint) .invalidTokenOutMint
  return { w with
    bufferState := some {
      onycMint := onycMint.key
      grossApr := 0
      previousSupply := 0
      managementFeeBasisPoints := 0
      performanceFeeBasisPoints := 0
      performanceFeeHighWatermark := 0
      performanceFeeHighWatermarkEnabled := true
      lastAccrualTimestamp := clock.unixTimestamp
    }
  }

def requireMintAuthority (onycMint : MintAccount) : Result Unit := do
  -- `unwrap` on a mint without an authority panics
  let authority ← orPanic onycMint.mintAuthority
  require (authority = .mintAuthority) .noMintAuthority

def mintTo (clock : Clock) (w : World) (boss : Signer) (amount : Nat) : Result World := do
  constraint (boss.key = w.state.boss)
  w.requireNotKilled
  require (w.state.mainOffer ≠ .default) .invalidMainOffer
  let onycMint ← w.loadMint w.state.onycMint
  requireMintAuthority onycMint
  let offer ← loadMainOffer w
  let shouldAccrue := shouldAccrueOnycMint w.state onycMint w.bufferState.isSome
  let (accrual, w) ← accrueIf shouldAccrue clock w (some offer) onycMint
  let onycMint := reloadAfterAccrual accrual onycMint w.ledger
  let ledger ← mintTokens w.ledger onycMint boss.key amount w.state.maxSupply
    w.state.maxMintAmount
  let w ← storePostMint accrual { w with ledger } amount .mathOverflow
  refreshMarketStatsPda clock w offer (onycMint.reload w.ledger)

def accrueAndRefresh (clock : Clock) (w : World) (offer : Offer) (onycMint : MintAccount)
    : Result World := do
  let (_, w) ← accrueBufferFromAccounts clock w offer onycMint
  refreshMarketStatsPda clock w offer (onycMint.reload w.ledger)

def settleBuffer (clock : Clock) (w : World) (worker : Signer) : Result World := do
  require (worker.key = w.state.worker) .invalidWorker
  w.requireNotKilled
  require (w.state.mainOffer ≠ .default) .invalidMainOffer
  let onycMint ← w.loadMint w.state.onycMint
  requireMintAuthority onycMint
  let offer ← loadMainOffer w
  accrueAndRefresh clock w offer onycMint

def loadSettingsAccounts (w : World) (boss : Signer) : Result (Offer × MintAccount) := do
  constraint (boss.key = w.state.boss)
  w.requireNotKilled
  let offer ← World.load (w.offers w.state.mainOffer)
  let onycMint ← w.loadMint w.state.onycMint
  require (onycMint.mintAuthority = some .mintAuthority) .noMintAuthority
  return (offer, onycMint)

def setBufferGrossApr (clock : Clock) (w : World) (boss : Signer) (grossYield : Nat)
    : Result World := do
  let (offer, onycMint) ← loadSettingsAccounts w boss
  require (grossYield ≤ maxBufferGrossApr) .invalidAPR
  let bufferState ← loadBufferState w
  require (bufferState.grossApr ≠ grossYield) .noChange
  require (onycMint.key = offer.tokenOutMint) .invalidTokenOutMint
  let w ← accrueAndRefresh clock w offer onycMint
  let bufferState ← loadBufferState w
  return { w with bufferState := some { bufferState with grossApr := grossYield } }

structure BufferFeeConfig where
  managementFeeBasisPoints : Nat
  performanceFeeBasisPoints : Nat
  performanceFeeHighWatermarkEnabled : Bool
  deriving DecidableEq, Repr

def setBufferFeeConfig (clock : Clock) (w : World) (boss : Signer) (config : BufferFeeConfig)
    : Result World := do
  let (offer, onycMint) ← loadSettingsAccounts w boss
  require (config.managementFeeBasisPoints ≤ maxBasisPoints) .invalidFee
  require (config.performanceFeeBasisPoints ≤ maxBasisPoints) .invalidFee
  let bufferState ← loadBufferState w
  require
    (bufferState.managementFeeBasisPoints ≠ config.managementFeeBasisPoints ∨
      bufferState.performanceFeeBasisPoints ≠ config.performanceFeeBasisPoints ∨
      bufferState.performanceFeeHighWatermarkEnabled ≠ config.performanceFeeHighWatermarkEnabled)
    .noChange
  require (onycMint.key = offer.tokenOutMint) .invalidTokenOutMint
  let w ← accrueAndRefresh clock w offer onycMint
  let bufferState ← loadBufferState w
  return { w with
    bufferState := some { bufferState with
      managementFeeBasisPoints := config.managementFeeBasisPoints
      performanceFeeBasisPoints := config.performanceFeeBasisPoints
      performanceFeeHighWatermarkEnabled := config.performanceFeeHighWatermarkEnabled
    }
  }

def calculateBurnAmount (circulatingSupply assetAdjustmentAmount navBeforeAdjustment
    navAfterAdjustment : Nat) : Result Nat := do
  let totalAssetsBeforeBurn ←
    mapErr (calculateTvl circulatingSupply navBeforeAdjustment) (.onre .mathOverflow)
  require (assetAdjustmentAmount ≤ totalAssetsBeforeBurn) .invalidAssetAdjustmentAmount
  let navScale ← okOr (checkedPow u128Max 10 priceDecimals) .mathOverflow
  let assetsAfterAdjustment := totalAssetsBeforeBurn - assetAdjustmentAmount
  let scaled ← okOr (checkedMul u128Max assetsAfterAdjustment navScale) .mathOverflow
  let requiredSupplyAfter ← okOr (ceilDivU128 scaled navAfterAdjustment) .mathOverflow
  require (requiredSupplyAfter ≤ circulatingSupply) .invalidBurnTarget
  let burnAmount ← okOr (checkedSub circulatingSupply requiredSupplyAfter) .mathOverflow
  require (0 < burnAmount) .noBurnNeeded
  require (burnAmount ≤ u64Max) .resultOverflow
  return burnAmount

def burnForNavIncrease.burnAmount (w : World) (accrual : BufferAccrualResult)
    (assetAdjustmentAmount quotedNav : Nat) : Result Nat := do
  let circulatingSupply ← calculateCirculatingSupply accrual.postAccrualSupply
    (loadCirculatingSupplyExcludedBalanceAmount w)
  let _ ← mapErr (calculateTvl circulatingSupply accrual.currentNav) (.onre .mathOverflow)
  let burnAmount ← calculateBurnAmount circulatingSupply assetAdjustmentAmount accrual.currentNav
    quotedNav
  require (burnAmount ≤ accrual.reserveVaultBalanceAfterAccrual) .insufficientCacheBalance
  return burnAmount

def burnForNavIncrease (clock : Clock) (w : World) (boss : Signer) (assetAdjustmentAmount : Nat)
    : Result World := do
  let (mainOffer, onycMint) ← loadSettingsAccounts w boss
  let bufferState ← World.load w.bufferState
  require (onycMint.key = mainOffer.tokenOutMint) .invalidTokenOutMint
  let quotedNav ← computeOfferCurrentPrice mainOffer clock.time
  require (0 < quotedNav) .invalidTargetNav
  let (accrual, bufferState, ledger) ← accrueBuffer w.state bufferState mainOffer onycMint
    w.ledger clock.unixTimestamp
  let burnAmount ← burnForNavIncrease.burnAmount w accrual assetAdjustmentAmount quotedNav
  let ledger ← burnTokens ledger onycMint .reserveVaultAuthority burnAmount
  let postBurnSupply ← okOr (checkedSub accrual.postAccrualSupply burnAmount) .mathOverflow
  let bufferState :=
    setBufferBaselineAfterSupplyChange bufferState postBurnSupply clock.unixTimestamp
  refreshMarketStatsPda clock { w with ledger, bufferState := some bufferState } mainOffer
    (onycMint.reload ledger)

end OnreApp
