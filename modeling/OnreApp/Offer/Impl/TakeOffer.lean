import OnreApp.World

namespace OnreApp

open Checked

def verifyOfferApproval (offer : Offer) (approvalMessage : Option (Result Unit)) : Result Unit :=
  -- `approvalMessage` carries the outcome of the verification of its signature and contents
  if offer.needsApproval then
    match approvalMessage with
    | some verification => verification
    | none => throw (.onre .approvalRequired)
  else
    return ()

section Refill

def loadRedemptionOfferVaultTargetBpsForOffer (w : World) (offerKey tokenInMint : Pubkey)
    (tokenOutMint : Pubkey) : Result (Option Nat) := do
  let redemptionOffer ← loadOptionalCheckedRedemptionOffer
    (w.redemptionOffers (.redemptionOffer tokenOutMint tokenInMint)) offerKey tokenOutMint
    tokenInMint
  match redemptionOffer with
  | none => return none
  | some redemptionOffer =>
    if redemptionOffer.disabled then
      return none
    else
      return some redemptionOffer.vaultTargetBps

def readMarketStatsAccount (w : World) (account : Pubkey) : Option MarketStats :=
  if account = .marketStats then w.marketStats else none

def calculateRedemptionVaultRefillAmount.targetLiquidity (marketStats : Option MarketStats)
    (vaultTargetBps tokenInDecimals tokenOutDecimals : Nat) : Result Nat :=
  match marketStats with
  | none => return 0
  | some marketStats => do
    let targetInOnycDecimals :=
      saturatingMul u128Max marketStats.tvl vaultTargetBps / maxBasisPoints
    let tokenInScale ← orPanic (checkedPow u128Max 10 tokenInDecimals)
    let tokenOutScale ← orPanic (checkedPow u128Max 10 tokenOutDecimals)
    return saturatingMul u128Max targetInOnycDecimals tokenInScale / tokenOutScale

def calculateRedemptionVaultRefillAmount (marketStats : Option MarketStats) (vaultTargetBps : Nat)
    (tokenInMint tokenOutMint : MintAccount)
    (currentRedemptionVaultBalance tokenInNetAmount : Nat) : Result Nat :=
  if vaultTargetBps = 0 then
    return 0
  else do
    let targetLiquidity ← calculateRedemptionVaultRefillAmount.targetLiquidity marketStats
      vaultTargetBps tokenInMint.decimals tokenOutMint.decimals
    return min (targetLiquidity - currentRedemptionVaultBalance) tokenInNetAmount

def redemptionVaultRefill (w : World) (offerKey marketStatsAccount : Pubkey)
    (tokenInMint tokenOutMint : MintAccount) (tokenInNetAmount : Nat) : Result (Option Nat) := do
  -- no refill without a target, and none of a payment that is burned
  let targetBps ←
    loadRedemptionOfferVaultTargetBpsForOffer w offerKey tokenInMint.key tokenOutMint.key
  if 0 < targetBps.getD 0 ∧ programControlsMint tokenInMint = false then
    let refillAmount ← calculateRedemptionVaultRefillAmount
      (readMarketStatsAccount w marketStatsAccount) (targetBps.getD 0) tokenInMint tokenOutMint
      (w.ledger.balance .redemptionVaultAuthority tokenInMint.key) tokenInNetAmount
    return some refillAmount
  else
    return none

end Refill

structure TakeOfferArgs where
  user : Signer
  tokenInMint : Pubkey
  tokenOutMint : Pubkey
  -- only checked to be the market stats account when ONyc is bought
  marketStats : Pubkey
  tokenInAmount : Nat
  deriving DecidableEq, Repr

def takeOfferV2.opsParams (state : State) (args : TakeOfferArgs)
    (tokenInMint tokenOutMint : MintAccount) (result : OfferProcessResult) (refill : Option Nat)
    : ExecTokenOpsParams where
  tokenInMint := tokenInMint
  tokenInNetAmount := result.tokenInNetAmount
  tokenInFeeAmount := result.tokenInFeeAmount
  tokenInSourceAccount := args.user.key
  tokenInDestinationAccount := .configurableVault .offerProceeds
  tokenInRefillDestinationAccount := refill.map fun _ => .redemptionVaultAuthority
  tokenInRefillAmount := refill.getD 0
  tokenInFeeDestinationAccount := .configurableVault .offerFee
  tokenInBurnAccount := .offerVaultAuthority
  tokenOutMint := tokenOutMint
  tokenOutAmount := result.tokenOutAmount
  tokenOutSourceAccount := .offerVaultAuthority
  tokenOutDestinationAccount := args.user.key
  tokenOutMaxSupply := state.maxSupply
  tokenOutMaxMintAmount := state.maxMintAmount

def takeOfferV2 (clock : Clock) (w : World) (args : TakeOfferArgs)
    (approvalMessage : Option (Result Unit)) : Result World := do
  let offerKey := Pubkey.offer args.tokenInMint args.tokenOutMint
  let offer ← World.load (w.offers offerKey)
  w.requireNotKilled
  let tokenInMint ← w.loadMint args.tokenInMint
  let tokenOutMint ← w.loadMint args.tokenOutMint
  offer.requireMints tokenInMint.key tokenOutMint.key
  offer.requireEnabled
  let isOnyc := isOnycTokenOutMint w.state tokenOutMint
  let shouldAccrue := shouldAccrueOnycMint w.state tokenOutMint w.bufferState.isSome
  let mainOffer ← loadMainOfferIf isOnyc w
  verifyOfferApproval offer approvalMessage
  let result ← processOfferCore clock offer args.tokenInAmount tokenInMint tokenOutMint
    offer.feeBasisPoints
  let refill ← redemptionVaultRefill w offerKey args.marketStats tokenInMint tokenOutMint
    result.tokenInNetAmount
  let (accrual, w) ← accrueIf shouldAccrue clock w mainOffer tokenOutMint
  let tokenOutMint := reloadAfterAccrual accrual tokenOutMint w.ledger
  let ledger ← executeTokenOperations w.ledger
    (takeOfferV2.opsParams w.state args tokenInMint tokenOutMint result refill)
  let w ← storePostMint accrual { w with ledger } result.tokenOutAmount .mathOverflow
  require (isOnyc → args.marketStats = .marketStats) .invalidMarketStatsPda
  refreshMarketStatsIf isOnyc clock w mainOffer tokenOutMint

def takeOfferPermissionlessV2.opsParams (state : State) (tokenInMint tokenOutMint : MintAccount)
    (result : OfferProcessResult) (refill : Option Nat) : ExecTokenOpsParams where
  tokenInMint := tokenInMint
  tokenInNetAmount := result.tokenInNetAmount
  tokenInFeeAmount := result.tokenInFeeAmount
  tokenInSourceAccount := .permissionlessAuthority
  tokenInDestinationAccount := .configurableVault .offerProceeds
  tokenInRefillDestinationAccount := refill.map fun _ => .redemptionVaultAuthority
  tokenInRefillAmount := refill.getD 0
  tokenInFeeDestinationAccount := .configurableVault .permissionlessOfferFee
  tokenInBurnAccount := .offerVaultAuthority
  tokenOutMint := tokenOutMint
  tokenOutAmount := result.tokenOutAmount
  tokenOutSourceAccount := .offerVaultAuthority
  tokenOutDestinationAccount := .permissionlessAuthority
  tokenOutMaxSupply := state.maxSupply
  tokenOutMaxMintAmount := state.maxMintAmount

def takeOfferPermissionlessV2.route (ledger : Ledger) (args : TakeOfferArgs)
    (params : ExecTokenOpsParams) : Result Ledger := do
  let ledger ← transferTokens ledger params.tokenInMint args.user.key .permissionlessAuthority
    args.tokenInAmount
  let ledger ← executeTokenOperations ledger params
  transferTokens ledger params.tokenOutMint .permissionlessAuthority args.user.key
    params.tokenOutAmount

def takeOfferPermissionlessV2 (clock : Clock) (w : World) (args : TakeOfferArgs)
    : Result World := do
  let offerKey := Pubkey.offer args.tokenInMint args.tokenOutMint
  let offer ← World.load (w.offers offerKey)
  w.requireNotKilled
  let tokenInMint ← w.loadMint args.tokenInMint
  let tokenOutMint ← w.loadMint args.tokenOutMint
  offer.requireEnabled
  offer.requireMints tokenInMint.key tokenOutMint.key
  require (offer.allowPermissionless = true) .permissionlessNotAllowed
  let result ← processOfferCore clock offer args.tokenInAmount tokenInMint tokenOutMint
    offer.feeBasisPointsPermissionless
  let isOnyc := isOnycTokenOutMint w.state tokenOutMint
  let shouldAccrue := shouldAccrueOnycMint w.state tokenOutMint w.bufferState.isSome
  let mainOffer ← loadMainOfferIf isOnyc w
  let (accrual, w) ← accrueIf shouldAccrue clock w mainOffer tokenOutMint
  let tokenOutMint := reloadAfterAccrual accrual tokenOutMint w.ledger
  let refill ← redemptionVaultRefill w offerKey args.marketStats tokenInMint tokenOutMint
    result.tokenInNetAmount
  let ledger ← takeOfferPermissionlessV2.route w.ledger args
    (takeOfferPermissionlessV2.opsParams w.state tokenInMint tokenOutMint result refill)
  let w ← storePostMint accrual { w with ledger } result.tokenOutAmount .overflowError
  require (isOnyc → args.marketStats = .marketStats) .invalidMarketStatsPda
  refreshMarketStatsIf isOnyc clock w mainOffer tokenOutMint

end OnreApp
