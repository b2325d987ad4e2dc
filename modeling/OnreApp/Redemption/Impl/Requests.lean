import OnreApp.Redemption.Impl.RedemptionUtils
import OnreApp.World

namespace OnreApp

open Checked

def RedemptionRequest.remaining (request : RedemptionRequest) : Result Nat :=
  okOr (checkedSub request.amount request.fulfilledAmount) .arithmeticUnderflow

namespace RedemptionOffer

def recordRequest (redemptionOffer : RedemptionOffer) (amount : Nat) : Result RedemptionOffer := do
  let requestedRedemptions ←
    okOr (checkedAdd u128Max redemptionOffer.requestedRedemptions amount) .arithmeticOverflow
  let requestCounter ← okOr (checkedAdd u64Max redemptionOffer.requestCounter 1) .arithmeticOverflow
  return { redemptionOffer with requestedRedemptions, requestCounter }

def recordFulfillment (redemptionOffer : RedemptionOffer) (amount : Nat)
    : Result RedemptionOffer := do
  let executedRedemptions ←
    okOr (checkedAdd u128Max redemptionOffer.executedRedemptions amount) .arithmeticOverflow
  let requestedRedemptions ←
    okOr (checkedSub redemptionOffer.requestedRedemptions amount) .arithmeticUnderflow
  return { redemptionOffer with executedRedemptions, requestedRedemptions }

def recordCancellation (redemptionOffer : RedemptionOffer) (returnedAmount : Nat)
    : Result RedemptionOffer := do
  let requestedRedemptions ←
    okOr (checkedSub redemptionOffer.requestedRedemptions returnedAmount) .arithmeticUnderflow
  return { redemptionOffer with requestedRedemptions }

end RedemptionOffer

def loadRedemptionOfferBySeeds (w : World) (key : Pubkey) : Result RedemptionOffer := do
  let redemptionOffer ← World.load (w.redemptionOffers key)
  constraint (key = .redemptionOffer redemptionOffer.tokenInMint redemptionOffer.tokenOutMint)
  return redemptionOffer

structure MakeRedemptionOfferArgs where
  boss : Signer
  tokenInMint : Pubkey
  tokenOutMint : Pubkey
  feeBasisPoints : Nat
  feeBasisPointsPropAmmSell : Nat
  deriving DecidableEq, Repr

def makeRedemptionOffer (w : World) (args : MakeRedemptionOfferArgs) : Result World := do
  constraint (args.boss.key = w.state.boss)
  let offerKey := Pubkey.offer args.tokenOutMint args.tokenInMint
  let _ ← World.load (w.offers offerKey)
  let tokenInMint ← w.loadMint args.tokenInMint
  require (tokenInMint.key = w.state.onycMint) .invalidOnycMint
  require (tokenInMint.tokenProgram = .splToken) .invalidTokenProgram
  let tokenOutMint ← w.loadMint args.tokenOutMint
  let redemptionOfferKey := Pubkey.redemptionOffer tokenInMint.key tokenOutMint.key
  constraint (w.redemptionOffers redemptionOfferKey = none)
  require (args.feeBasisPoints ≤ maxAllowedFeeBps) .invalidFee
  require (args.feeBasisPointsPropAmmSell ≤ maxAllowedFeeBps) .invalidFee
  return w.setRedemptionOffer redemptionOfferKey {
    offer := offerKey
    tokenInMint := tokenInMint.key
    tokenOutMint := tokenOutMint.key
    executedRedemptions := 0
    requestedRedemptions := 0
    feeBasisPoints := args.feeBasisPoints
    requestCounter := 0
    vaultTargetBps := 0
    disabled := false
    feeBasisPointsPropAmmSell := args.feeBasisPointsPropAmmSell
  }

section Update

structure UpdateRedemptionOfferArgs where
  boss : Signer
  redemptionOffer : Pubkey
  -- in basis points
  newValue : Nat
  deriving DecidableEq, Repr

def updateRedemptionOffer (w : World) (args : UpdateRedemptionOfferArgs) (bound : Nat)
    (outOfBounds : OnreError) (get : RedemptionOffer → Nat)
    (set : RedemptionOffer → Nat → RedemptionOffer) : Result World := do
  -- a call that would change nothing is refused
  let redemptionOffer ← loadRedemptionOfferBySeeds w args.redemptionOffer
  require (args.boss.key = w.state.boss) .unauthorized
  require (args.newValue ≤ bound) outOfBounds
  require (args.newValue ≠ get redemptionOffer) .noChange
  return w.setRedemptionOffer args.redemptionOffer (set redemptionOffer args.newValue)

def updateRedemptionOfferFee (w : World) (args : UpdateRedemptionOfferArgs) : Result World :=
  updateRedemptionOffer w args maxAllowedFeeBps .invalidFee RedemptionOffer.feeBasisPoints
    fun redemptionOffer value => { redemptionOffer with feeBasisPoints := value }

def updateRedemptionOfferPropAmmSellFee (w : World) (args : UpdateRedemptionOfferArgs)
    : Result World :=
  updateRedemptionOffer w args maxAllowedFeeBps .invalidFee
    RedemptionOffer.feeBasisPointsPropAmmSell
    fun redemptionOffer value => { redemptionOffer with feeBasisPointsPropAmmSell := value }

def updateRedemptionOfferVaultTarget (w : World) (args : UpdateRedemptionOfferArgs)
    : Result World :=
  updateRedemptionOffer w args maxBasisPoints .invalidAmount RedemptionOffer.vaultTargetBps
    fun redemptionOffer value => { redemptionOffer with vaultTargetBps := value }

end Update

structure CreateRedemptionRequestArgs where
  redeemer : Signer
  redemptionOffer : Pubkey
  offer : Pubkey
  tokenInMint : Pubkey
  amount : Nat
  deriving DecidableEq, Repr

def createRedemptionRequest (w : World) (args : CreateRedemptionRequestArgs) : Result World := do
  w.requireNotKilled
  let redemptionOffer ← loadRedemptionOfferBySeeds w args.redemptionOffer
  let offer ← World.load (w.offers args.offer)
  let requestKey := Pubkey.redemptionRequest args.redemptionOffer redemptionOffer.requestCounter
  constraint (w.redemptionRequests.lookup requestKey = none)
  let tokenInMint ← w.loadMint args.tokenInMint
  require (tokenInMint.key = redemptionOffer.tokenInMint) .invalidMint
  require (tokenInMint.tokenProgram = .splToken) .invalidTokenProgram
  require (0 < args.amount) .invalidAmount
  require (redemptionOffer.offer ≠ .default) .invalidRedemptionOffer
  require (redemptionOffer.tokenOutMint ≠ .default) .invalidRedemptionOffer
  require (redemptionOffer.offer = args.offer) .offerMismatch
  redemptionOffer.requireEnabled
  offer.requireEnabled
  let ledger ← transferTokens w.ledger tokenInMint args.redeemer.key .redemptionVaultAuthority
    args.amount
  let request : RedemptionRequest := {
    offer := args.redemptionOffer
    requestId := redemptionOffer.requestCounter
    redeemer := args.redeemer.key
    amount := args.amount
    fulfilledAmount := 0
  }
  let redemptionOffer ← redemptionOffer.recordRequest args.amount
  return ((({ w with ledger }.setRedemptionRequest requestKey request).setRedemptionOffer
    args.redemptionOffer redemptionOffer).emit
      (.requestCreated requestKey args.redemptionOffer args.redeemer.key args.amount
        request.requestId))

structure CancelRedemptionRequestArgs where
  signer : Signer
  redemptionOffer : Pubkey
  redemptionRequest : Pubkey
  redeemer : Pubkey
  worker : Pubkey
  tokenInMint : Pubkey
  deriving DecidableEq, Repr

def cancelRedemptionRequest (w : World) (args : CancelRedemptionRequestArgs) : Result World := do
  w.requireNotKilled
  let redemptionOffer ← loadRedemptionOfferBySeeds w args.redemptionOffer
  let request ← World.load (w.redemptionRequests.lookup args.redemptionRequest)
  constraint (args.redemptionRequest = .redemptionRequest request.offer request.requestId)
  require (request.offer = args.redemptionOffer) .offerMismatch
  require
    (args.signer.key = w.state.boss ∨ args.signer.key = w.state.worker ∨
      args.signer.key = request.redeemer) .unauthorized
  require (args.redeemer = request.redeemer) .invalidRedeemer
  -- the rent of the request goes to the worker, so its account is `mut`
  constraint args.worker.isWritable
  require (args.worker = w.state.worker) .invalidWorker
  let tokenInMint ← w.loadMint args.tokenInMint
  require (tokenInMint.key = redemptionOffer.tokenInMint) .invalidMint
  let returnedAmount ← request.remaining
  let ledger ← transferTokens w.ledger tokenInMint .redemptionVaultAuthority args.redeemer
    returnedAmount
  let redemptionOffer ← redemptionOffer.recordCancellation returnedAmount
  return ((({ w with ledger }.closeRedemptionRequest args.redemptionRequest).setRedemptionOffer
    args.redemptionOffer redemptionOffer).emit
      (.requestCancelled args.redemptionRequest args.redemptionOffer request.redeemer
        request.amount returnedAmount args.signer.key))

structure FulfillRedemptionRequestArgs where
  worker : Signer
  offer : Pubkey
  redemptionOffer : Pubkey
  redemptionRequest : Pubkey
  redeemer : Pubkey
  tokenInMint : Pubkey
  tokenOutMint : Pubkey
  amount : Nat
  deriving DecidableEq, Repr

def loadRedemptionOffer (w : World) (offerKey redemptionOfferKey : Pubkey)
    (tokenInMint tokenOutMint : MintAccount) : Result RedemptionOffer := do
  let redemptionOffer ← okOr (w.redemptionOffers redemptionOfferKey) .invalidRedemptionOfferOwner
  require (redemptionOfferKey = .redemptionOffer tokenInMint.key tokenOutMint.key) .offerMismatch
  require (redemptionOffer.offer = offerKey) .offerMismatch
  require (tokenInMint.key = redemptionOffer.tokenInMint) .invalidTokenInMint
  require (tokenOutMint.key = redemptionOffer.tokenOutMint) .invalidTokenOutMint
  redemptionOffer.requireEnabled
  return redemptionOffer

structure FulfillRedemptionRequestParams where
  offer : Offer
  redemptionOffer : RedemptionOffer
  request : RedemptionRequest
  tokenInMint : MintAccount
  tokenOutMint : MintAccount

namespace fulfillRedemptionRequest

def loadParams (w : World) (args : FulfillRedemptionRequestArgs)
    : Result FulfillRedemptionRequestParams := do
  w.requireNotKilled
  let offer ← World.load (w.offers args.offer)
  let request ← World.load (w.redemptionRequests.lookup args.redemptionRequest)
  let tokenInMint ← w.loadMint args.tokenInMint
  let tokenOutMint ← w.loadMint args.tokenOutMint
  require (args.redemptionRequest = .redemptionRequest request.offer request.requestId)
    .offerMismatch
  require (request.offer = args.redemptionOffer) .offerMismatch
  require (args.redeemer = request.redeemer) .invalidRedeemer
  require (args.worker.key = w.state.worker) .unauthorized
  let redemptionOffer ←
    loadRedemptionOffer w args.offer args.redemptionOffer tokenInMint tokenOutMint
  return { offer, redemptionOffer, request, tokenInMint, tokenOutMint }

def opsParams (args : FulfillRedemptionRequestArgs) (params : FulfillRedemptionRequestParams)
    (result : RedemptionProcessResult) : ExecuteRedemptionOpsParams where
  tokenInMint := params.tokenInMint
  tokenInNetAmount := result.tokenInNetAmount
  tokenInFeeAmount := result.tokenInFeeAmount
  vaultTokenInAccount := .redemptionVaultAuthority
  tokenInDestinationAccount := .configurableVault .offerProceeds
  feeDestinationTokenInAccount := .configurableVault .redemptionFee
  tokenOutMint := params.tokenOutMint
  tokenOutAmount := result.tokenOutAmount
  vaultTokenOutAccount := .redemptionVaultAuthority
  userTokenOutAccount := args.redeemer

def storeRequest (w : World) (key : Pubkey) (request : RedemptionRequest)
    (newFulfilledAmount : Nat) : World :=
  if newFulfilledAmount = request.amount then
    w.closeRedemptionRequest key
  else
    w.setRedemptionRequest key { request with fulfilledAmount := newFulfilledAmount }

end fulfillRedemptionRequest

def executeFulfillRedemptionRequest (clock : Clock) (w : World)
    (args : FulfillRedemptionRequestArgs) (params : FulfillRedemptionRequestParams)
    : Result World := do
  require (0 < args.amount) .invalidAmount
  let remaining ← params.request.remaining
  require (args.amount ≤ remaining) .amountExceedsRemaining
  params.offer.requireEnabled
  let result ← processRedemptionCore clock params.offer args.amount params.tokenInMint
    params.tokenOutMint params.redemptionOffer.feeBasisPoints 0
  let shouldRefreshMarketStats : Bool :=
    params.tokenInMint.key = w.state.onycMint && programControlsMint params.tokenInMint
  let mainOffer ← loadMainOfferIf shouldRefreshMarketStats w
  let (accrual, w) ← accrueIf (shouldRefreshMarketStats && w.bufferState.isSome) clock w mainOffer
    params.tokenInMint
  let ledger ← executeRedemptionOperations w.ledger
    (fulfillRedemptionRequest.opsParams args params result)
  let w ← storePostBurn accrual { w with ledger } result.tokenInNetAmount
  let w ← refreshMarketStatsIf shouldRefreshMarketStats clock w mainOffer params.tokenInMint
  let newFulfilledAmount ←
    okOr (checkedAdd u64Max params.request.fulfilledAmount args.amount) .arithmeticOverflow
  let redemptionOffer ← params.redemptionOffer.recordFulfillment args.amount
  let w := w.emit (.requestFulfilled args.redemptionRequest args.redemptionOffer args.redeemer
    result.tokenInNetAmount result.tokenInFeeAmount result.tokenOutAmount result.price args.amount
    newFulfilledAmount (newFulfilledAmount = params.request.amount))
  return fulfillRedemptionRequest.storeRequest (w.setRedemptionOffer args.redemptionOffer
    redemptionOffer) args.redemptionRequest params.request newFulfilledAmount

def fulfillRedemptionRequest (clock : Clock) (w : World) (args : FulfillRedemptionRequestArgs)
    : Result World := do
  let params ← fulfillRedemptionRequest.loadParams w args
  executeFulfillRedemptionRequest clock w args params

section Vault

structure RedemptionVaultArgs where
  signer : Signer
  tokenMint : Pubkey
  amount : Nat
  deriving DecidableEq, Repr

def redemptionVaultDeposit (w : World) (args : RedemptionVaultArgs) : Result World := do
  let tokenMint ← w.loadMint args.tokenMint
  w.requireNotKilled
  require (hasTransferFee tokenMint = false) .transferFeeNotSupported
  let ledger ← transferTokens w.ledger tokenMint args.signer.key .redemptionVaultAuthority
    args.amount
  return { w with ledger }

def redemptionVaultWithdraw (w : World) (args : RedemptionVaultArgs) : Result World := do
  let tokenMint ← w.loadMint args.tokenMint
  constraint (args.signer.key = w.state.boss)
  w.requireNotKilled
  require (hasTransferFee tokenMint = false) .transferFeeNotSupported
  let ledger ← transferTokens w.ledger tokenMint .redemptionVaultAuthority args.signer.key
    args.amount
  return { w with ledger }

end Vault

end OnreApp
