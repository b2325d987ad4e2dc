import OnreApp.Lib.Table
import OnreApp.Buffer.Impl.AccrueBuffer
import OnreApp.PropAmm.Impl.Config
import OnreApp.Redemption.Impl.RedemptionOfferState

/-!
This module contains all accounts of the market, and what the instructions share in reading and
writing them. An account whose address an instruction pins (the state, the main offer, the vaults)
is not an argument of it: with any other account the instruction fails.
-/

namespace OnreApp

open Checked

structure World where
  state : State
  mints : Pubkey → Option MintInfo
  ledger : Ledger
  offers : Pubkey → Option Offer
  redemptionOffers : Pubkey → Option RedemptionOffer
  redemptionRequests : AList fun _ : Pubkey => RedemptionRequest
  propAmmPairStates : Pubkey → Option PropAmmPairState
  bufferState : Option BufferState
  marketStats : Option MarketStats
  circulatingSupplyExcludedBalance : Option Nat
  -- newest first
  events : List RedemptionEvent

namespace World

def load {α : Type} (account : Option α) : Result α := Checked.okOr account .accountNotInitialized

def loadMint (w : World) (key : Pubkey) : Result MintAccount := do
  let info ← load (w.mints key)
  return { info with key, supply := w.ledger.supply key }

def requireNotKilled (w : World) : Result Unit :=
  require (w.state.isKilled = false) .killSwitchActivated

def setOffer (w : World) (key : Pubkey) (offer : Offer) : World :=
  { w with offers := Function.update w.offers key (some offer) }

def setRedemptionOffer (w : World) (key : Pubkey) (redemptionOffer : RedemptionOffer) : World :=
  { w with redemptionOffers := Function.update w.redemptionOffers key (some redemptionOffer) }

def setRedemptionRequest (w : World) (key : Pubkey) (request : RedemptionRequest) : World :=
  { w with redemptionRequests := w.redemptionRequests.insert key request }

def closeRedemptionRequest (w : World) (key : Pubkey) : World :=
  { w with redemptionRequests := w.redemptionRequests.erase key }

def setPropAmmPairState (w : World) (key : Pubkey) (pair : PropAmmPairState) : World :=
  { w with propAmmPairStates := Function.update w.propAmmPairStates key (some pair) }

def emit (w : World) (event : RedemptionEvent) : World := { w with events := event :: w.events }

end World

def loadMainOffer (w : World) : Result Offer := okOr (w.offers w.state.mainOffer) .invalidMainOffer

def loadCirculatingSupplyExcludedBalanceAmount (w : World) : Nat :=
  w.circulatingSupplyExcludedBalance.getD 0

def refreshMarketStatsPda (clock : Clock) (w : World) (offer : Offer) (onycMint : MintAccount)
    : Result World := do
  let snapshot ← recomputeMarketStats clock offer onycMint
    (loadCirculatingSupplyExcludedBalanceAmount w)
  return { w with marketStats := some (applyMarketStatsSnapshot snapshot clock) }

section Buffer

def loadBufferState (w : World) : Result BufferState := okOr w.bufferState .invalidOnycMint

def accrueBufferFromAccounts (clock : Clock) (w : World) (offer : Offer) (onycMint : MintAccount)
    : Result (BufferAccrualResult × World) := do
  let bufferState ← loadBufferState w
  require (bufferState.onycMint = onycMint.key) .invalidOnycMint
  let (result, bufferState, ledger) ← accrueBuffer w.state bufferState offer onycMint w.ledger
    clock.unixTimestamp
  return (result, { w with bufferState := some bufferState, ledger })

def storeBufferPostSupply (w : World) (postChangeSupply : Nat) (now : Int) : Result World := do
  let bufferState ← loadBufferState w
  return { w with
    bufferState := some (setBufferBaselineAfterSupplyChange bufferState postChangeSupply now) }

def accrueIf (shouldAccrue : Bool) (clock : Clock) (w : World) (mainOffer : Option Offer)
    (onycMint : MintAccount) : Result (Option BufferAccrualResult × World) :=
  if shouldAccrue then do
    let canonicalOffer ← okOr mainOffer .invalidMainOffer
    let (accrual, w) ← accrueBufferFromAccounts clock w canonicalOffer onycMint
    return (some accrual, w)
  else
    return (none, w)

def reloadAfterAccrual (accrual : Option BufferAccrualResult) (mint : MintAccount)
    (ledger : Ledger) : MintAccount :=
  -- without an accrual the account is not deserialized again
  if accrual.isSome then mint.reload ledger else mint

def storePostMint (accrual : Option BufferAccrualResult) (w : World) (amount : Nat)
    (e : OnreError) : Result World :=
  match accrual with
  | none => return w
  | some accrual => do
    let postMintSupply ← okOr (checkedAdd u64Max accrual.postAccrualSupply amount) e
    storeBufferPostSupply w postMintSupply accrual.timestamp

def storePostBurn (accrual : Option BufferAccrualResult) (w : World) (amount : Nat)
    : Result World :=
  match accrual with
  | none => return w
  | some accrual => do
    let postBurnSupply ← okOr (checkedSub accrual.postAccrualSupply amount) .mathOverflow
    storeBufferPostSupply w postBurnSupply accrual.timestamp

def isOnycTokenOutMint (state : State) (tokenOutMint : MintAccount) : Bool :=
  tokenOutMint.key = state.onycMint

def shouldAccrueOnycMint (state : State) (tokenOutMint : MintAccount) (bufferIsInitialized : Bool)
    : Bool :=
  isOnycTokenOutMint state tokenOutMint && bufferIsInitialized && programControlsMint tokenOutMint

def loadMainOfferIf (needed : Bool) (w : World) : Result (Option Offer) :=
  if needed then do
    let mainOffer ← loadMainOffer w
    return some mainOffer
  else
    return none

def refreshMarketStatsIf (needed : Bool) (clock : Clock) (w : World) (mainOffer : Option Offer)
    (onycMint : MintAccount) : Result World :=
  if needed then do
    let mainOffer ← okOr mainOffer .invalidMainOffer
    refreshMarketStatsPda clock w mainOffer (onycMint.reload w.ledger)
  else
    return w

end Buffer

end OnreApp
