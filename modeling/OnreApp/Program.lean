import OnreApp.Lib.Run
import OnreApp.Buffer.Impl.Supply
import OnreApp.Offer.Impl.Vectors
import OnreApp.PropAmm.Impl.Swap
import OnreApp.Redemption.Impl.Requests

/-!
This module contains the machine of the market: an instruction is executed at the time the clock
shows and either changes the world or fails. A run is a sequence of instructions that all succeed.
One that fails on chain leaves the accounts as they were.
-/

namespace OnreApp

open Checked

structure MakeOfferArgs where
  boss : Signer
  tokenInMint : Pubkey
  tokenOutMint : Pubkey
  feeBasisPoints : Nat
  needsApproval : Bool
  allowPermissionless : Bool
  deriving DecidableEq, Repr

def executeMakeOffer (w : World) (args : MakeOfferArgs) : Result World := do
  let tokenInMint ← w.loadMint args.tokenInMint
  let tokenOutMint ← w.loadMint args.tokenOutMint
  let offerKey := Pubkey.offer tokenInMint.key tokenOutMint.key
  constraint (w.offers offerKey = none)
  constraint (args.boss.key = w.state.boss)
  let offer ← makeOffer tokenInMint.key tokenOutMint.key args.feeBasisPoints args.needsApproval
    args.allowPermissionless
  return w.setOffer offerKey offer

structure VectorCallArgs where
  boss : Signer
  tokenInMint : Pubkey
  tokenOutMint : Pubkey
  call : VectorCall
  deriving DecidableEq, Repr

def executeVectorCall (clock : Clock) (w : World) (args : VectorCallArgs) : Result World := do
  let offerKey := Pubkey.offer args.tokenInMint args.tokenOutMint
  let offer ← World.load (w.offers offerKey)
  let tokenInMint ← w.loadMint args.tokenInMint
  let tokenOutMint ← w.loadMint args.tokenOutMint
  offer.requireMints tokenInMint.key tokenOutMint.key
  constraint (args.boss.key = w.state.boss)
  let offer ← offer.call clock.time args.call
  return w.setOffer offerKey offer

inductive Instruction where
  | makeOffer (args : MakeOfferArgs)
  | vectorCall (args : VectorCallArgs)
  | takeOfferV2 (args : TakeOfferArgs) (approvalMessage : Option (Result Unit))
  | takeOfferPermissionlessV2 (args : TakeOfferArgs)
  | configurePropAmm (boss : Signer) (assetMint : Pubkey) (config : PropAmmConfig)
  | openSwapBuy (args : OpenSwapArgs)
  | openSwapSell (args : OpenSwapArgs)
  | makeRedemptionOffer (args : MakeRedemptionOfferArgs)
  | updateRedemptionOfferFee (args : UpdateRedemptionOfferArgs)
  | updateRedemptionOfferPropAmmSellFee (args : UpdateRedemptionOfferArgs)
  | updateRedemptionOfferVaultTarget (args : UpdateRedemptionOfferArgs)
  | createRedemptionRequest (args : CreateRedemptionRequestArgs)
  | cancelRedemptionRequest (args : CancelRedemptionRequestArgs)
  | fulfillRedemptionRequest (args : FulfillRedemptionRequestArgs)
  | redemptionVaultDeposit (args : RedemptionVaultArgs)
  | redemptionVaultWithdraw (args : RedemptionVaultArgs)
  | initializeBuffer (boss : Signer)
  | mintTo (boss : Signer) (amount : Nat)
  | settleBuffer (worker : Signer)
  | setBufferGrossApr (boss : Signer) (grossYield : Nat)
  | setBufferFeeConfig (boss : Signer) (config : BufferFeeConfig)
  | burnForNavIncrease (boss : Signer) (assetAdjustmentAmount : Nat)

def execute (clock : Clock) (w : World) : Instruction → Result World
  | .makeOffer args => executeMakeOffer w args
  | .vectorCall args => executeVectorCall clock w args
  | .takeOfferV2 args approvalMessage => takeOfferV2 clock w args approvalMessage
  | .takeOfferPermissionlessV2 args => takeOfferPermissionlessV2 clock w args
  | .configurePropAmm boss assetMint config => configurePropAmm clock w boss assetMint config
  | .openSwapBuy args => openSwapBuy clock w args
  | .openSwapSell args => openSwapSell clock w args
  | .makeRedemptionOffer args => makeRedemptionOffer w args
  | .updateRedemptionOfferFee args => updateRedemptionOfferFee w args
  | .updateRedemptionOfferPropAmmSellFee args => updateRedemptionOfferPropAmmSellFee w args
  | .updateRedemptionOfferVaultTarget args => updateRedemptionOfferVaultTarget w args
  | .createRedemptionRequest args => createRedemptionRequest w args
  | .cancelRedemptionRequest args => cancelRedemptionRequest w args
  | .fulfillRedemptionRequest args => fulfillRedemptionRequest clock w args
  | .redemptionVaultDeposit args => redemptionVaultDeposit w args
  | .redemptionVaultWithdraw args => redemptionVaultWithdraw w args
  | .initializeBuffer boss => initializeBuffer clock w boss
  | .mintTo boss amount => mintTo clock w boss amount
  | .settleBuffer worker => settleBuffer clock w worker
  | .setBufferGrossApr boss grossYield => setBufferGrossApr clock w boss grossYield
  | .setBufferFeeConfig boss config => setBufferFeeConfig clock w boss config
  | .burnForNavIncrease boss assetAdjustmentAmount =>
    burnForNavIncrease clock w boss assetAdjustmentAmount

abbrev Call := Clock × Instruction

def step (w : World) (call : Call) : Result World := execute call.1 w call.2

abbrev runCalls (w : World) (calls : List Call) : Result World := Run.run step w calls

section MainOffer

def setMainOffer (w : World) (boss : Signer) (offerKey : Pubkey) : Result World := do
  constraint (boss.key = w.state.boss)
  let offer ← World.load (w.offers offerKey)
  require (offer.tokenOutMint = w.state.onycMint) .invalidTokenOutMint
  require (offerKey ≠ w.state.mainOffer) .noChange
  return { w with state := { w.state with mainOffer := offerKey } }

inductive Command where
  | instruction (i : Instruction)
  | setMainOffer (boss : Signer) (offerKey : Pubkey)

def Command.execute (clock : Clock) (w : World) : Command → Result World
  | .instruction i => OnreApp.execute clock w i
  | .setMainOffer boss offerKey => OnreApp.setMainOffer w boss offerKey

def Command.ofCall (call : Call) : Clock × Command := (call.1, .instruction call.2)

abbrev Command.run (w : World) (commands : List (Clock × Command)) : Result World :=
  Run.run (fun w command => command.2.execute command.1 w) w commands

end MainOffer

namespace Sample

-- one user with USDC, and an offer that sells ONyc for USDC from time 1000 on

def onyc : Pubkey := .external 100

def usdc : Pubkey := .external 101

def boss : Signer := ⟨0⟩

def worker : Signer := ⟨1⟩

def user : Signer := ⟨2⟩

def offer : Pubkey := .offer usdc onyc

def redemptionOffer : Pubkey := .redemptionOffer onyc usdc

def world : World where
  state := {
    boss := boss.key
    isKilled := false
    onycMint := onyc
    maxSupply := 200000000000
    worker := worker.key
    maxMintAmount := 150000000000
    mainOffer := offer
  }
  mints := fun key =>
    if key = onyc then some ⟨9, some .mintAuthority, .splToken, none⟩
    else if key = usdc then some ⟨6, none, .splToken, none⟩
    else none
  ledger := {
    balance := fun owner mint => if owner = user.key ∧ mint = usdc then 1000000000 else 0
    supply := fun mint => if mint = usdc then 1000000000 else 0
    log := []
  }
  offers := fun _ => none
  redemptionOffers := fun _ => none
  redemptionRequests := ∅
  propAmmPairStates := fun _ => none
  bufferState := none
  marketStats := none
  circulatingSupplyExcludedBalance := none
  events := []

def launch : List Call := [
  (⟨1000, 0⟩, .makeOffer ⟨boss, usdc, onyc, 0, false, true⟩),
  (⟨1000, 0⟩, .vectorCall ⟨boss, usdc, onyc, .add ⟨none, 1000, 1000000000, 36500, 86400⟩⟩),
  (⟨1000, 0⟩, .initializeBuffer boss),
  (⟨1000, 0⟩, .setBufferGrossApr boss 50000),
  (⟨1100, 0⟩, .takeOfferV2 ⟨user, usdc, onyc, .marketStats, 100000000⟩ none)
]

def purchase : Instruction := .takeOfferV2 ⟨user, usdc, onyc, .marketStats, 50000000⟩ none

def redemptions : List Call := [
  (⟨1200, 0⟩, .makeRedemptionOffer ⟨boss, onyc, usdc, 100, 0⟩),
  (⟨1200, 0⟩, .redemptionVaultDeposit ⟨user, usdc, 100000000⟩),
  (⟨1300, 0⟩, .createRedemptionRequest ⟨user, redemptionOffer, offer, onyc, 50000000000⟩),
  (⟨1300, 0⟩, .createRedemptionRequest ⟨user, redemptionOffer, offer, onyc, 10000000000⟩),
  (⟨200000, 0⟩, .fulfillRedemptionRequest ⟨worker, offer, redemptionOffer,
    .redemptionRequest redemptionOffer 0, user.key, onyc, usdc, 20000000000⟩),
  (⟨200001, 0⟩, .cancelRedemptionRequest ⟨worker, redemptionOffer,
    .redemptionRequest redemptionOffer 1, user.key, worker.key, onyc⟩)
]

def propAmmConfig : PropAmmConfig where
  enabled := true
  curvePegHaircutBps := defaultCurvePegHaircutBps
  curveExponentScaled := defaultCurveExponentScaled
  cadenceThreshold := defaultCadenceThreshold
  cadenceWaveScaled := defaultCadenceWaveScaled
  epochDurationSeconds := defaultEpochDurationSeconds
  wallSensitivityScaled := defaultWallSensitivityScaled
  minimumSellHaircutOnyc := defaultMinimumSellHaircutOnyc
  epochDurationSeconds_le := PropAmmPairState.default.epochDurationSeconds_le

def swaps : List Call := [
  (⟨1200, 0⟩, .configurePropAmm boss usdc propAmmConfig),
  (⟨1200, 0⟩, .redemptionVaultDeposit ⟨user, usdc, 100000000⟩)
]

def supplyChanges : List Instruction := [
  .mintTo boss 1000000000,
  purchase,
  .openSwapSell ⟨user, onyc, usdc, 10000000000, 1⟩,
  .settleBuffer worker
]

def eurc : Pubkey := .external 102

def secondOffer : Pubkey := .offer eurc onyc

-- another asset, and an offer for it whose price does not grow
def twoOffers : World :=
  { world with mints := Function.update world.mints eurc (some ⟨6, none, .splToken, none⟩) }

def secondLaunch : List Call := [
  (⟨1200, 0⟩, .makeOffer ⟨boss, eurc, onyc, 0, false, true⟩),
  (⟨1200, 0⟩, .vectorCall ⟨boss, eurc, onyc, .add ⟨none, 1200, 1000000000, 0, 86400⟩⟩)
]

def commands : List (Clock × Command) := (launch ++ secondLaunch).map Command.ofCall

def feeRun : List (Clock × Command) := launch.map Command.ofCall ++ [
  (⟨1150, 0⟩, .instruction (.setBufferFeeConfig boss ⟨100, 1000, true⟩)),
  (⟨200000, 0⟩, .instruction (.settleBuffer worker)),
  (⟨300000, 0⟩, .instruction (.settleBuffer worker))
]

def propAmmPairState : Pubkey := .propAmmPairState offer

def pair : PropAmmPairState := { PropAmmPairState.default with
  offer := offer
  assetMint := usdc
  onycMint := onyc
  enabled := true
  epochStart := 1200
}

end Sample

end OnreApp
