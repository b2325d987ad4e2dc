import OnreApp.Program.Lemmas

namespace OnreApp

open Checked TokenLedger

variable {clock : Clock} {w w₁ w' : World} {instruction : Instruction}

section Caps

theorem Effect.performs (h : Effect clock w instruction w')
    : ∃ (ops : List LedgerOp), Performs u64Max w.ledger ops w'.ledger ∧ WithinCaps w.state ops := by
  cases h with
  | market effect => exact ⟨_, effect.performs, effect.withinCaps⟩
  | withdraw effect => exact ⟨_, effect.performs, effect.withinCaps⟩
  | make h =>
    rcases makeRedemptionOffer_inv h with ⟨_, rfl⟩
    exact ⟨[], .nil _, .of_no_mints fun _ => rfl⟩
  | update => exact ⟨[], .nil _, .of_no_mints fun _ => rfl⟩
  | create h =>
    rcases createRedemptionRequest_inv h with ⟨_, _, _, _, hperforms, rfl⟩
    exact ⟨_, hperforms, .of_no_mints fun _ => by simp [Op.mints]⟩
  | cancel h =>
    rcases cancelRedemptionRequest_inv h with ⟨_, _, _, _, hperforms, rfl⟩
    exact ⟨_, hperforms, .of_no_mints fun _ => by simp [Op.mints]⟩
  | fulfill h =>
    rcases fulfillRedemptionRequest_inv h with ⟨_, _, _, _, _, _, hloaded, hfulfillment, rfl⟩
    have effect := hfulfillment.step.marketEffect hfulfillment.marketOnly hloaded.mintIn
    rw [fulfillRedemptionRequest.storeRequest_ledger]
    exact ⟨_, effect.performs, effect.withinCaps⟩

theorem execute_withinCaps (h : execute clock w instruction = .ok w')
    : ∃ (ops : List LedgerOp),
        w'.ledger.log = ops.reverse ++ w.ledger.log ∧ WithinCaps w.state ops := by
  rcases (execute_effect h).performs with ⟨ops, hperforms, hcaps⟩
  exact ⟨ops, hperforms.log, hcaps⟩

theorem execute_withinCaps_accrual_and_purchase
    : ∃ (w w' : World), 0 < w.state.maxSupply ∧ 0 < w.state.maxMintAmount ∧
        execute ⟨200000, 0⟩ w Sample.purchase = .ok w' ∧
        w'.ledger.log = [
          .mintTo Sample.onyc Sample.user.key 49985002999 149983515741,
          .transfer Sample.usdc Sample.user.key (.configurableVault .offerProceeds) 50000000,
          .mintTo Sample.onyc .reserveVaultAuthority 8511743 99998512742
        ] ++ w.ledger.log ∧
        ∃ (ops : List LedgerOp),
          w'.ledger.log = ops.reverse ++ w.ledger.log ∧ WithinCaps w.state ops := by
  have hview : (runCalls Sample.world Sample.launch).toOption.bind (fun w =>
      (execute ⟨200000, 0⟩ w Sample.purchase).toOption.bind fun w' =>
        some (w.state, w.ledger.log, w'.ledger.log)) = some (
          Sample.world.state,
          [
            .mintTo Sample.onyc Sample.user.key 99990000999 99990000999,
            .transfer Sample.usdc Sample.user.key (.configurableVault .offerProceeds) 100000000
          ],
          [
            .mintTo Sample.onyc Sample.user.key 49985002999 149983515741,
            .transfer Sample.usdc Sample.user.key (.configurableVault .offerProceeds) 50000000,
            .mintTo Sample.onyc .reserveVaultAuthority 8511743 99998512742,
            .mintTo Sample.onyc Sample.user.key 99990000999 99990000999,
            .transfer Sample.usdc Sample.user.key (.configurableVault .offerProceeds) 100000000
          ]) := by decide +kernel
  rcases exists_ok_of_view hview with ⟨w, _, hview⟩
  rcases exists_ok_of_view hview with ⟨w', hexecute, hlogs⟩
  simp only [Option.some.injEq, Prod.mk.injEq] at hlogs
  rcases hlogs with ⟨hstate, hlog, hlog'⟩
  refine ⟨w, w', ?_, ?_, hexecute, ?_, execute_withinCaps hexecute⟩
  . rw [hstate]
    decide
  . rw [hstate]
    decide
  . rw [hlog, hlog']
    rfl

end Caps

section Baseline

-- Instructions that move the baseline, with ONyc on the side that is minted or burned.
def Instruction.BufferAware (onycMint : Pubkey) : Instruction → Prop
  | .mintTo _ _ => True
  | .takeOfferV2 args _ => args.tokenOutMint = onycMint ∧ args.tokenInMint ≠ args.tokenOutMint
  | .takeOfferPermissionlessV2 args =>
    args.tokenOutMint = onycMint ∧ args.tokenInMint ≠ args.tokenOutMint
  | .openSwapBuy args => args.tokenOutMint = onycMint ∧ args.tokenInMint ≠ args.tokenOutMint
  | .fulfillRedemptionRequest args =>
    args.tokenInMint = onycMint ∧ args.tokenInMint ≠ args.tokenOutMint
  | .openSwapSell args => args.tokenInMint = onycMint ∧ args.tokenInMint ≠ args.tokenOutMint
  | .burnForNavIncrease _ _ => True
  | .settleBuffer _ => True
  | .setBufferGrossApr _ _ => True
  | .setBufferFeeConfig _ _ => True
  | _ => False

def World.ControlsOnyc (w : World) : Prop :=
  ∃ (info : MintInfo), w.mints w.state.onycMint = some info ∧
    info.mintAuthority = some .mintAuthority

structure SupplyChange where
  reserve : Nat
  managementFee : Nat
  performanceFee : Nat
  minted : Nat
  burned : Nat
  deriving DecidableEq, Repr

namespace SupplyChange

def gross (change : SupplyChange) : Nat :=
  change.reserve + change.managementFee + change.performanceFee

def ofAccrual (result : BufferAccrualResult) (minted burned : Nat) : SupplyChange where
  reserve := result.reserveMintAmount
  managementFee := result.managementFeeMintAmount
  performanceFee := result.performanceFeeMintAmount
  minted := minted
  burned := burned

def bought (clock : Clock) (w : World) (tokenInMint tokenOutMint : Pubkey) (tokenInAmount : Nat)
    (feeBasisPoints : Offer → Nat) : Result Nat := do
  let offer ← World.load (w.offers (.offer tokenInMint tokenOutMint))
  let tokenIn ← w.loadMint tokenInMint
  let tokenOut ← w.loadMint tokenOutMint
  let result ← processOfferCore clock offer tokenInAmount tokenIn tokenOut (feeBasisPoints offer)
  return result.tokenOutAmount

def sold (clock : Clock) (w : World) (args : OpenSwapArgs) : Result Nat := do
  let offerKey := Pubkey.offer args.tokenOutMint args.tokenInMint
  let offer ← World.load (w.offers offerKey)
  let pair ← World.load (w.propAmmPairStates (.propAmmPairState offerKey))
  let config ← redemptionOfferConfig w offerKey args.tokenInMint args.tokenOutMint
  let tokenIn ← w.loadMint args.tokenInMint
  let tokenOut ← w.loadMint args.tokenOutMint
  let result ← processRedemptionCore clock offer args.tokenInAmount tokenIn tokenOut
    config.feeBasisPointsPropAmmSell pair.minimumSellHaircutOnyc
  return result.tokenInNetAmount

def redeemed (clock : Clock) (w : World) (args : FulfillRedemptionRequestArgs) : Result Nat := do
  let params ← fulfillRedemptionRequest.loadParams w args
  let result ← processRedemptionCore clock params.offer args.amount params.tokenInMint
    params.tokenOutMint params.redemptionOffer.feeBasisPoints 0
  return result.tokenInNetAmount

def burnedForNav (clock : Clock) (w : World) (gross assetAdjustmentAmount : Nat) : Result Nat := do
  let mainOffer ← World.load (w.offers w.state.mainOffer)
  let nav ← computeOfferCurrentPrice mainOffer clock.time
  let circulatingSupply ← calculateCirculatingSupply (w.ledger.supply w.state.onycMint + gross)
    (loadCirculatingSupplyExcludedBalanceAmount w)
  calculateBurnAmount circulatingSupply assetAdjustmentAmount nav nav

-- What an instruction mints and burns besides its accrual.
def own (clock : Clock) (w : World) (gross : Nat) : Instruction → Result (Nat × Nat)
  | .mintTo _ amount => return (amount, 0)
  | .takeOfferV2 args _ => do
    let amount ← bought clock w args.tokenInMint args.tokenOutMint args.tokenInAmount
      Offer.feeBasisPoints
    return (amount, 0)
  | .takeOfferPermissionlessV2 args => do
    let amount ← bought clock w args.tokenInMint args.tokenOutMint args.tokenInAmount
      Offer.feeBasisPointsPermissionless
    return (amount, 0)
  | .openSwapBuy args => do
    let amount ← bought clock w args.tokenInMint args.tokenOutMint args.tokenInAmount
      Offer.feeBasisPointsPermissionless
    return (amount, 0)
  | .fulfillRedemptionRequest args => do
    let amount ← redeemed clock w args
    return (0, amount)
  | .openSwapSell args => do
    let amount ← sold clock w args
    return (0, amount)
  | .burnForNavIncrease _ assetAdjustmentAmount => do
    let amount ← burnedForNav clock w gross assetAdjustmentAmount
    return (0, amount)
  | _ => return (0, 0)

end SupplyChange

structure TracksSupply (clock : Clock) (instruction : Instruction) (w w' : World)
    (before after : BufferState) (change : SupplyChange) : Prop where
  -- the gross accrual, from the old baseline over the time since the last accrual
  gross : ∃ (offer : Offer) (activeVector : OfferVector) (currentNav : Nat),
    w.offers w.state.mainOffer = some offer ∧
    getActiveVectorAndCurrentPrice offer clock.time = .ok (activeVector, currentNav) ∧
    calculateGrossBufferAccrual before.previousSupply before.grossApr activeVector.apr
      (asU64 (clock.unixTimestamp - before.lastAccrualTimestamp)) = .ok change.gross
  own : SupplyChange.own clock w change.gross instruction = .ok (change.minted, change.burned)
  -- what was really minted and burned, to which accounts
  ops : ∃ (ops : List LedgerOp), w'.ledger.log = ops.reverse ++ w.ledger.log ∧
    mintedTo (fun k => k = .reserveVaultAuthority) w.state.onycMint ops = change.reserve ∧
    mintedTo (fun k => k = .configurableVault .managementFee) w.state.onycMint ops
      = change.managementFee ∧
    mintedTo (fun k => k = .configurableVault .performanceFee) w.state.onycMint ops
      = change.performanceFee ∧
    minted w.state.onycMint ops = change.gross + change.minted ∧
    burned w.state.onycMint ops = change.burned
  supply : w'.ledger.supply w.state.onycMint + change.burned
    = w.ledger.supply w.state.onycMint + change.gross + change.minted
  previousSupply : after.previousSupply = w'.ledger.supply w.state.onycMint
  lastAccrualTimestamp : after.lastAccrualTimestamp = clock.unixTimestamp

section Steps

variable {mint : MintAccount} {key : Pubkey} {accrual : Option BufferAccrualResult}
  {own : List LedgerOp} {mintedAmount burnedAmount : Nat} {before : BufferState}

theorem SupplyStep.mintedTo_own
    (h : SupplyStep clock w w₁ w' mint accrual own mintedAmount burnedAmount) {p : Pubkey → Bool}
    (hp : ∀ (k : Pubkey), p k = true → isAccrualVault k = true)
    : mintedTo p w.state.onycMint own = 0 := by
  have hle : mintedTo p w.state.onycMint own ≤ mintedTo isAccrualVault w.state.onycMint own :=
    mintedTo_mono hp
  rw [h.accrualVaults] at hle
  apply Nat.le_zero.mp hle

/-- A step that accrues and reports to the baseline exactly the ONyc it mints and burns. -/
structure TrackedStep (clock : Clock) (instruction : Instruction) (w w₁ w' : World)
    (mint : MintAccount) (result : BufferAccrualResult) (own : List LedgerOp)
    (mintedAmount burnedAmount : Nat) : Prop where
  step : SupplyStep clock w w₁ w' mint (some result) own mintedAmount burnedAmount
  loadMint : w.loadMint w.state.onycMint = .ok mint
  minted : TokenLedger.minted w.state.onycMint own = mintedAmount
  burned : TokenLedger.burned w.state.onycMint own = burnedAmount
  amounts : SupplyChange.own clock w result.bufferMintAmount instruction
    = .ok (mintedAmount, burnedAmount)

def SupplyTracked (clock : Clock) (instruction : Instruction) (w w' : World) : Prop :=
  ∃ (w₁ : World) (mint : MintAccount) (result : BufferAccrualResult) (own : List LedgerOp)
    (mintedAmount burnedAmount : Nat),
    TrackedStep clock instruction w w₁ w' mint result own mintedAmount burnedAmount

theorem SupplyStep.tracked {result : BufferAccrualResult}
    (h : SupplyStep clock w w₁ w' mint (some result) own mintedAmount burnedAmount)
    (hmint : w.loadMint w.state.onycMint = .ok mint)
    (hminted : minted w.state.onycMint own = mintedAmount)
    (hburned : burned w.state.onycMint own = burnedAmount)
    (hown : SupplyChange.own clock w result.bufferMintAmount instruction
      = .ok (mintedAmount, burnedAmount))
    : SupplyTracked clock instruction w w' :=
  ⟨w₁, mint, result, own, mintedAmount, burnedAmount, h, hmint, hminted, hburned, hown⟩

namespace TrackedStep

variable {result : BufferAccrualResult}
  (h : TrackedStep clock instruction w w₁ w' mint result own mintedAmount burnedAmount)

include h

theorem accrued
    : ∃ (offer : Offer) (before after : BufferState) (l' : Ledger),
        w.offers w.state.mainOffer = some offer ∧ w.bufferState = some before ∧
        Accrued w.state offer mint clock.unixTimestamp before after w.ledger l' result :=
  h.step.accrues.some_inv rfl

theorem minted_ops
    : TokenLedger.minted w.state.onycMint
        (AccrualStep.ops mint.key (w.ledger.supply mint.key) (some result))
        =
      result.bufferMintAmount := by
  rw [h.step.accrues.minted_ops, if_pos (World.loadMint_inv h.loadMint).1.symm]
  rfl

theorem supply
    : w'.ledger.supply w.state.onycMint + burnedAmount
        =
      w.ledger.supply w.state.onycMint + result.bufferMintAmount + mintedAmount := by
  have hsupply := (h.step.accrues.performs.append h.step.performs).supply w.state.onycMint
  rw [minted_append, burned_append, AccrualStep.burned_ops, h.minted_ops, h.minted, h.burned]
    at hsupply
  omega

theorem baseline
    : ∃ (after : BufferState), w'.bufferState = some after ∧
        after.previousSupply = w'.ledger.supply w.state.onycMint ∧
        after.lastAccrualTimestamp = clock.unixTimestamp ∧
        after.performanceFeeHighWatermark = result.newPerformanceFeeHighWatermark := by
  rcases h.step.baseline result rfl with ⟨after, hafter, htimestamp, hprevious, hwatermark⟩
  rcases h.accrued with ⟨_, _, _, _, _, _, accrued⟩
  have hpost := accrued.postAccrualSupply
  have hsupply := h.supply
  rw [(World.loadMint_inv h.loadMint).2] at hpost
  refine ⟨after, hafter, ?_, ?_, hwatermark⟩
  . omega
  . rw [htimestamp, accrued.timestamp]

theorem ops
    : ∃ (ops : List LedgerOp), w'.ledger.log = ops.reverse ++ w.ledger.log ∧
        mintedTo isAccrualVault w.state.onycMint ops = result.bufferMintAmount ∧
        mintedTo (fun k => k = .reserveVaultAuthority) w.state.onycMint ops
          = result.reserveMintAmount ∧
        mintedTo (fun k => k = .configurableVault .managementFee) w.state.onycMint ops
          = result.managementFeeMintAmount ∧
        mintedTo (fun k => k = .configurableVault .performanceFee) w.state.onycMint ops
          = result.performanceFeeMintAmount ∧
        TokenLedger.minted w.state.onycMint ops = result.bufferMintAmount + mintedAmount ∧
        TokenLedger.burned w.state.onycMint ops = burnedAmount := by
  have hkey := (World.loadMint_inv h.loadMint).1
  have hminted := h.minted_ops
  refine ⟨_, (h.step.accrues.performs.append h.step.performs).log, ?_, ?_, ?_, ?_, ?_, ?_⟩
  . rw [mintedTo_append, h.step.accrualVaults, h.step.accrues.mintedTo_isAccrualVault_ops,
      if_pos hkey.symm]
    rfl
  . rw [hkey, mintedTo_append, h.step.mintedTo_own (by simp [isAccrualVault])]
    apply mintedTo_reserveVault_accrualOps
  . rw [hkey, mintedTo_append, h.step.mintedTo_own (by simp [isAccrualVault])]
    apply mintedTo_managementFeeVault_accrualOps
  . rw [hkey, mintedTo_append, h.step.mintedTo_own (by simp [isAccrualVault])]
    apply mintedTo_performanceFeeVault_accrualOps
  . rw [minted_append, hminted, h.minted]
  . rw [burned_append, AccrualStep.burned_ops, h.burned, Nat.zero_add]

end TrackedStep

theorem SupplyTracked.tracksSupply (h : SupplyTracked clock instruction w w')
    (hbuffer : w.bufferState = some before)
    : ∃ (after : BufferState) (change : SupplyChange), w'.bufferState = some after ∧
        TracksSupply clock instruction w w' before after change := by
  rcases h with ⟨w₁, mint, result, own, mintedAmount, burnedAmount, h⟩
  rcases h.baseline with ⟨after, hafter, hprevious, htimestamp, _⟩
  rcases h.accrued with ⟨offer, before', after', l', hoffer, hbuffer', accrued⟩
  rw [hbuffer, Option.some.injEq] at hbuffer'
  subst hbuffer'
  have hgross : (SupplyChange.ofAccrual result mintedAmount burnedAmount).gross
      = result.bufferMintAmount := accrued.split
  refine ⟨after, .ofAccrual result mintedAmount burnedAmount, hafter, ?_⟩
  constructor
  . rcases accrued.gross with ⟨activeVector, hactive, haccrual⟩
    rw [hgross]
    exact ⟨offer, activeVector, result.currentNav, hoffer, hactive, haccrual⟩
  . rw [hgross]
    exact h.amounts
  . rcases h.ops with ⟨ops, hlog, _, hops⟩
    rw [hgross]
    exact ⟨ops, hlog, hops⟩
  . rw [hgross]
    exact h.supply
  . exact hprevious
  . exact htimestamp

theorem World.ControlsOnyc.programControlsMint (h : w.ControlsOnyc)
    (hmint : w.loadMint w.state.onycMint = .ok mint) : programControlsMint mint = true := by
  rcases h with ⟨info, hinfo, hauthority⟩
  simp only [World.loadMint, hinfo, bind_eq_ok, World.load_eq_ok, pure_eq_ok,
    Option.some.injEq] at hmint
  rcases hmint with ⟨_, rfl, rfl⟩
  simp [OnreApp.programControlsMint, hauthority]

theorem Purchase.tracked {tokenInMint : MintAccount} {tokenOutAmount : Nat}
    (h : Purchase clock w w₁ w' tokenInMint mint accrual own tokenOutAmount)
    (hbuffer : w.bufferState = some before) (hcontrols : w.ControlsOnyc)
    {tokenInKey tokenOutKey : Pubkey} (hin : w.loadMint tokenInKey = .ok tokenInMint)
    (hout : w.loadMint tokenOutKey = .ok mint)
    (haware : tokenOutKey = w.state.onycMint ∧ tokenInKey ≠ tokenOutKey)
    (hown : ∀ (gross : Nat),
      SupplyChange.own clock w gross instruction = .ok (tokenOutAmount, 0))
    : SupplyTracked clock instruction w w' := by
  rcases haware with ⟨rfl, hne⟩
  have hkey := (World.loadMint_inv hout).1
  have hprogram := hcontrols.programControlsMint hout
  rw [← (World.loadMint_inv hin).1, ← hkey] at hne
  have hsome : accrual.isSome = true := by
    rw [h.accrual_isSome]
    simp [shouldAccrueOnycMint, isOnycTokenOutMint, hkey, hbuffer, hprogram]
  rcases Option.isSome_iff_exists.mp hsome with ⟨result, rfl⟩
  have hminted := h.ownMinted hprogram
  have hburned := h.ownBurned hne
  rw [hkey] at hminted hburned
  exact h.step.tracked hout hminted hburned (hown _)

theorem openSwapSell_tracked {args : OpenSwapArgs} (hbuffer : w.bufferState = some before)
    (hcontrols : w.ControlsOnyc) (h : openSwapSell clock w args = .ok w')
    : SupplyTracked clock (.openSwapSell args) w w' := by
  rcases openSwapSell_inv h with ⟨offer, pair, tokenIn, tokenOut, config, result, _, accrual, _, _,
    hsale⟩
  have hmint := hsale.loadIn
  rw [hsale.tokenInMint_eq] at hmint
  have hprogram := hcontrols.programControlsMint hmint
  have hsome := hsale.accrual_isSome
  rw [hbuffer, hprogram] at hsome
  rcases Option.isSome_iff_exists.mp hsome with ⟨_, rfl⟩
  apply hsale.step.tracked hmint (hsale.ownMinted _) (hsale.ownBurned hprogram)
  simp [SupplyChange.own, SupplyChange.sold, hsale.tradesAt.load, hsale.pair_eq, hsale.config_eq,
    hsale.loadIn, hsale.loadOut, hsale.result_eq]

theorem fulfillRedemptionRequest_tracked {args : FulfillRedemptionRequestArgs}
    (hbuffer : w.bufferState = some before) (hcontrols : w.ControlsOnyc)
    (honyc : args.tokenInMint = w.state.onycMint)
    (h : fulfillRedemptionRequest clock w args = .ok w')
    : SupplyTracked clock (.fulfillRedemptionRequest args) w w' := by
  rcases fulfillRedemptionRequest_inv h with
    ⟨params, result, accrual, _, w₂, hparams, hloaded, hfulfillment, rfl⟩
  have hmint := hloaded.mintIn
  have hsome := hfulfillment.accrual_isSome
  rw [honyc] at hmint
  have hkey := (World.loadMint_inv hmint).1
  have hprogram := hcontrols.programControlsMint hmint
  rw [hbuffer, hkey, hprogram] at hsome
  rcases Option.isSome_iff_exists.mp (hsome.trans (by simp)) with ⟨_, rfl⟩
  have hburned : burned params.tokenInMint.key
      (redemptionOps (fulfillRedemptionRequest.opsParams args params result))
        = result.tokenInNetAmount := burned_redemptionOps hprogram
  apply (hfulfillment.step.congr (by simp; rfl) (by simp; rfl)).tracked hmint
  . apply minted_redemptionOps
  . rw [← hkey]
    exact hburned
  . simp [SupplyChange.own, SupplyChange.redeemed, hparams, hfulfillment.result_eq]

theorem burnForNavIncrease_tracked {boss : Signer} {assetAdjustmentAmount : Nat}
    (h : burnForNavIncrease clock w boss assetAdjustmentAmount = .ok w')
    : SupplyTracked clock (.burnForNavIncrease boss assetAdjustmentAmount) w w' := by
  rcases burnForNavIncrease_inv h with
    ⟨mint, offer, result, w₁, burnAmount, haccounts, hoffer, hnav, hburn, hstep, _⟩
  have hmint := haccounts.loadMint
  rcases burnForNavIncrease.burnAmount_inv hburn with ⟨circulatingSupply, hcirculating, hamount⟩
  rcases hstep.accrues.some_inv rfl with ⟨_, _, _, _, _, _, accrued⟩
  rw [accrued.postAccrualSupply, (World.loadMint_inv hmint).2] at hcirculating
  apply hstep.tracked hmint
  . simp [Op.minted]
  . simp [Op.burned]
  . simp [SupplyChange.own, SupplyChange.burnedForNav, hoffer, hnav, hcirculating, hamount]

theorem execute_tracked (hbuffer : w.bufferState = some before) (hcontrols : w.ControlsOnyc)
    (haware : instruction.BufferAware w.state.onycMint) (h : execute clock w instruction = .ok w')
    : SupplyTracked clock instruction w w' := by
  cases instruction with
  | mintTo boss amount =>
    rcases mintTo_inv h with ⟨mint, accrual, w₁, haccounts, hsome, hstep, _⟩
    rw [hbuffer] at hsome
    rcases Option.isSome_iff_exists.mp hsome with ⟨result, rfl⟩
    apply hstep.tracked haccounts.loadMint
    . simp [Op.minted]
    . simp [Op.burned]
    . rfl
  | takeOfferV2 args approvalMessage =>
    rcases takeOfferV2_inv h with
      ⟨offer, tokenIn, tokenOut, result, _, _, _, htrades, hin, hout, hresult, hpurchase, _⟩
    apply hpurchase.tracked hbuffer hcontrols hin hout haware
    intro gross
    simp [SupplyChange.own, SupplyChange.bought, htrades.load, hin, hout, hresult]
  | takeOfferPermissionlessV2 args =>
    rcases takeOfferPermissionlessV2_inv h with
      ⟨offer, tokenIn, tokenOut, result, _, _, _, htrades, hin, hout, hresult, hpurchase, _⟩
    apply hpurchase.tracked hbuffer hcontrols hin hout haware
    intro gross
    simp [SupplyChange.own, SupplyChange.bought, htrades.load, hin, hout, hresult]
  | openSwapBuy args =>
    rcases openSwapBuy_inv h with
      ⟨offer, tokenIn, tokenOut, result, _, _, _, htrades, hin, hout, hresult, hpurchase, _⟩
    apply hpurchase.tracked hbuffer hcontrols hin hout haware
    intro gross
    simp [SupplyChange.own, SupplyChange.bought, htrades.load, hin, hout, hresult]
  | openSwapSell args =>
    apply openSwapSell_tracked hbuffer hcontrols h
  | fulfillRedemptionRequest args =>
    apply fulfillRedemptionRequest_tracked hbuffer hcontrols haware.1 h
  | settleBuffer worker =>
    rcases settleBuffer_inv h with ⟨mint, result, w₁, haccounts, hstep, _⟩
    exact hstep.tracked haccounts.loadMint rfl rfl rfl
  | setBufferGrossApr boss grossYield =>
    rcases setBufferGrossApr_inv h with ⟨mint, result, w₁, haccounts, hstep, _⟩
    exact hstep.tracked haccounts.loadMint rfl rfl rfl
  | setBufferFeeConfig boss config =>
    rcases setBufferFeeConfig_inv h with ⟨mint, result, w₁, haccounts, hstep, _⟩
    exact hstep.tracked haccounts.loadMint rfl rfl rfl
  | burnForNavIncrease boss assetAdjustmentAmount =>
    apply burnForNavIncrease_tracked h
  | _ => exact absurd haware id

end Steps

theorem execute_tracksSupply {before : BufferState} (hbuffer : w.bufferState = some before)
    (hcontrols : w.ControlsOnyc) (haware : instruction.BufferAware w.state.onycMint)
    (h : execute clock w instruction = .ok w')
    : ∃ (after : BufferState) (change : SupplyChange), w'.bufferState = some after ∧
        TracksSupply clock instruction w w' before after change := by
  exact (execute_tracked hbuffer hcontrols haware h).tracksSupply hbuffer

theorem execute_tracksSupply_purchase
    : ∃ (w w' : World) (before after : BufferState) (change : SupplyChange),
        w.bufferState = some before ∧ before.previousSupply = 99990000999 ∧
        execute ⟨200000, 0⟩ w Sample.purchase = .ok w' ∧
        w'.bufferState = some after ∧
        TracksSupply ⟨200000, 0⟩ Sample.purchase w w' before after change := by
  have hview : (runCalls Sample.world Sample.launch).toOption.bind (fun w =>
      w.bufferState.bind fun before =>
        (execute ⟨200000, 0⟩ w Sample.purchase).toOption.bind fun _ =>
          some (before.previousSupply, w.state, w.mints Sample.onyc)) =
      some (99990000999, Sample.world.state,
        some ⟨9, some .mintAuthority, .splToken, none⟩) := by decide +kernel
  rcases exists_ok_of_view hview with ⟨w, _, hview⟩
  rcases Option.bind_eq_some_iff.mp hview with ⟨before, hbuffer, hview⟩
  rcases exists_ok_of_view hview with ⟨w', hexecute, hfacts⟩
  simp only [Option.some.injEq, Prod.mk.injEq] at hfacts
  rcases hfacts with ⟨hprevious, hstate, hmint⟩
  have honyc : w.state.onycMint = Sample.onyc := by rw [hstate]; rfl
  have hcontrols : w.ControlsOnyc := by
    unfold World.ControlsOnyc
    rw [honyc, hmint]
    exact ⟨_, rfl, rfl⟩
  have haware : Sample.purchase.BufferAware w.state.onycMint := by
    rw [honyc]
    exact ⟨rfl, by decide⟩
  rcases execute_tracksSupply hbuffer hcontrols haware hexecute with ⟨after, change, hafter, htracks⟩
  exact ⟨w, w', before, after, change, hbuffer, hprevious, hexecute, hafter, htracks⟩

end Baseline

end OnreApp
