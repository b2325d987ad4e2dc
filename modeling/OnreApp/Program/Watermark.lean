import OnreApp.Program.Settings

namespace OnreApp

open Checked TokenLedger

variable {clock : Clock} {w w₁ w' : World} {instruction : Instruction} {result : BufferAccrualResult}

section Accrual

def accruesOn (w : World) (key : Pubkey) : Bool :=
  match w.loadMint key with
  | .ok mint => shouldAccrueOnycMint w.state mint w.bufferState.isSome
  | .error _ => false

def Instruction.accrues (w : World) : Instruction → Bool
  | .mintTo _ _ => w.bufferState.isSome
  | .takeOfferV2 args _ => accruesOn w args.tokenOutMint
  | .takeOfferPermissionlessV2 args => accruesOn w args.tokenOutMint
  | .openSwapBuy args => accruesOn w args.tokenOutMint
  | .openSwapSell args => accruesOn w args.tokenInMint
  | .fulfillRedemptionRequest args => accruesOn w args.tokenInMint
  | .settleBuffer _ => true
  | .setBufferGrossApr _ _ => true
  | .setBufferFeeConfig _ _ => true
  | .burnForNavIncrease _ _ => true
  | _ => false

structure Observation where
  result : BufferAccrualResult
  watermarkEnabled : Bool
  deriving DecidableEq, Repr

def observeAccrual (clock : Clock) (w : World) : Option Observation := do
  let bufferState ← w.bufferState
  let offer ← w.offers w.state.mainOffer
  let onycMint ← (w.loadMint w.state.onycMint).toOption
  let (result, _) ← (accrueBuffer w.state bufferState offer onycMint w.ledger
    clock.unixTimestamp).toOption
  return { result, watermarkEnabled := bufferState.performanceFeeHighWatermarkEnabled }

def Command.observe (clock : Clock) (w : World) : Command → Option Observation
  | .instruction i => if i.accrues w then observeAccrual clock w else none
  | .setMainOffer _ _ => none

inductive BufferStep (w w' : World) : Option Observation → Prop where
  | kept (h : w'.bufferState = w.bufferState) : BufferStep w w' none
  | initialized {b : BufferState} (h : w.bufferState = none) (h' : w'.bufferState = some b)
      (baseline : b.previousSupply = 0) : BufferStep w w' none
  | accrued {before after : BufferState} {o : Observation} (h : w.bufferState = some before)
      (h' : w'.bufferState = some after)
      (enabled : o.watermarkEnabled = before.performanceFeeHighWatermarkEnabled)
      (old : o.result.oldPreviousSupply = before.previousSupply)
      (watermark : after.performanceFeeHighWatermark =
        if before.previousSupply = 0 then o.result.currentNav
        else max before.performanceFeeHighWatermark o.result.currentNav)
      (fee : before.performanceFeeHighWatermarkEnabled = true →
        o.result.performanceFeeMintAmount ≠ 0 →
        before.previousSupply ≠ 0 ∧ before.performanceFeeHighWatermark ≤ o.result.currentNav)
      : BufferStep w w' (some o)

variable {mint : MintAccount} {key : Pubkey} {accrual : Option BufferAccrualResult}
  {own : List LedgerOp} {mintedAmount burnedAmount : Nat} {accrues : Bool}

theorem SupplyStep.bufferStep
    (h : SupplyStep clock w w₁ w' mint accrual own mintedAmount burnedAmount)
    (hmint : w.loadMint key = .ok mint) (hsome : accrual.isSome = accrues)
    : BufferStep w w' (if accrues then observeAccrual clock w else none) := by
  cases haccrual : accrual with
  | none =>
    rw [← hsome, haccrual]
    exact .kept (h.kept haccrual)
  | some result =>
    rcases h.baseline result haccrual with ⟨after, hafter, _, _, hwatermark⟩
    have haccrues := h.accrues
    rw [haccrual] at haccrues
    cases haccrues with
    | @some offer before _ _ _ hoffer hkey hbuffer accrued =>
      have hobserve : observeAccrual clock w
          = some ⟨result, before.performanceFeeHighWatermarkEnabled⟩ := by
        rw [(World.loadMint_inv hmint).1] at hkey
        rw [hkey] at hmint
        simp [observeAccrual, hbuffer, hoffer, hmint, accrued.computed, Except.toOption]
      rw [← hsome, haccrual, Option.isSome_some, if_pos rfl, hobserve]
      apply BufferStep.accrued hbuffer hafter rfl accrued.oldPreviousSupply
      . rw [hwatermark, accrued.watermark]
      . exact accrued.performanceFee

theorem accruesOn_eq (hmint : w.loadMint key = .ok mint)
    : accruesOn w key = shouldAccrueOnycMint w.state mint w.bufferState.isSome := by
  unfold accruesOn
  rw [hmint]

theorem fulfillRedemptionRequest_bufferStep {args : FulfillRedemptionRequestArgs}
    (h : fulfillRedemptionRequest clock w args = .ok w')
    : BufferStep w w' (if accruesOn w args.tokenInMint then observeAccrual clock w else none) := by
  rcases fulfillRedemptionRequest_inv h with ⟨_, _, _, _, _, _, hloaded, hfulfillment, rfl⟩
  apply (hfulfillment.step.congr (by simp; rfl) (by simp; rfl)).bufferStep hloaded.mintIn
  rw [hfulfillment.accrual_isSome, accruesOn_eq hloaded.mintIn, shouldAccrueOnycMint,
    isOnycTokenOutMint]
  apply Bool.and_right_comm

theorem openSwapSell_bufferStep {args : OpenSwapArgs} (h : openSwapSell clock w args = .ok w')
    : BufferStep w w' (if accruesOn w args.tokenInMint then observeAccrual clock w else none) := by
  rcases openSwapSell_inv h with ⟨_, _, _, _, _, _, _, _, _, _, hsale⟩
  apply hsale.step.bufferStep hsale.loadIn
  rw [hsale.accrual_isSome, accruesOn_eq hsale.loadIn, shouldAccrueOnycMint, isOnycTokenOutMint,
    hsale.key_in, decide_eq_true rfl, Bool.true_and, Bool.and_comm]

theorem Purchase.bufferStep {tokenInMint : MintAccount} {tokenOutAmount : Nat}
    (h : Purchase clock w w₁ w' tokenInMint mint accrual own tokenOutAmount)
    (hmint : w.loadMint key = .ok mint)
    : BufferStep w w' (if accruesOn w key then observeAccrual clock w else none) := by
  apply h.step.bufferStep hmint
  rw [h.accrual_isSome, accruesOn_eq hmint]

theorem execute_bufferStep (h : execute clock w instruction = .ok w')
    : BufferStep w w' ((Command.instruction instruction).observe clock w) := by
  unfold Command.observe
  cases instruction with
  | takeOfferV2 args approvalMessage =>
    rcases takeOfferV2_inv h with ⟨_, _, _, _, _, _, _, _, _, hmint, _, hpurchase, _⟩
    exact hpurchase.bufferStep hmint
  | takeOfferPermissionlessV2 args =>
    rcases takeOfferPermissionlessV2_inv h with ⟨_, _, _, _, _, _, _, _, _, hmint, _, hpurchase, _⟩
    exact hpurchase.bufferStep hmint
  | openSwapBuy args =>
    rcases openSwapBuy_inv h with ⟨_, _, _, _, _, _, _, _, _, hmint, _, hpurchase, _⟩
    exact hpurchase.bufferStep hmint
  | openSwapSell args => exact openSwapSell_bufferStep h
  | fulfillRedemptionRequest args => exact fulfillRedemptionRequest_bufferStep h
  | mintTo boss amount =>
    rcases mintTo_inv h with ⟨_, _, _, haccounts, hsome, hstep, _⟩
    exact hstep.bufferStep haccounts.loadMint hsome
  | settleBuffer worker =>
    rcases settleBuffer_inv h with ⟨_, _, _, haccounts, hstep, _⟩
    exact hstep.bufferStep haccounts.loadMint rfl
  | setBufferGrossApr boss grossYield =>
    rcases setBufferGrossApr_inv h with ⟨_, _, _, haccounts, hstep, _⟩
    exact hstep.bufferStep haccounts.loadMint rfl
  | setBufferFeeConfig boss config =>
    rcases setBufferFeeConfig_inv h with ⟨_, _, _, haccounts, hstep, _⟩
    exact hstep.bufferStep haccounts.loadMint rfl
  | burnForNavIncrease boss assetAdjustmentAmount =>
    rcases burnForNavIncrease_inv h with ⟨_, _, _, _, _, haccounts, _, _, _, hstep, _⟩
    exact hstep.bufferStep haccounts.loadMint rfl
  | initializeBuffer boss =>
    rcases initializeBuffer_inv h with ⟨_, hnone, b, hbaseline, rfl⟩
    exact .initialized hnone rfl hbaseline
  | makeOffer args =>
    rcases executeMakeOffer_inv h with ⟨_, _, _, _, rfl⟩
    exact .kept rfl
  | vectorCall args =>
    rcases executeVectorCall_inv h with ⟨_, _, _, _, _, rfl⟩
    exact .kept rfl
  | configurePropAmm boss assetMint config =>
    rcases configurePropAmm_inv h with ⟨_, _, rfl⟩
    exact .kept rfl
  | makeRedemptionOffer args =>
    rcases makeRedemptionOffer_inv h with ⟨_, rfl⟩
    exact .kept rfl
  | updateRedemptionOfferFee args =>
    unfold execute updateRedemptionOfferFee at h
    rcases updateRedemptionOffer_inv h with ⟨_, _, _, _, rfl⟩
    exact .kept rfl
  | updateRedemptionOfferPropAmmSellFee args =>
    unfold execute updateRedemptionOfferPropAmmSellFee at h
    rcases updateRedemptionOffer_inv h with ⟨_, _, _, _, rfl⟩
    exact .kept rfl
  | updateRedemptionOfferVaultTarget args =>
    unfold execute updateRedemptionOfferVaultTarget at h
    rcases updateRedemptionOffer_inv h with ⟨_, _, _, _, rfl⟩
    exact .kept rfl
  | createRedemptionRequest args =>
    rcases createRedemptionRequest_inv h with ⟨_, _, _, _, _, rfl⟩
    exact .kept rfl
  | cancelRedemptionRequest args =>
    rcases cancelRedemptionRequest_inv h with ⟨_, _, _, _, _, rfl⟩
    exact .kept rfl
  | redemptionVaultDeposit args =>
    rcases redemptionVaultDeposit_inv h with ⟨_, _, _, rfl⟩
    exact .kept rfl
  | redemptionVaultWithdraw args =>
    rcases redemptionVaultWithdraw_inv h with ⟨_, _, _, _, rfl⟩
    exact .kept rfl

theorem Command.execute_bufferStep {command : Command} (h : command.execute clock w = .ok w')
    : BufferStep w w' (command.observe clock w) := by
  cases command with
  | instruction i => exact OnreApp.execute_bufferStep h
  | setMainOffer boss offerKey =>
    rw [setMainOffer_inv h]
    exact .kept rfl

end Accrual

section History

open Run

structure Observed where
  world : World
  -- newest first
  history : List Observation

namespace Observed

variable {s s' : Observed} {commands : List (Clock × Command)} {history : List Observation}
  {o : Observation}

def step (s : Observed) (command : Clock × Command) : Result Observed := do
  let world ← command.2.execute command.1 s.world
  return { world, history := (command.2.observe command.1 s.world).toList ++ s.history }

/-- The accruals from the latest one that found no supply to accrue on. -/
def sinceReset : List Observation → List Observation
  | [] => []
  | o :: history =>
    if o.result.oldPreviousSupply = 0 then [o] else o :: sinceReset history

def maxNav (history : List Observation) : Nat :=
  history.foldr (fun o nav => max o.result.currentNav nav) 0

theorem le_maxNav {o : Observation} (h : o ∈ history) : o.result.currentNav ≤ maxNav history := by
  induction history with
  | nil => cases h
  | cons o' history ih =>
    cases h with
    | head => apply Nat.le_max_left
    | tail _ h => apply Nat.le_trans (ih h) (Nat.le_max_right _ _)

theorem maxNav_sinceReset_cons
    : maxNav (sinceReset (o :: history))
        =
      if o.result.oldPreviousSupply = 0 then o.result.currentNav
      else max o.result.currentNav (maxNav (sinceReset history)) := by
  rw [sinceReset]
  split
  . simp [maxNav]
  . rfl

/-- A fee is minted under the watermark only at a NAV as high as all since the latest reset. -/
def Disciplined (history : List Observation) : Prop :=
  ∀ (newer older : List Observation) (o : Observation), history = newer ++ o :: older →
    o.watermarkEnabled = true → o.result.performanceFeeMintAmount ≠ 0 →
    ∀ o' ∈ sinceReset (o :: older), o'.result.currentNav ≤ o.result.currentNav

theorem Disciplined.cons (h : Disciplined history)
    (hfee : o.watermarkEnabled = true → o.result.performanceFeeMintAmount ≠ 0 →
      ∀ o' ∈ sinceReset (o :: history), o'.result.currentNav ≤ o.result.currentNav)
    : Disciplined (o :: history) := by
  intro newer older o' heq
  cases newer with
  | nil =>
    cases heq
    exact hfee
  | cons _ newer =>
    cases heq
    exact h newer older o' rfl

structure Inv (s : Observed) : Prop where
  fresh : s.history = [] → ∀ (b : BufferState), s.world.bufferState = some b → b.previousSupply = 0
  watermark : s.history ≠ [] → ∃ (b : BufferState), s.world.bufferState = some b ∧
    b.performanceFeeHighWatermark = maxNav (sinceReset s.history)
  disciplined : Disciplined s.history

theorem Inv.init (h : s.world.bufferState = none) (hhistory : s.history = []) : s.Inv where
  fresh := by
    intro _ b hb
    rw [h] at hb
    cases hb
  watermark := fun hne => absurd hhistory hne
  disciplined := by
    rw [hhistory]
    intro newer older o heq
    cases newer <;> cases heq

theorem Inv.step {command : Clock × Command} (h : s.Inv) (hstep : s.step command = .ok s')
    : s'.Inv := by
  simp only [Observed.step, bind_eq_ok, pure_eq_ok] at hstep
  rcases hstep with ⟨w', hexecute, rfl⟩
  have hbuffer := Command.execute_bufferStep hexecute
  generalize command.2.observe command.1 s.world = observed at hbuffer
  cases hbuffer with
  | kept hkept =>
    constructor
    . rw [hkept]
      exact h.fresh
    . rw [hkept]
      exact h.watermark
    . exact h.disciplined
  | initialized hnone hsome hbaseline =>
    -- there is no accrual before there is a buffer
    have hhistory : s.history = [] := by
      cases hhistory : s.history with
      | nil => rfl
      | cons o history =>
        rcases h.watermark (by simp [hhistory]) with ⟨b, hb, _⟩
        rw [hnone] at hb
        cases hb
    constructor
    . intro _ b hb
      rw [hsome, Option.some.injEq] at hb
      rw [← hb]
      exact hbaseline
    . exact fun hne => absurd hhistory hne
    . exact h.disciplined
  | @accrued before after o hbefore hafter henabled hold hwatermark hfee =>
    have htop : before.previousSupply ≠ 0 →
        before.performanceFeeHighWatermark = maxNav (sinceReset s.history) := by
      intro hprevious
      have hne : s.history ≠ [] := fun hnil => hprevious (h.fresh hnil before hbefore)
      rcases h.watermark hne with ⟨b, hb, hb'⟩
      rw [hbefore, Option.some.injEq] at hb
      rw [hb]
      exact hb'
    constructor
    . exact fun hnil => absurd hnil (List.cons_ne_nil _ _)
    . intro _
      refine ⟨after, hafter, ?_⟩
      show _ = maxNav (sinceReset (o :: s.history))
      rw [hwatermark, maxNav_sinceReset_cons, hold]
      split
      . rfl
      . next hprevious =>
        rw [htop hprevious]
        apply Nat.max_comm
    . apply h.disciplined.cons
      intro hon hminted o' ho'
      rw [henabled] at hon
      rcases hfee hon hminted with ⟨hprevious, hle⟩
      rw [sinceReset, hold, if_neg hprevious] at ho'
      cases ho' with
      | head => exact Nat.le_refl _
      | tail _ ho' =>
        apply Nat.le_trans (le_maxNav ho')
        rw [← htop hprevious]
        exact hle

theorem Inv.run (h : s.Inv) (hrun : Run.run Observed.step s commands = .ok s') : s'.Inv :=
  run_inv Inv (fun _ => True) (fun _ _ _ _ h hstep => h.step hstep) (fun _ _ => trivial) h hrun

theorem run_watermark (hnone : w.bufferState = none)
    (hrun : Run.run step { world := w, history := [] } commands = .ok s)
    : (s.history ≠ [] → ∃ (b : BufferState), s.world.bufferState = some b ∧
        b.performanceFeeHighWatermark = maxNav (sinceReset s.history)) ∧
      ∀ (newer older : List Observation) (o : Observation), s.history = newer ++ o :: older →
        o.watermarkEnabled = true → o.result.performanceFeeMintAmount ≠ 0 →
        ∀ o' ∈ sinceReset (o :: older), o'.result.currentNav ≤ o.result.currentNav := by
  have hinv := (Inv.init (s := { world := w, history := [] }) hnone rfl).run hrun
  exact ⟨hinv.watermark, hinv.disciplined⟩

theorem run_watermark_with_fees
    : ∃ (s : Observed) (b : BufferState) (o : Observation) (older : List Observation),
        Run.run step { world := Sample.world, history := [] } Sample.feeRun = .ok s ∧
        s.history = o :: older ∧ o.watermarkEnabled = true ∧
        o.result.performanceFeeMintAmount = 110969 ∧ s.world.bufferState = some b ∧
        b.performanceFeeHighWatermark = maxNav (sinceReset s.history) ∧
        ∀ o' ∈ sinceReset (o :: older), o'.result.currentNav ≤ o.result.currentNav := by
  have hview : (Run.run step { world := Sample.world, history := [] } Sample.feeRun).toOption.bind
      (fun s => s.history.head?.bind fun o =>
        some (o.watermarkEnabled, o.result.performanceFeeMintAmount)) = some (true, 110969) := by
    decide +kernel
  rcases exists_ok_of_view hview with ⟨s, hrun, hview⟩
  rcases Option.bind_eq_some_iff.mp hview with ⟨o, hhead, hfacts⟩
  simp only [Option.some.injEq, Prod.mk.injEq] at hfacts
  rcases List.head?_eq_some_iff.mp hhead with ⟨older, hhistory⟩
  rcases run_watermark rfl hrun with ⟨hwatermark, hdisciplined⟩
  rcases hwatermark (by simp [hhistory]) with ⟨b, hb, hb'⟩
  refine ⟨s, b, o, older, hrun, hhistory, hfacts.1, hfacts.2, hb, hb', ?_⟩
  apply hdisciplined [] older o hhistory hfacts.1
  rw [hfacts.2]
  decide

end Observed

end History

end OnreApp
