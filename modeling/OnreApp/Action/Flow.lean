import OnreApp.Action
import OnreApp.Lib.LedgerPolicy
import OnreApp.Program.Guards

/-!
`Permitted` is the policy for the operations on the ledger: whose tokens an action may move, and
where to. Every action performs only operations it permits, so what no action does to a balance or a
supply is proved about the policy.
-/

namespace OnreApp

open Checked TokenLedger

variable {clock : Clock} {d : Deployment} {w' : World} {i : Instruction} {signer : Signer}

def Deployment.authorityOf (d : Deployment) (mint : Pubkey) : Option Pubkey :=
  (d.world.mints mint).bind MintInfo.mintAuthority

inductive Deployment.PaysOut (d : Deployment) (signer : Signer) : Pubkey → Prop where
  | caller : PaysOut d signer signer.key
  | vault (kind : ConfigurableVaultKind) : PaysOut d signer (.configurableVault kind)
  | redeemer {key : Pubkey} {request : RedemptionRequest}
      (h : d.world.redemptionRequests.lookup key = some request)
      : PaysOut d signer request.redeemer

inductive Permitted (d : Deployment) (signer : Signer) : LedgerOp → Prop where
  | pay {mint destination : Pubkey} {n : Nat}
      : Permitted d signer (.transfer mint signer.key destination n)
  | passOn {mint destination : Pubkey} {n : Nat}
      : Permitted d signer (.transfer mint .permissionlessAuthority destination n)
  | sell {mint destination : Pubkey} {n : Nat}
      (h : destination = signer.key ∨ destination = .permissionlessAuthority)
      : Permitted d signer (.transfer mint .offerVaultAuthority destination n)
  | redeem {mint destination : Pubkey} {n : Nat} (h : d.PaysOut signer destination)
      : Permitted d signer (.transfer mint .redemptionVaultAuthority destination n)
  | withdrawReserve {mint : Pubkey} {n : Nat} (hboss : signer.key = d.boss)
      : Permitted d signer (.transfer mint .reserveVaultAuthority signer.key n)
  | payOut {mint : Pubkey} {n : Nat} {kind : ConfigurableVaultKind} {vault : ConfigurableVault}
      (hvault : d.configurableVaults kind = some vault)
      (hset : vault.withdrawalDestination ≠ .default)
      : Permitted d signer (.transfer mint (.configurableVault kind) vault.withdrawalDestination n)
  | issue {mint destination : Pubkey} {n supplyAfter : Nat}
      (hauthority : d.authorityOf mint = some .mintAuthority)
      (h : destination = signer.key ∨ destination = .permissionlessAuthority ∨
        isAccrualVault destination = true)
      : Permitted d signer (.mintTo mint destination n supplyAfter)
  | burnPayment {mint source : Pubkey} {n : Nat}
      (hauthority : d.authorityOf mint = some .mintAuthority)
      (h : source = .offerVaultAuthority ∨ source = .redemptionVaultAuthority)
      : Permitted d signer (.burn mint source n)
  | burnReserve {mint : Pubkey} {n : Nat}
      (hauthority : d.authorityOf mint = some .mintAuthority) (hboss : signer.key = d.boss)
      : Permitted d signer (.burn mint .reserveVaultAuthority n)

abbrev Deployment.Follows (d : Deployment) (signer : Signer) (w' : World) : Prop :=
  TokenLedger.Follows u64Max (Permitted d signer) d.world.ledger w'.ledger

theorem authorityOf_of_controls {key : Pubkey} {mint : MintAccount}
    (h : d.world.loadMint key = .ok mint) (hcontrols : programControlsMint mint = true)
    : d.authorityOf mint.key = some .mintAuthority := by
  simp only [World.loadMint, bind_eq_ok, World.load_eq_ok, pure_eq_ok] at h
  rcases h with ⟨info, hinfo, rfl⟩
  simpa [Deployment.authorityOf, hinfo, programControlsMint] using hcontrols

section Ops

theorem mem_transferOps {mint source destination : Pubkey} {n : Nat} {op : LedgerOp}
    (h : op ∈ transferOps mint source destination n)
    : op = .transfer mint source destination n := by
  unfold transferOps at h
  split at h
  . simpa using h
  . cases h

theorem accrueBuffer.mem_mintAllOps {onycMint : Pubkey} {supply : Nat}
    {destinations : List (Pubkey × Nat)} {op : LedgerOp}
    (h : op ∈ mintAllOps onycMint supply destinations)
    : ∃ (destination : Pubkey) (n supplyAfter : Nat), destination ∈ destinations.map Prod.fst ∧
        op = .mintTo onycMint destination n supplyAfter := by
  induction destinations generalizing supply with
  | nil => cases h
  | cons pair rest ih =>
    rcases pair with ⟨destination, n⟩
    unfold mintAllOps at h
    rcases List.mem_append.mp h with h | h
    . split at h
      . rw [List.mem_singleton] at h
        exact ⟨destination, n, _, by simp, h⟩
      . cases h
    . rcases ih h with ⟨destination', n', supplyAfter, hmem, hop⟩
      exact ⟨destination', n', supplyAfter, by simp [hmem], hop⟩

theorem mem_accrualOps {onycMint : Pubkey} {supply : Nat} {accrual : Option BufferAccrualResult}
    {op : LedgerOp} (h : op ∈ AccrualStep.ops onycMint supply accrual)
    : accrual.isSome = true ∧ ∃ (destination : Pubkey) (n supplyAfter : Nat),
        isAccrualVault destination = true ∧ op = .mintTo onycMint destination n supplyAfter := by
  cases accrual with
  | none => cases h
  | some result =>
    rcases accrueBuffer.mem_mintAllOps h with ⟨destination, n, supplyAfter, hmem, hop⟩
    refine ⟨rfl, destination, n, supplyAfter, ?_, hop⟩
    simp only [List.map_cons, List.map_nil, List.mem_cons, List.not_mem_nil, or_false] at hmem
    rcases hmem with rfl | rfl | rfl <;> rfl

theorem tokenOps_permitted {params : ExecTokenOpsParams} {supply : Nat}
    (hsource : params.tokenInSourceAccount = signer.key ∨
      params.tokenInSourceAccount = .permissionlessAuthority)
    (hburn : params.tokenInBurnAccount = .offerVaultAuthority)
    (hvault : params.tokenOutSourceAccount = .offerVaultAuthority)
    (hdestination : params.tokenOutDestinationAccount = signer.key ∨
      params.tokenOutDestinationAccount = .permissionlessAuthority)
    (hin : programControlsMint params.tokenInMint = true →
      d.authorityOf params.tokenInMint.key = some .mintAuthority)
    (hout : programControlsMint params.tokenOutMint = true →
      d.authorityOf params.tokenOutMint.key = some .mintAuthority)
    : ∀ op ∈ tokenOps supply params, Permitted d signer op := by
  have hpay : ∀ (mint destination : Pubkey) (n : Nat),
      Permitted d signer (.transfer mint params.tokenInSourceAccount destination n) := by
    intro mint destination n
    rcases hsource with hsource | hsource
    . rw [hsource]
      exact .pay
    . rw [hsource]
      exact .passOn
  intro op hop
  unfold tokenOps at hop
  rcases List.mem_append.mp hop with hop | hop
  . unfold executeTokenOperations.takeOps at hop
    split at hop
    . next hcontrols =>
      simp only [List.cons_append, List.nil_append, List.mem_cons] at hop
      rcases hop with rfl | rfl | hop
      . exact hpay _ _ _
      . exact .burnPayment (hin hcontrols) (.inl hburn)
      . rw [mem_transferOps hop]
        exact hpay _ _ _
    . simp only [List.mem_append] at hop
      rcases hop with (hop | hop) | hop <;> rw [mem_transferOps hop] <;> exact hpay _ _ _
  . unfold executeTokenOperations.distributeOps at hop
    split at hop
    . next hcontrols =>
      rw [List.mem_singleton.mp hop]
      exact .issue (hout hcontrols) (hdestination.imp_right .inl)
    . rw [List.mem_singleton.mp hop, hvault]
      exact .sell hdestination

theorem redemptionOps_permitted {params : ExecuteRedemptionOpsParams}
    (hin : params.vaultTokenInAccount = .redemptionVaultAuthority)
    (hout : params.vaultTokenOutAccount = .redemptionVaultAuthority)
    (hdestination : d.PaysOut signer params.tokenInDestinationAccount)
    (hfee : d.PaysOut signer params.feeDestinationTokenInAccount)
    (huser : d.PaysOut signer params.userTokenOutAccount)
    (hmint : programControlsMint params.tokenInMint = true →
      d.authorityOf params.tokenInMint.key = some .mintAuthority)
    : ∀ op ∈ redemptionOps params, Permitted d signer op := by
  intro op hop
  simp only [redemptionOps, List.mem_append, List.mem_singleton] at hop
  rcases hop with (rfl | hop) | rfl
  . unfold redemptionNetOp
    split
    . next hcontrols => exact .burnPayment (hmint hcontrols) (.inr hin)
    . rw [hin]
      exact .redeem hdestination
  . rw [mem_transferOps hop, hin]
    exact .redeem hfee
  . rw [hout]
    exact .redeem huser

end Ops

section Instructions

variable {w₁ : World} {mint : MintAccount} {key : Pubkey} {accrual : Option BufferAccrualResult}
  {own : List LedgerOp} {mintedAmount burnedAmount : Nat}

theorem SupplyStep.follows
    (h : SupplyStep clock d.world w₁ w' mint accrual own mintedAmount burnedAmount)
    (hmint : d.world.loadMint key = .ok mint)
    (hcontrols : accrual.isSome = true → programControlsMint mint = true)
    (hown : ∀ op ∈ own, Permitted d signer op) : d.Follows signer w' := by
  refine ⟨_, h.accrues.performs.append h.performs, ?_⟩
  intro op hop
  rcases List.mem_append.mp hop with hop | hop
  . rcases mem_accrualOps hop with ⟨hsome, destination, n, supplyAfter, hvault, rfl⟩
    exact .issue (authorityOf_of_controls hmint (hcontrols hsome)) (.inr (.inr hvault))
  . exact hown op hop

theorem Purchase.follows {tokenInMint : MintAccount} {tokenOutAmount : Nat}
    (h : Purchase clock d.world w₁ w' tokenInMint mint accrual own tokenOutAmount)
    (hmint : d.world.loadMint key = .ok mint) (hown : ∀ op ∈ own, Permitted d signer op)
    : d.Follows signer w' := by
  apply h.step.follows hmint _ hown
  intro hsome
  rw [h.accrual_isSome, shouldAccrueOnycMint, Bool.and_eq_true] at hsome
  exact hsome.2

theorem takeOfferV2_follows {args : TakeOfferArgs} {approvalMessage : Option (Result Unit)}
    (h : takeOfferV2 clock d.world args approvalMessage = .ok w') : d.Follows args.user w' := by
  rcases takeOfferV2_inv h with
    ⟨_, tokenInMint, tokenOutMint, _, _, _, _, _, hin, hout, _, hpurchase, _, _, _, _, rfl⟩
  apply hpurchase.follows hout
  apply tokenOps_permitted (.inl rfl) rfl rfl (.inl rfl)
  . exact authorityOf_of_controls hin
  . simp only [takeOfferV2.opsParams, programControlsMint_reloadAfterAccrual,
      reloadAfterAccrual_key]
    exact authorityOf_of_controls hout

theorem takeOfferPermissionlessV2_follows {args : TakeOfferArgs}
    (h : takeOfferPermissionlessV2 clock d.world args = .ok w') : d.Follows args.user w' := by
  rcases takeOfferPermissionlessV2_inv h with
    ⟨_, tokenInMint, tokenOutMint, _, _, _, _, _, hin, hout, _, hpurchase, _, _, _, rfl⟩
  apply hpurchase.follows hout
  intro op hop
  simp only [throughOps, List.mem_append, List.mem_singleton] at hop
  rcases hop with (rfl | hop) | rfl
  . exact .pay
  . apply tokenOps_permitted (.inr rfl) rfl rfl (.inr rfl) _ _ op hop
    . exact authorityOf_of_controls hin
    . simp only [takeOfferPermissionlessV2.opsParams, programControlsMint_reloadAfterAccrual,
        reloadAfterAccrual_key]
      exact authorityOf_of_controls hout
  . exact .passOn

theorem openSwapBuy_follows {args : OpenSwapArgs} (h : openSwapBuy clock d.world args = .ok w')
    : d.Follows args.user w' := by
  rcases openSwapBuy_inv h with
    ⟨_, tokenInMint, tokenOutMint, _, _, _, _, _, _, hout, _, hpurchase, _, _, _, _, _, rfl⟩
  apply hpurchase.follows hout
  intro op hop
  simp only [openSwapBuy.ops, openSwapBuy.takeOps, List.mem_append, List.mem_singleton] at hop
  rcases hop with (rfl | (hop | hop) | hop) | hop
  . exact .pay
  . rw [mem_transferOps hop]
    exact .passOn
  . rw [mem_transferOps hop]
    exact .passOn
  . rw [mem_transferOps hop]
    exact .passOn
  . unfold openSwapBuy.distributeOps at hop
    rw [programControlsMint_reloadAfterAccrual, reloadAfterAccrual_key] at hop
    split at hop
    . next hcontrols =>
      rw [List.mem_singleton.mp hop]
      exact .issue (authorityOf_of_controls hout hcontrols) (.inl rfl)
    . simp only [List.mem_cons, List.not_mem_nil, or_false] at hop
      rcases hop with rfl | rfl
      . exact .sell (.inr rfl)
      . exact .passOn

theorem openSwapSell_follows {args : OpenSwapArgs} (h : openSwapSell clock d.world args = .ok w')
    : d.Follows args.user w' := by
  rcases openSwapSell_inv h with ⟨_, _, tokenInMint, _, _, _, _, _, _, _, hsale⟩
  apply hsale.step.follows hsale.loadIn
  . intro hsome
    rw [hsale.accrual_isSome, Bool.and_eq_true] at hsome
    exact hsome.1
  . rcases hsale.own_eq with ⟨mint, hkey, hcontrols, rfl⟩
    intro op hop
    rcases List.mem_cons.mp hop with rfl | hop
    . exact .pay
    . apply redemptionOps_permitted rfl rfl (.vault _) (.vault _) .caller _ op hop
      simp only [openSwapSell.opsParams, hkey, hcontrols]
      exact authorityOf_of_controls hsale.loadIn

theorem fulfillRedemptionRequest_follows {args : FulfillRedemptionRequestArgs}
    (h : fulfillRedemptionRequest clock d.world args = .ok w') : d.Follows args.worker w' := by
  rcases fulfillRedemptionRequest_inv h with ⟨_, _, _, _, w₂, _, hloaded, hfulfillment, rfl⟩
  have hfollows : d.Follows args.worker w₂ := by
    apply hfulfillment.step.follows hloaded.mintIn
    . intro haccrual
      rw [hfulfillment.accrual_isSome, Bool.and_eq_true, Bool.and_eq_true] at haccrual
      exact haccrual.1.2
    . apply redemptionOps_permitted rfl rfl (.vault _) (.vault _)
      . simp only [fulfillRedemptionRequest.opsParams, hloaded.redeemer]
        exact .redeemer hloaded.request
      . exact authorityOf_of_controls hloaded.mintIn
  unfold Deployment.Follows
  rw [fulfillRedemptionRequest.storeRequest_ledger]
  exact hfollows

theorem cancelRedemptionRequest_follows {args : CancelRedemptionRequestArgs}
    (h : cancelRedemptionRequest d.world args = .ok w') : d.Follows args.signer w' := by
  rcases cancelRedemptionRequest_inv h with ⟨_, request, _, haccepted, hperforms, rfl⟩
  rw [haccepted.redeemer] at hperforms
  refine ⟨_, hperforms, ?_⟩
  intro op hop
  rw [List.mem_singleton.mp hop]
  exact .redeem (.redeemer haccepted.lookup)

theorem Deployment.Follows.of_ledger (h : w'.ledger = d.world.ledger) : d.Follows signer w' := by
  unfold Deployment.Follows
  rw [h]
  exact .refl _

theorem Deployment.Follows.of_op {op : LedgerOp} (h : Permitted d signer op)
    (hperforms : Performs u64Max d.world.ledger [op] w'.ledger) : d.Follows signer w' := by
  refine ⟨_, hperforms, ?_⟩
  intro op' hop'
  rw [List.mem_singleton.mp hop']
  exact h

theorem execute_follows (h : execute clock d.world i = .ok w') : d.Follows i.signer w' := by
  cases i with
  | takeOfferV2 args approvalMessage => exact takeOfferV2_follows h
  | takeOfferPermissionlessV2 args => exact takeOfferPermissionlessV2_follows h
  | openSwapBuy args => exact openSwapBuy_follows h
  | openSwapSell args => exact openSwapSell_follows h
  | createRedemptionRequest args =>
    rcases createRedemptionRequest_inv h with ⟨_, _, _, _, hperforms, rfl⟩
    exact .of_op .pay hperforms
  | cancelRedemptionRequest args => exact cancelRedemptionRequest_follows h
  | fulfillRedemptionRequest args => exact fulfillRedemptionRequest_follows h
  | redemptionVaultDeposit args =>
    rcases redemptionVaultDeposit_inv h with ⟨_, _, hperforms, rfl⟩
    exact .of_op .pay hperforms
  | redemptionVaultWithdraw args =>
    rcases redemptionVaultWithdraw_inv h with ⟨_, _, _, hperforms, rfl⟩
    exact .of_op (.redeem .caller) hperforms
  | mintTo boss amount =>
    rcases mintTo_inv h with ⟨mint, _, _, haccounts, _, hstep, _⟩
    have hmint := haccounts.loadMint
    apply hstep.follows hmint (fun _ => haccounts.controls)
    intro op hop
    rw [List.mem_singleton.mp hop, ← (World.loadMint_inv hmint).1]
    exact .issue (authorityOf_of_controls hmint haccounts.controls) (.inl rfl)
  | settleBuffer worker =>
    rcases settleBuffer_inv h with ⟨mint, _, _, haccounts, hstep, _⟩
    exact hstep.follows haccounts.loadMint (fun _ => haccounts.controls) (by simp)
  | setBufferGrossApr boss grossYield =>
    rcases setBufferGrossApr_inv h with ⟨mint, _, _, haccounts, hstep, _⟩
    exact hstep.follows haccounts.loadMint (fun _ => haccounts.controls) (by simp)
  | setBufferFeeConfig boss config =>
    rcases setBufferFeeConfig_inv h with ⟨mint, _, _, haccounts, hstep, _⟩
    exact hstep.follows haccounts.loadMint (fun _ => haccounts.controls) (by simp)
  | burnForNavIncrease boss assetAdjustmentAmount =>
    rcases burnForNavIncrease_inv h with ⟨mint, _, _, _, _, haccounts, _, _, _, hstep, _⟩
    have hmint := haccounts.loadMint
    apply hstep.follows hmint (fun _ => haccounts.controls)
    intro op hop
    rw [List.mem_singleton.mp hop, ← (World.loadMint_inv hmint).1]
    exact .burnReserve (authorityOf_of_controls hmint haccounts.controls) haccounts.signer_eq
  | makeOffer => exact .of_ledger (execute_quiet rfl h).ledger
  | vectorCall => exact .of_ledger (execute_quiet rfl h).ledger
  | configurePropAmm => exact .of_ledger (execute_quiet rfl h).ledger
  | makeRedemptionOffer => exact .of_ledger (execute_quiet rfl h).ledger
  | updateRedemptionOfferFee => exact .of_ledger (execute_quiet rfl h).ledger
  | updateRedemptionOfferPropAmmSellFee => exact .of_ledger (execute_quiet rfl h).ledger
  | updateRedemptionOfferVaultTarget => exact .of_ledger (execute_quiet rfl h).ledger
  | initializeBuffer => exact .of_ledger (execute_quiet rfl h).ledger

end Instructions

end OnreApp
