import OnreApp.Action
import OnreApp.Program.Guards
import OnreApp.Program.Routing

namespace OnreApp

open Checked TokenLedger executeTokenOperations

variable {clock : Clock} {signer : Signer} {w' : World} {m : Pubkey}

def Instruction.payment : Instruction → Option (Pubkey × Nat)
  | .takeOfferV2 args _ => some (args.tokenInMint, args.tokenInAmount)
  | .takeOfferPermissionlessV2 args => some (args.tokenInMint, args.tokenInAmount)
  | .openSwapBuy args => some (args.tokenInMint, args.tokenInAmount)
  | .openSwapSell args => some (args.tokenInMint, args.tokenInAmount)
  | .createRedemptionRequest args => some (args.tokenInMint, args.amount)
  | .redemptionVaultDeposit args => some (args.tokenMint, args.amount)
  | _ => none

def Action.payment (onycMint : Pubkey) : Action → Option (Pubkey × Nat)
  | .instruction i => i.payment
  | .takeOffer args _ => some (args.tokenInMint, args.tokenInAmount)
  | .takeOfferPermissionless args => some (args.tokenInMint, args.tokenInAmount)
  | .offerVaultDeposit args => some (args.tokenMint, args.amount)
  | .depositReserveVault _ amount => some (onycMint, amount)
  | _ => none

def amountIn (m : Pubkey) : Option (Pubkey × Nat) → Nat
  | some (mint, n) => if m = mint then n else 0
  | none => 0

structure Charged (l l' : Ledger) (signer : Signer) (payment : Option (Pubkey × Nat)) : Prop where
  signer : ∀ (m : Pubkey),
    l.balance signer.key m ≤ l'.balance signer.key m + amountIn m payment
  intermediary : ∀ (m : Pubkey),
    l.balance .permissionlessAuthority m ≤ l'.balance .permissionlessAuthority m

section Ops

theorem Charged.of_ops {l l' : Ledger} {payment : Option (Pubkey × Nat)} {ops : List LedgerOp}
    (h : Performs u64Max l ops l')
    (hsigner : ∀ (m : Pubkey), debited signer.key m ops ≤ amountIn m payment)
    (hintermediary : ∀ (m : Pubkey),
      debited .permissionlessAuthority m ops ≤ credited .permissionlessAuthority m ops)
    : Charged l l' signer payment where
  signer := by
    intro m
    have hbalance := h.balance signer.key m
    have hle := hsigner m
    omega
  intermediary := by
    intro m
    have hbalance := h.balance .permissionlessAuthority m
    have hle := hintermediary m
    omega

theorem Charged.of_ledger {payment : Option (Pubkey × Nat)} {l l' : Ledger} (h : l' = l)
    : Charged l l' signer payment := by
  rw [h]
  exact ⟨fun _ => Nat.le_add_right _ _, fun _ => Nat.le_refl _⟩

variable {params : ExecTokenOpsParams} {k : Pubkey}

theorem debited_tokenOps_source (supply : Nat) (hsource : k = params.tokenInSourceAccount)
    (hburn : k ≠ params.tokenInBurnAccount) (hout : k ≠ params.tokenOutSourceAccount)
    (hrefill : params.tokenInRefillAmount ≤ params.tokenInNetAmount)
    : debited k m (tokenOps supply params)
        =
      if m = params.tokenInMint.key then params.tokenInNetAmount + params.tokenInFeeAmount
      else 0 := by
  subst hsource
  simp only [tokenOps, debited_append, debited_takeOps_eq, debited_distributeOps hout, hburn,
    true_and, false_and, and_false, if_false, Nat.add_zero]
  split
  . split <;> omega
  . rfl

theorem credited_tokenOps_destination (supply : Nat)
    (hdestination : k = params.tokenOutDestinationAccount)
    : (if m = params.tokenOutMint.key then params.tokenOutAmount else 0)
        ≤ credited k m (tokenOps supply params) := by
  rw [tokenOps, credited_append, credited_distributeOps_eq]
  simp only [hdestination, true_and]
  omega

theorem throughOps_charged {l l' : Ledger} {user : Signer} {amount supply : Nat}
    (h : Performs u64Max l (throughOps user amount supply params) l')
    (hsource : params.tokenInSourceAccount = .permissionlessAuthority)
    (hburn : params.tokenInBurnAccount = .offerVaultAuthority)
    (hout : params.tokenOutSourceAccount = .offerVaultAuthority)
    (hdestination : params.tokenOutDestinationAccount = .permissionlessAuthority)
    (hrefill : params.tokenInRefillAmount ≤ params.tokenInNetAmount)
    (hsplit : amount = params.tokenInFeeAmount + params.tokenInNetAmount)
    : Charged l l' user (some (params.tokenInMint.key, amount)) := by
  apply Charged.of_ops h
  . intro m
    simp only [throughOps, debited_append, debited_cons, debited_nil, Op.debited]
    rw [debited_tokenOps (by simp [hsource, Signer.key]) (by simp [hburn, Signer.key])
      (by simp [hout, Signer.key])]
    simp [amountIn, Signer.key]
  . intro m
    have hpaid := debited_tokenOps_source (m := m) supply hsource.symm (by simp [hburn])
      (by simp [hout]) hrefill
    have hreceived := credited_tokenOps_destination (m := m) supply hdestination.symm
    simp only [throughOps, debited_append, credited_append, debited_cons, debited_nil,
      credited_cons, credited_nil, Op.debited, Op.credited, hpaid, Signer.key]
    simp only [reduceCtorEq, false_and, true_and, if_false]
    split <;> omega

theorem tokenOps_charged {l l' : Ledger} {user : Signer} {amount supply : Nat}
    (h : Performs u64Max l (tokenOps supply params) l')
    (hsource : params.tokenInSourceAccount = user.key)
    (hburn : params.tokenInBurnAccount = .offerVaultAuthority)
    (hout : params.tokenOutSourceAccount = .offerVaultAuthority)
    (hrefill : params.tokenInRefillAmount ≤ params.tokenInNetAmount)
    (hsplit : amount = params.tokenInFeeAmount + params.tokenInNetAmount)
    : Charged l l' user (some (params.tokenInMint.key, amount)) := by
  apply Charged.of_ops h
  . intro m
    rw [debited_tokenOps_source supply hsource.symm (by simp [hburn, Signer.key])
      (by simp [hout, Signer.key]) hrefill]
    simp only [amountIn]
    split <;> omega
  . intro m
    rw [debited_tokenOps (by simp [hsource, Signer.key]) (by simp [hburn]) (by simp [hout])]
    exact Nat.zero_le _

theorem transferTokens_charged {source destination key : Pubkey} {mint : MintAccount} {n : Nat}
    {l l' : Ledger} {payment : Option (Pubkey × Nat)} (hkey : mint.key = key)
    (h : transferTokens l mint source destination n = .ok l')
    (hsource : source ≠ .permissionlessAuthority)
    (hpayment : source = signer.key → payment = some (key, n))
    : Charged l l' signer payment := by
  apply Charged.of_ops (transferTokens_performs h)
  . intro m
    simp only [debited_cons, debited_nil, Op.debited, hkey]
    split
    . next heq =>
      rw [hpayment heq.1.symm, amountIn, if_pos heq.2]
      exact Nat.le_refl _
    . exact Nat.zero_le _
  . intro m
    simp [Op.debited, hsource.symm]

end Ops

section Instructions

variable {w w₁ : World} {mint : MintAccount} {accrual : Option BufferAccrualResult}
  {own : List LedgerOp} {mintedAmount burnedAmount : Nat} {payment : Option (Pubkey × Nat)}

-- the accrual only mints, so it can come before anything
theorem SupplyStep.charged
    (h : SupplyStep clock w w₁ w' mint accrual own mintedAmount burnedAmount)
    (hown : Charged w₁.ledger w'.ledger signer payment)
    : Charged w.ledger w'.ledger signer payment where
  signer := by
    intro m
    exact Nat.le_trans (h.accrues.balance_le signer.key m) (hown.signer m)
  intermediary := by
    intro m
    exact Nat.le_trans (h.accrues.balance_le .permissionlessAuthority m) (hown.intermediary m)

theorem Purchase.charged {tokenInMint tokenOutMint : MintAccount} {tokenIn : Pubkey}
    {offer : Offer} {amount feeBasisPoints : Nat} {result : OfferProcessResult}
    (h : Purchase clock w w₁ w' tokenInMint tokenOutMint accrual own result.tokenOutAmount)
    (hin : w.loadMint tokenIn = .ok tokenInMint)
    (hresult : processOfferCore clock offer amount tokenInMint tokenOutMint feeBasisPoints
      = .ok result)
    (hown : amount = result.tokenInFeeAmount + result.tokenInNetAmount →
      Charged w₁.ledger w'.ledger signer (some (tokenInMint.key, amount)))
    : Charged w.ledger w'.ledger signer (some (tokenIn, amount)) := by
  rw [← (World.loadMint_inv hin).1]
  exact h.step.charged (hown (processOfferCore_split hresult))

theorem redemptionVaultRefill_le {offerKey account : Pubkey} {tokenInMint tokenOutMint : MintAccount}
    {net : Nat} {refill : Option Nat}
    (h : redemptionVaultRefill w offerKey account tokenInMint tokenOutMint net = .ok refill)
    : refill.getD 0 ≤ net := by
  rcases redemptionVaultRefill_inv h with ⟨_, _, hle, _⟩
  split at hle
  . exact Nat.le_trans hle (Nat.zero_le _)
  . exact hle

theorem takeOfferV2_charged {args : TakeOfferArgs} {approvalMessage : Option (Result Unit)}
    (h : takeOfferV2 clock w args approvalMessage = .ok w')
    : Charged w.ledger w'.ledger args.user (some (args.tokenInMint, args.tokenInAmount)) := by
  rcases takeOfferV2_inv h with
    ⟨_, _, _, _, _, _, _, _, hin, _, hresult, hpurchase, _, _, _, hrefill, rfl⟩
  apply hpurchase.charged hin hresult
  exact tokenOps_charged hpurchase.step.performs rfl rfl rfl (redemptionVaultRefill_le hrefill)

theorem takeOfferPermissionlessV2_charged {args : TakeOfferArgs}
    (h : takeOfferPermissionlessV2 clock w args = .ok w')
    : Charged w.ledger w'.ledger args.user (some (args.tokenInMint, args.tokenInAmount)) := by
  rcases takeOfferPermissionlessV2_inv h with
    ⟨_, _, _, _, _, _, _, _, hin, _, hresult, hpurchase, _, _, hrefill, rfl⟩
  apply hpurchase.charged hin hresult
  exact throughOps_charged hpurchase.step.performs rfl rfl rfl rfl
    (redemptionVaultRefill_le hrefill)

theorem openSwapBuy_charged {args : OpenSwapArgs} (h : openSwapBuy clock w args = .ok w')
    : Charged w.ledger w'.ledger args.user (some (args.tokenInMint, args.tokenInAmount)) := by
  rcases openSwapBuy_inv h with
    ⟨_, tokenInMint, _, result, _, _, _, _, hin, _, hresult, hpurchase, _, _, refill, _, hrefill,
      rfl⟩
  have hle := (calculateRedemptionVaultRefillAmount_inv hrefill).1
  apply hpurchase.charged hin hresult
  intro hsplit
  apply Charged.of_ops hpurchase.step.performs
  . intro m
    unfold openSwapBuy.ops openSwapBuy.takeOps openSwapBuy.distributeOps
    split <;> simp [Op.debited, Signer.key, amountIn]
  . intro m
    unfold openSwapBuy.ops openSwapBuy.takeOps openSwapBuy.distributeOps
    split
    all_goals
      simp only [debited_append, credited_append, debited_cons, credited_cons, debited_nil,
        credited_nil, debited_transferOps, credited_transferOps, Op.debited, Op.credited, Signer.key,
        reduceCtorEq, false_and, true_and, if_false]
      split <;> omega

theorem openSwapSell_charged {args : OpenSwapArgs} (h : openSwapSell clock w args = .ok w')
    : Charged w.ledger w'.ledger args.user (some (args.tokenInMint, args.tokenInAmount)) := by
  rcases openSwapSell_inv h with ⟨_, _, tokenInMint, _, _, _, _, _, _, _, hsale⟩
  apply hsale.step.charged
  rcases hsale.own_eq with ⟨mint, hkey, _, hown⟩
  have hperforms := hsale.step.performs
  rw [hown] at hperforms
  apply Charged.of_ops hperforms
  . intro m
    rw [openSwapSell.debited_user, hkey, (World.loadMint_inv hsale.loadIn).1]
    exact Nat.le_refl _
  . intro m
    unfold openSwapSell.ops redemptionOps redemptionNetOp
    split <;> simp [openSwapSell.opsParams, Op.debited, Signer.key]

theorem fulfillRedemptionRequest_charged {args : FulfillRedemptionRequestArgs}
    (h : fulfillRedemptionRequest clock w args = .ok w')
    : Charged w.ledger w'.ledger args.worker none := by
  rcases fulfillRedemptionRequest_inv h with ⟨_, _, _, _, _, _, _, hfulfillment, rfl⟩
  rw [fulfillRedemptionRequest.storeRequest_ledger]
  apply hfulfillment.step.charged
  apply Charged.of_ops hfulfillment.step.performs
  . intro m
    unfold redemptionOps redemptionNetOp
    split <;> simp [fulfillRedemptionRequest.opsParams, Op.debited, Signer.key]
  . intro m
    unfold redemptionOps redemptionNetOp
    split <;> simp [fulfillRedemptionRequest.opsParams, Op.debited]

theorem execute_charged {i : Instruction} (h : execute clock w i = .ok w')
    : Charged w.ledger w'.ledger i.signer i.payment := by
  cases i with
  | takeOfferV2 args approvalMessage => exact takeOfferV2_charged h
  | takeOfferPermissionlessV2 args => exact takeOfferPermissionlessV2_charged h
  | openSwapBuy args => exact openSwapBuy_charged h
  | openSwapSell args => exact openSwapSell_charged h
  | createRedemptionRequest args =>
    rcases createRedemptionRequest_inv h with ⟨_, _, _, haccepted, hperforms, rfl⟩
    rw [← haccepted.tokenInMint] at hperforms
    apply Charged.of_ops hperforms <;> intro m <;>
      simp [Op.debited, Instruction.signer, Instruction.payment, Signer.key, amountIn]
  | cancelRedemptionRequest args =>
    rcases cancelRedemptionRequest_inv h with ⟨_, _, _, _, hperforms, rfl⟩
    apply Charged.of_ops hperforms <;> intro m <;> simp [Op.debited, Signer.key]
  | fulfillRedemptionRequest args => exact fulfillRedemptionRequest_charged h
  | redemptionVaultDeposit args =>
    rcases redemptionVaultDeposit_inv h with ⟨_, _, hperforms, rfl⟩
    apply Charged.of_ops hperforms <;> intro m <;>
      simp [Op.debited, Instruction.signer, Instruction.payment, Signer.key, amountIn]
  | redemptionVaultWithdraw args =>
    rcases redemptionVaultWithdraw_inv h with ⟨_, _, _, hperforms, rfl⟩
    apply Charged.of_ops hperforms <;> intro m <;> simp [Op.debited, Signer.key]
  | mintTo boss amount =>
    rcases mintTo_inv h with ⟨_, _, _, _, _, hstep, _⟩
    apply hstep.charged
    apply Charged.of_ops hstep.performs <;> intro m <;> simp [Op.debited]
  | settleBuffer worker =>
    rcases settleBuffer_inv h with ⟨_, _, _, _, hstep, _⟩
    apply hstep.charged
    apply Charged.of_ops hstep.performs <;> intro m <;> simp
  | setBufferGrossApr boss grossYield =>
    rcases setBufferGrossApr_inv h with ⟨_, _, _, _, hstep, _⟩
    apply hstep.charged
    apply Charged.of_ops hstep.performs <;> intro m <;> simp
  | setBufferFeeConfig boss config =>
    rcases setBufferFeeConfig_inv h with ⟨_, _, _, _, hstep, _⟩
    apply hstep.charged
    apply Charged.of_ops hstep.performs <;> intro m <;> simp
  | burnForNavIncrease boss assetAdjustmentAmount =>
    rcases burnForNavIncrease_inv h with ⟨_, _, _, _, _, _, _, _, _, hstep, _⟩
    apply hstep.charged
    apply Charged.of_ops hstep.performs <;> intro m <;> simp [Op.debited, Signer.key]
  | makeOffer => exact .of_ledger (execute_quiet rfl h).ledger
  | vectorCall => exact .of_ledger (execute_quiet rfl h).ledger
  | configurePropAmm => exact .of_ledger (execute_quiet rfl h).ledger
  | makeRedemptionOffer => exact .of_ledger (execute_quiet rfl h).ledger
  | updateRedemptionOfferFee => exact .of_ledger (execute_quiet rfl h).ledger
  | updateRedemptionOfferPropAmmSellFee => exact .of_ledger (execute_quiet rfl h).ledger
  | updateRedemptionOfferVaultTarget => exact .of_ledger (execute_quiet rfl h).ledger
  | initializeBuffer => exact .of_ledger (execute_quiet rfl h).ledger

end Instructions

end OnreApp
