import OnreApp.Action.CirculatingSupply
import OnreApp.Action.Governance

namespace OnreApp

open Checked TokenLedger executeTokenOperations

variable {clock : Clock} {w w₁ w₂ : World} {m : Pubkey}

theorem PurchaseV1.eq {args : TakeOfferV1Args} {offer offer' : Offer}
    {tokenInMint tokenInMint' tokenOutMint tokenOutMint' : MintAccount}
    {result result' : OfferProcessResult}
    (h : PurchaseV1 clock w args offer tokenInMint tokenOutMint result)
    (hoffer : w.offers (.offer args.tokenInMint args.tokenOutMint) = some offer')
    (hin : w.loadMint args.tokenInMint = .ok tokenInMint')
    (hout : w.loadMint args.tokenOutMint = .ok tokenOutMint')
    (hresult : processOfferCore clock offer' args.tokenInAmount tokenInMint' tokenOutMint'
      offer'.feeBasisPoints = .ok result')
    : offer' = offer ∧ tokenInMint' = tokenInMint ∧ tokenOutMint' = tokenOutMint ∧
      result' = result := by
  cases h.tradesAt.load.symm.trans hoffer
  cases h.loadIn.symm.trans hin
  cases h.loadOut.symm.trans hout
  cases h.result_eq.symm.trans hresult
  exact ⟨rfl, rfl, rfl, rfl⟩

section Intermediary

variable {state : State} {user : Signer} {tokenInMint tokenOutMint : MintAccount}
  {result : OfferProcessResult} {supply supply' amount : Nat} {k : Pubkey}

-- what passes through the intermediary enters and leaves it, so the sums telescope
theorem throughOps_flow
    (hsplit : amount = result.tokenInFeeAmount + result.tokenInNetAmount)
    : debited k m (tokenOps supply
          (takeOffer.opsParams state user.key user.key tokenInMint tokenOutMint result)) +
        credited k m (throughOps user amount supply' (takeOffer.opsParams state
          .permissionlessAuthority .permissionlessAuthority tokenInMint tokenOutMint result))
        =
      debited k m (throughOps user amount supply' (takeOffer.opsParams state
          .permissionlessAuthority .permissionlessAuthority tokenInMint tokenOutMint result)) +
        credited k m (tokenOps supply
          (takeOffer.opsParams state user.key user.key tokenInMint tokenOutMint result)) := by
  unfold takeOffer.opsParams
  simp only [throughOps, tokenOps, debited_append, credited_append, debited_cons, credited_cons,
    debited_nil, credited_nil, Op.debited, Op.credited, debited_takeOps_eq, credited_takeOps_eq,
    debited_distributeOps_eq, credited_distributeOps_eq]
  simp only [hsplit, Nat.zero_add, Nat.sub_zero, ite_self,
    Nat.add_comm result.tokenInFeeAmount]
  omega

theorem supply_throughOps {l l₁ l₂ : Ledger}
    (h₁ : Performs u64Max l (tokenOps supply
      (takeOffer.opsParams state user.key user.key tokenInMint tokenOutMint result)) l₁)
    (h₂ : Performs u64Max l (throughOps user amount supply' (takeOffer.opsParams state
      .permissionlessAuthority .permissionlessAuthority tokenInMint tokenOutMint result)) l₂)
    : l₂.supply m = l₁.supply m := by
  have hsupply₁ := h₁.supply m
  have hsupply₂ := h₂.supply m
  simp only [throughOps, tokenOps, minted_append, burned_append, minted_cons, burned_cons,
    minted_nil, burned_nil, Op.minted, Op.burned, burned_takeOps_eq, minted_takeOps,
    minted_distributeOps, burned_distributeOps, takeOffer.opsParams] at hsupply₁ hsupply₂
  omega

theorem takeOfferPermissionless_sameLedger {args : TakeOfferV1Args}
    {approvalMessage : Option (Result Unit)} (h₁ : takeOffer clock w args approvalMessage = .ok w₁)
    (h₂ : takeOfferPermissionless clock w args = .ok w₂)
    : w₂ = { w₁ with ledger := w₂.ledger } ∧ w₂.ledger.balance = w₁.ledger.balance ∧
      w₂.ledger.supply = w₁.ledger.supply := by
  rcases takeOffer_inv h₁ with
    ⟨offer, tokenInMint, tokenOutMint, result, _, _, hpurchase, _, hdirect, rfl⟩
  rcases takeOfferPermissionless_inv h₂ with
    ⟨offer', tokenInMint', tokenOutMint', result', _, _, hpurchase', hthrough, rfl⟩
  rcases hpurchase.eq hpurchase'.tradesAt.load hpurchase'.loadIn hpurchase'.loadOut
    hpurchase'.result_eq with ⟨rfl, rfl, rfl, rfl⟩
  refine ⟨rfl, ?_, ?_⟩
  . funext k m
    exact hdirect.balance_eq hthrough (throughOps_flow (processOfferCore_split hpurchase.result_eq))
  . funext m
    exact supply_throughOps hdirect hthrough

end Intermediary

section Trade

def proceeds (ledger : Ledger) (m : Pubkey) : Nat :=
  ledger.balance (.configurableVault .offerProceeds) m +
    ledger.balance (.configurableVault .offerFee) m +
    ledger.balance .redemptionVaultAuthority m

/-- The first version leaves `w₁` behind, the second one `w₂`. -/
structure SameTrade (w w₁ w₂ : World) (user : Signer) : Prop where
  user : ∀ (m : Pubkey), w₂.ledger.balance user.key m = w₁.ledger.balance user.key m
  offerVault : ∀ (m : Pubkey),
    w₂.ledger.balance .offerVaultAuthority m = w₁.ledger.balance .offerVaultAuthority m
  payment : ∀ (m : Pubkey),
    proceeds w₂.ledger m + w.ledger.balance w.state.boss m
      = proceeds w.ledger m + w₁.ledger.balance w.state.boss m
  -- of ONyc the second version mints what the buffer accrues as well
  supply : ∀ (m : Pubkey), m ≠ w.state.onycMint → w₂.ledger.supply m = w₁.ledger.supply m

theorem AccrualStep.balance_eq {mint : MintAccount} {accrual : Option BufferAccrualResult}
    {k : Pubkey} (h : AccrualStep clock w mint accrual w₁) (hk : isAccrualVault k = false)
    : w₁.ledger.balance k m = w.ledger.balance k m := by
  have hbalance := h.performs.balance k m
  rw [AccrualStep.debited_ops, AccrualStep.credited_ops hk] at hbalance
  exact hbalance

theorem AccrualStep.supply_eq {mint : MintAccount} {accrual : Option BufferAccrualResult}
    (h : AccrualStep clock w mint accrual w₁) (hm : m ≠ w.state.onycMint)
    : w₁.ledger.supply m = w.ledger.supply m := by
  have hsupply := h.performs.supply m
  rw [h.minted_ops, AccrualStep.burned_ops] at hsupply
  cases h with
  | none => rfl
  | some _ hmint =>
    rw [hmint, if_neg hm] at hsupply
    exact hsupply

section Flows

variable {params : ExecTokenOpsParams} {k : Pubkey} {supply : Nat} {l l' : Ledger}

theorem credited_tokenOps_not_in (hfee : k ≠ params.tokenInFeeDestinationAccount)
    (hburn : k ≠ params.tokenInBurnAccount) (hproceeds : k ≠ params.tokenInDestinationAccount)
    (hrefill : params.tokenInRefillAmount = 0 ∨
      k ≠ params.tokenInRefillDestinationAccount.getD .default)
    : credited k m (tokenOps supply params)
        =
      if k = params.tokenOutDestinationAccount ∧ m = params.tokenOutMint.key then
        params.tokenOutAmount
      else 0 := by
  rw [tokenOps, credited_append, credited_distributeOps_eq, credited_takeOps_eq]
  rcases hrefill with hnone | hother
  . simp [hfee, hburn, hproceeds, hnone]
  . simp [hfee, hburn, hproceeds, hother]

theorem tokenOps_user (h : Performs u64Max l (tokenOps supply params) l')
    (hsource : k = params.tokenInSourceAccount) (hout : k ≠ params.tokenOutSourceAccount)
    (hfee : k ≠ params.tokenInFeeDestinationAccount) (hburn : k ≠ params.tokenInBurnAccount)
    (hproceeds : k ≠ params.tokenInDestinationAccount)
    (hrefill : params.tokenInRefillAmount = 0 ∨
      k ≠ params.tokenInRefillDestinationAccount.getD .default)
    (hle : params.tokenInRefillAmount ≤ params.tokenInNetAmount)
    (hdestination : k = params.tokenOutDestinationAccount)
    : l'.balance k m + (if m = params.tokenInMint.key then
          params.tokenInNetAmount + params.tokenInFeeAmount else 0)
        =
      l.balance k m + (if m = params.tokenOutMint.key then params.tokenOutAmount else 0) := by
  have hbalance := h.balance k m
  rw [debited_tokenOps_source supply hsource hburn hout hle,
    credited_tokenOps_not_in hfee hburn hproceeds hrefill] at hbalance
  simpa only [hdestination, true_and] using hbalance

theorem tokenOps_vault (h : Performs u64Max l (tokenOps supply params) l')
    (hsource : k ≠ params.tokenInSourceAccount) (hout : k = params.tokenOutSourceAccount)
    (hfee : k ≠ params.tokenInFeeDestinationAccount) (hburn : k = params.tokenInBurnAccount)
    (hproceeds : k ≠ params.tokenInDestinationAccount)
    (hrefill : params.tokenInRefillAmount = 0 ∨
      k ≠ params.tokenInRefillDestinationAccount.getD .default)
    (hdestination : k ≠ params.tokenOutDestinationAccount)
    : l'.balance k m + (if programControlsMint params.tokenOutMint = false ∧
          m = params.tokenOutMint.key then params.tokenOutAmount else 0)
        =
      l.balance k m := by
  have hbalance := h.balance k m
  rw [tokenOps, debited_append, credited_append, debited_distributeOps_eq,
    credited_distributeOps_eq, debited_takeOps_eq, credited_takeOps_eq] at hbalance
  simp only [hsource, hfee, hproceeds, hdestination, ← hburn, ← hout, true_and, false_and,
    if_false, Nat.zero_add, Nat.add_zero] at hbalance
  have hzero : (if k = params.tokenInRefillDestinationAccount.getD .default ∧
      m = params.tokenInMint.key then params.tokenInRefillAmount else 0) = 0 := by
    rcases hrefill with hnone | hother
    . rw [hnone, ite_self]
    . simp [hother]
  rw [hzero] at hbalance
  cases hcontrols : programControlsMint params.tokenInMint <;>
    simp only [hcontrols, Bool.false_eq_true, true_and, false_and, if_true, if_false] at hbalance <;>
    omega

theorem credited_tokenOps_not_out (hdestination : k ≠ params.tokenOutDestinationAccount)
    : credited k m (tokenOps supply params) = credited k m (takeOps params) := by
  rw [tokenOps, credited_append, credited_distributeOps_eq]
  simp [hdestination]

theorem tokenOps_supply (h : Performs u64Max l (tokenOps supply params) l')
    : l'.supply m + (if programControlsMint params.tokenInMint ∧ m = params.tokenInMint.key then
          params.tokenInNetAmount else 0)
        =
      l.supply m + (if programControlsMint params.tokenOutMint ∧ m = params.tokenOutMint.key then
          params.tokenOutAmount else 0) := by
  have hsupply := h.supply m
  rw [minted_tokenOps, tokenOps, burned_append, burned_takeOps_eq, burned_distributeOps] at hsupply
  exact hsupply

end Flows

section First

variable {user boss : Signer} {tokenInMint tokenOutMint : MintAccount}
  {result : OfferProcessResult} {supply : Nat} {state : State} {l l' : Ledger}
  (h : Performs u64Max l (tokenOps supply
    (takeOffer.opsParams state user.key user.key tokenInMint tokenOutMint result)) l')

include h

theorem takeOffer_user (huser : user.key ≠ state.boss)
    : l'.balance user.key m + (if m = tokenInMint.key then
          result.tokenInNetAmount + result.tokenInFeeAmount else 0)
        =
      l.balance user.key m + (if m = tokenOutMint.key then result.tokenOutAmount else 0) :=
  tokenOps_user h rfl (by simp [takeOffer.opsParams, Signer.key]) huser
    (by simp [takeOffer.opsParams, Signer.key]) huser (.inl rfl) (Nat.zero_le _) rfl

theorem takeOffer_vault (hboss : boss.key = state.boss)
    : l'.balance .offerVaultAuthority m + (if programControlsMint tokenOutMint = false ∧
          m = tokenOutMint.key then result.tokenOutAmount else 0)
        =
      l.balance .offerVaultAuthority m := by
  have hvault : .offerVaultAuthority ≠ state.boss := by
    rw [← hboss]
    simp [Signer.key]
  exact tokenOps_vault h (by simp [takeOffer.opsParams, Signer.key]) rfl hvault rfl hvault
    (.inl rfl) (by simp [takeOffer.opsParams, Signer.key])

theorem takeOffer_payment (hboss : boss.key = state.boss) (huser : user.key ≠ state.boss)
    : l'.balance state.boss m
        =
      l.balance state.boss m + (if m = tokenInMint.key then
        result.tokenInFeeAmount + (if programControlsMint tokenInMint then 0 else
          result.tokenInNetAmount) else 0) := by
  have hbalance := h.balance state.boss m
  have hvault : state.boss ≠ .offerVaultAuthority ∧ state.boss ≠ .default := by
    rw [← hboss]
    simp [Signer.key]
  rw [debited_tokenOps huser.symm hvault.1 hvault.1, credited_tokenOps_not_out huser.symm,
    credited_takeOps_eq] at hbalance
  simp only [takeOffer.opsParams, Option.getD_none, hvault, true_and, false_and, if_false,
    Nat.zero_add, Nat.sub_zero, Nat.add_zero] at hbalance
  rw [hbalance]
  split <;> split <;> rfl

theorem takeOffer_supply
    : l'.supply m + (if programControlsMint tokenInMint ∧ m = tokenInMint.key then
          result.tokenInNetAmount else 0)
        =
      l.supply m + (if programControlsMint tokenOutMint ∧ m = tokenOutMint.key then
          result.tokenOutAmount else 0) := tokenOps_supply h

end First

section Second

variable {args : TakeOfferArgs} {tokenInMint tokenOutMint : MintAccount}
  {result : OfferProcessResult} {refill : Option Nat} {supply : Nat} {state : State}
  {l l' : Ledger}
  (h : Performs u64Max l (tokenOps supply
    (takeOfferV2.opsParams state args tokenInMint tokenOutMint result refill)) l')

include h

theorem takeOfferV2_user
    (hrefill : refill.getD 0 ≤ if programControlsMint tokenInMint then 0 else
      result.tokenInNetAmount)
    : l'.balance args.user.key m + (if m = tokenInMint.key then
          result.tokenInNetAmount + result.tokenInFeeAmount else 0)
        =
      l.balance args.user.key m +
        (if m = tokenOutMint.key then result.tokenOutAmount else 0) := by
  apply tokenOps_user h rfl (by simp [takeOfferV2.opsParams, Signer.key])
    (by simp [takeOfferV2.opsParams, Signer.key]) (by simp [takeOfferV2.opsParams, Signer.key])
    (by simp [takeOfferV2.opsParams, Signer.key]) _ _ rfl
  . right
    cases refill <;> simp [takeOfferV2.opsParams, Signer.key]
  . apply Nat.le_trans hrefill
    split <;> simp [takeOfferV2.opsParams]

theorem takeOfferV2_vault
    : l'.balance .offerVaultAuthority m + (if programControlsMint tokenOutMint = false ∧
          m = tokenOutMint.key then result.tokenOutAmount else 0)
        =
      l.balance .offerVaultAuthority m := by
  apply tokenOps_vault h (by simp [takeOfferV2.opsParams, Signer.key]) rfl
    (by simp [takeOfferV2.opsParams]) rfl (by simp [takeOfferV2.opsParams]) _
    (by simp [takeOfferV2.opsParams, Signer.key])
  right
  cases refill <;> simp [takeOfferV2.opsParams]

theorem takeOfferV2_payment
    (hrefill : refill.getD 0 ≤ if programControlsMint tokenInMint then 0 else
      result.tokenInNetAmount)
    : proceeds l' m
        =
      proceeds l m + (if m = tokenInMint.key then
        result.tokenInFeeAmount + (if programControlsMint tokenInMint then 0 else
          result.tokenInNetAmount) else 0) := by
  have hbalance : ∀ (k : Pubkey), k ≠ args.user.key → k ≠ .offerVaultAuthority →
      l'.balance k m = l.balance k m + credited k m (takeOps
        (takeOfferV2.opsParams state args tokenInMint tokenOutMint result refill)) := by
    intro k huser hvault
    have hstep := h.balance k m
    rw [debited_tokenOps huser hvault hvault, credited_tokenOps_not_out huser] at hstep
    exact hstep
  unfold proceeds
  rw [hbalance (.configurableVault .offerProceeds) (by simp [Signer.key]) (by simp),
    hbalance (.configurableVault .offerFee) (by simp [Signer.key]) (by simp),
    hbalance .redemptionVaultAuthority (by simp [Signer.key]) (by simp)]
  simp only [credited_takeOps_eq, takeOfferV2.opsParams]
  cases hcontrols : programControlsMint tokenInMint with
  | true =>
    simp
    omega
  | false =>
    rw [hcontrols, if_neg (by simp)] at hrefill
    cases refill <;> simp at hrefill ⊢ <;> split <;> omega

theorem takeOfferV2_supply
    : l'.supply m + (if programControlsMint tokenInMint ∧ m = tokenInMint.key then
          result.tokenInNetAmount else 0)
        =
      l.supply m + (if programControlsMint tokenOutMint ∧ m = tokenOutMint.key then
          result.tokenOutAmount else 0) := tokenOps_supply h

end Second

theorem takeOffer_sameTrade {args : TakeOfferV1Args} {args' : TakeOfferArgs} {boss : Signer}
    {approvalMessage approvalMessage' : Option (Result Unit)}
    (hargs : args = ⟨args'.user, args'.tokenInMint, args'.tokenOutMint, args'.tokenInAmount⟩)
    (hboss : boss.key = w.state.boss) (huser : args'.user.key ≠ w.state.boss)
    (h₁ : takeOffer clock w args approvalMessage = .ok w₁)
    (h₂ : takeOfferV2 clock w args' approvalMessage' = .ok w₂)
    : SameTrade w w₁ w₂ args'.user := by
  subst hargs
  rcases takeOffer_inv h₁ with
    ⟨offer, tokenInMint, tokenOutMint, result, _, _, hpurchase₁, _, hfirst, rfl⟩
  rcases takeOfferV2_inv h₂ with
    ⟨offer', tokenInMint', tokenOutMint', result', accrual, w₃, _, htrades, hin, hout, hresult,
      hpurchase, _, _, refill, hrefill, rfl⟩
  rcases hpurchase₁.eq htrades.load hin hout hresult with ⟨rfl, rfl, rfl, rfl⟩
  rcases redemptionVaultRefill_inv hrefill with ⟨_, _, hle, _⟩
  have haccrues := hpurchase.step.accrues
  have hsecond := hpurchase.step.performs
  constructor
  . intro m
    have htraded₁ := takeOffer_user (m := m) hfirst huser
    have htraded₂ := takeOfferV2_user (m := m) hsecond hle
    rw [reloadAfterAccrual_key, haccrues.balance_eq rfl] at htraded₂
    exact Nat.add_right_cancel (htraded₂.trans htraded₁.symm)
  . intro m
    have htraded₁ := takeOffer_vault (m := m) hfirst hboss
    have htraded₂ := takeOfferV2_vault (m := m) hsecond
    rw [reloadAfterAccrual_key, programControlsMint_reloadAfterAccrual,
      haccrues.balance_eq rfl] at htraded₂
    exact Nat.add_right_cancel (htraded₂.trans htraded₁.symm)
  . intro m
    have hpaid₁ := takeOffer_payment (m := m) hfirst hboss huser
    have hpaid₂ := takeOfferV2_payment (m := m) hsecond hle
    have hkept : proceeds w₃.ledger m = proceeds w.ledger m := by
      unfold proceeds
      rw [haccrues.balance_eq rfl, haccrues.balance_eq rfl, haccrues.balance_eq rfl]
    dsimp only
    omega
  . intro m hm
    have hsupply₁ := takeOffer_supply (m := m) hfirst
    have hsupply₂ := takeOfferV2_supply (m := m) hsecond
    rw [reloadAfterAccrual_key, programControlsMint_reloadAfterAccrual,
      haccrues.supply_eq hm] at hsupply₂
    exact Nat.add_right_cancel (hsupply₂.trans hsupply₁.symm)

end Trade

section Views

variable {args : ViewArgs}

theorem loadViewedOffer_mint {offer : Offer} {mint : MintAccount}
    (h : loadViewedOffer w args = .ok (offer, mint)) : w.loadMint args.tokenOutMint = .ok mint := by
  simp only [loadViewedOffer, bind_eq_ok, pure_eq_ok] at h
  rcases h with ⟨_, _, _, _, mint', hmint, _, _, hpair⟩
  cases hpair
  exact hmint

variable {onyc : MintAccount} (honyc : w.loadMint w.state.onycMint = .ok onyc)
  (hvault : w.circulatingSupplyExcludedBalance
    = some (w.ledger.balance .offerVaultAuthority w.state.onycMint))

include honyc

theorem readOptionalTokenAccountAmount_ownProgram
    : readOptionalTokenAccountAmount w .offerVaultAuthority onyc onyc.tokenProgram
        =
      w.ledger.balance .offerVaultAuthority w.state.onycMint := by
  unfold readOptionalTokenAccountAmount
  rw [if_pos rfl, (World.loadMint_inv honyc).1]

theorem getCirculatingSupply_otherProgram {tokenProgram : TokenProgram}
    (hother : tokenProgram ≠ onyc.tokenProgram)
    : getCirculatingSupply w tokenProgram = .ok onyc.supply := by
  unfold getCirculatingSupply readOptionalTokenAccountAmount
  rw [honyc, ok_bind, if_neg hother]
  rfl

include hvault

theorem getCirculatingSupply_eq
    : getCirculatingSupply w onyc.tokenProgram = getCirculatingSupplyV2 w := by
  unfold getCirculatingSupply getCirculatingSupplyV2 loadCirculatingSupplyExcludedBalanceAmount
  rw [hvault, Option.getD_some, honyc, ok_bind, ok_bind,
    readOptionalTokenAccountAmount_ownProgram honyc]

theorem getTvl_eq (hargs : args.tokenOutMint = w.state.onycMint)
    : getTvl clock w args onyc.tokenProgram = getTvlV2 clock w args := by
  unfold getTvl getTvlV2 loadCirculatingSupplyExcludedBalanceAmount
  rw [hvault, Option.getD_some]
  cases hload : loadViewedOffer w args with
  | error e => rfl
  | ok viewed =>
    rcases viewed with ⟨offer, mint⟩
    have hmint := loadViewedOffer_mint hload
    rw [hargs, honyc] at hmint
    injection hmint with hmint
    have hpasses : require (mint.key = w.state.onycMint) .invalidOnycMint = .ok () := by
      rw [require_eq_ok, ← hmint]
      exact (World.loadMint_inv honyc).1
    rw [ok_bind, ok_bind]
    dsimp only
    rw [hpasses, ok_bind, ← hmint, readOptionalTokenAccountAmount_ownProgram honyc]

end Views

namespace Sample

def vaultAlone : Vector Pubkey maxCirculatingSupplyExcludedAccounts :=
  (Vector.replicate maxCirculatingSupplyExcludedAccounts .default).set 0 .offerVaultAuthority
    (by decide)

end Sample

namespace Deployment

variable {d d' d₁ d₂ : Deployment} {action : Action} {actions : List (Clock × Action)}
  {boss : Signer} {approvalMessage approvalMessage' : Option (Result Unit)}

theorem Ownership.Step.signer {upgradeAuthority : Option Pubkey} {o o' : Ownership}
    (h : Step upgradeAuthority o action o') (hboss : boss.key = o.boss)
    : ∃ (boss' : Signer), boss'.key = o'.boss := by
  cases h with
  | accept => exact ⟨_, rfl⟩
  | start => exact ⟨_, rfl⟩
  | _ => exact ⟨boss, hboss⟩

theorem run_bossSigner (hboss : boss.key = d.boss) (h : d.run actions = .ok d')
    : ∃ (boss' : Signer), boss'.key = d'.boss := by
  apply Run.run_inv (fun d => ∃ (boss : Signer), boss.key = d.boss) (fun _ => True) _
    (fun _ _ => trivial) ⟨boss, hboss⟩ h
  rintro d₁ d₂ call _ ⟨boss₁, hboss₁⟩ hstep
  exact (perform_ownership hstep).signer hboss₁

theorem perform_sameLedger {args : TakeOfferV1Args}
    (h₁ : d.perform clock (.takeOffer args approvalMessage) = .ok d₁)
    (h₂ : d.perform clock (.takeOfferPermissionless args) = .ok d₂)
    : d₂ = d₁.setLedger d₂.world.ledger ∧
      d₂.world.ledger.balance = d₁.world.ledger.balance ∧
      d₂.world.ledger.supply = d₁.world.ledger.supply := by
  simp only [perform, bind_eq_ok] at h₁ h₂
  rcases h₁ with ⟨_, _, h₁⟩
  rcases h₂ with ⟨_, _, h₂⟩
  rcases inWorld_inv h₁ with ⟨w₁, hw₁, rfl⟩
  rcases inWorld_inv h₂ with ⟨w₂, hw₂, rfl⟩
  rcases takeOfferPermissionless_sameLedger hw₁ hw₂ with ⟨hworld, hbalance, hsupply⟩
  refine ⟨?_, hbalance, hsupply⟩
  unfold setLedger
  dsimp only
  rw [← hworld]

theorem perform_sameLedger_market
    : ∃ (d d₁ d₂ : Deployment),
        Sample.deployment.run Sample.market = .ok d ∧
        d.perform ⟨1200, 0⟩ (.takeOffer ⟨Sample.user, Sample.usdc, Sample.onyc, 50000000⟩ none)
          = .ok d₁ ∧
        d.perform ⟨1200, 0⟩
          (.takeOfferPermissionless ⟨Sample.user, Sample.usdc, Sample.onyc, 50000000⟩) = .ok d₂ ∧
        0 < d₁.world.ledger.balance Sample.boss.key Sample.usdc ∧
        d₂.world.ledger.balance = d₁.world.ledger.balance := by
  have hview : ((Sample.deployment.run Sample.market).toOption.bind fun d =>
      (d.perform ⟨1200, 0⟩
        (.takeOffer ⟨Sample.user, Sample.usdc, Sample.onyc, 50000000⟩ none)).toOption.bind
        fun d₁ => (d.perform ⟨1200, 0⟩ (.takeOfferPermissionless
          ⟨Sample.user, Sample.usdc, Sample.onyc, 50000000⟩)).toOption.bind fun _ =>
            some (decide (0 < d₁.world.ledger.balance Sample.boss.key Sample.usdc)))
      = some true := by decide +kernel
  rcases exists_ok_of_view hview with ⟨d, hrun, hview⟩
  rcases exists_ok_of_view hview with ⟨d₁, h₁, hview⟩
  rcases exists_ok_of_view hview with ⟨d₂, h₂, hpaid⟩
  rw [Option.some.injEq, decide_eq_true_eq] at hpaid
  exact ⟨d, d₁, d₂, hrun, h₁, h₂, hpaid, (perform_sameLedger h₁ h₂).2.1⟩

theorem run_sameTrade {args : TakeOfferArgs} (hboss : boss.key = d.boss)
    (hrun : d.run actions = .ok d') (huser : args.user.key ≠ d'.boss)
    (h₁ : d'.perform clock (.takeOffer ⟨args.user, args.tokenInMint, args.tokenOutMint,
      args.tokenInAmount⟩ approvalMessage) = .ok d₁)
    (h₂ : d'.perform clock (.instruction (.takeOfferV2 args approvalMessage')) = .ok d₂)
    : SameTrade d'.world d₁.world d₂.world args.user := by
  rcases run_bossSigner hboss hrun with ⟨boss', hboss'⟩
  have hw₂ := perform_instruction_inv h₂
  simp only [perform, bind_eq_ok] at h₁
  rcases h₁ with ⟨_, _, h₁⟩
  rcases inWorld_inv h₁ with ⟨w₁, hw₁, rfl⟩
  exact takeOffer_sameTrade rfl hboss' huser hw₁ hw₂

theorem run_sameTrade_market
    : ∃ (d d₁ d₂ : Deployment),
        Sample.deployment.run Sample.market = .ok d ∧
        d.perform ⟨1200, 0⟩ (.takeOffer ⟨Sample.user, Sample.usdc, Sample.onyc, 50000000⟩ none)
          = .ok d₁ ∧
        d.perform ⟨1200, 0⟩ (.instruction Sample.purchase) = .ok d₂ ∧
        0 < d₁.world.ledger.balance Sample.boss.key Sample.usdc ∧
        d₂.world.ledger.balance Sample.boss.key Sample.usdc = 0 ∧
        SameTrade d.world d₁.world d₂.world Sample.user := by
  have hview : ((Sample.deployment.run Sample.market).toOption.bind fun d =>
      (d.perform ⟨1200, 0⟩
        (.takeOffer ⟨Sample.user, Sample.usdc, Sample.onyc, 50000000⟩ none)).toOption.bind
        fun d₁ => (d.perform ⟨1200, 0⟩ (.instruction Sample.purchase)).toOption.bind fun d₂ =>
          some (decide (Sample.user.key ≠ d.boss ∧
            0 < d₁.world.ledger.balance Sample.boss.key Sample.usdc ∧
            d₂.world.ledger.balance Sample.boss.key Sample.usdc = 0))) = some true := by
    decide +kernel
  rcases exists_ok_of_view hview with ⟨d, hrun, hview⟩
  rcases exists_ok_of_view hview with ⟨d₁, h₁, hview⟩
  rcases exists_ok_of_view hview with ⟨d₂, h₂, hfacts⟩
  rw [Option.some.injEq, decide_eq_true_eq] at hfacts
  rcases hfacts with ⟨huser, hpaid, hkept⟩
  have hboss : Sample.boss.key = Sample.deployment.boss := rfl
  exact ⟨d, d₁, d₂, hrun, h₁, h₂, hpaid, hkept, run_sameTrade hboss hrun huser h₁ h₂⟩

theorem perform_excludedAccounts
    (hother : ∀ (boss : Signer) (owners : Vector Pubkey maxCirculatingSupplyExcludedAccounts),
      action ≠ .setCirculatingSupplyExcludedAccounts boss owners)
    (h : d.perform clock action = .ok d') : d'.excludedAccounts = d.excludedAccounts := by
  rcases perform_inv h with ⟨_, heffect⟩ | ⟨_, _⟩
  case inr => rfl
  cases heffect with
  | @excludedAccounts boss owners => exact absurd rfl (hother boss owners)
  | _ => rfl

theorem run_viewVersions {d₃ : Deployment} {signer : Signer} {accounts : List TokenAccountKey}
    {owners : Vector Pubkey maxCirculatingSupplyExcludedAccounts} {clock' : Clock}
    (hvault : activeOwners owners = [.offerVaultAuthority])
    (hset : d.perform clock (.setCirculatingSupplyExcludedAccounts boss owners) = .ok d₁)
    (hrun : d₁.run actions = .ok d₂)
    (hothers : ∀ call ∈ actions, ∀ (boss : Signer)
      (owners : Vector Pubkey maxCirculatingSupplyExcludedAccounts),
      call.2 ≠ .setCirculatingSupplyExcludedAccounts boss owners)
    (hupdate : d₂.perform clock' (.updateCirculatingSupplyExcludedBalance signer accounts)
      = .ok d₃)
    : ∃ (onyc : MintAccount),
        d₃.world.loadMint d₃.world.state.onycMint = .ok onyc ∧
        getCirculatingSupply d₃.world onyc.tokenProgram = getCirculatingSupplyV2 d₃.world ∧
        (∀ (time : Clock) (args : ViewArgs), args.tokenOutMint = d₃.world.state.onycMint →
          getTvl time d₃.world args onyc.tokenProgram = getTvlV2 time d₃.world args) ∧
        ∀ (tokenProgram : TokenProgram), tokenProgram ≠ onyc.tokenProgram →
          getCirculatingSupply d₃.world tokenProgram = .ok onyc.supply := by
  have hstored : d₁.excludedAccounts = some owners := by
    simp only [perform, act, setCirculatingSupplyExcludedAccounts, bind_eq_ok, pure_eq_ok] at hset
    rcases hset with ⟨_, _, _, _, _, _, rfl⟩
    rfl
  have hkept : d₂.excludedAccounts = some owners := by
    apply Run.run_inv (fun d => d.excludedAccounts = some owners) _ _ hothers hstored hrun
    intro t t' call hother hstored' hstep
    rw [perform_excludedAccounts hother hstep]
    exact hstored'
  rcases updateExcludedBalance_inv hupdate with ⟨onyc, owners', honyc, howners', rfl⟩
  rw [hkept, Option.some.injEq] at howners'
  subst howners'
  have hsum : (((activeOwners owners).map fun owner =>
      d₂.world.ledger.balance owner d₂.world.state.onycMint).sum)
      = d₂.world.ledger.balance .offerVaultAuthority d₂.world.state.onycMint := by
    rw [hvault]
    exact Nat.add_zero _
  refine ⟨onyc, honyc, getCirculatingSupply_eq honyc (congrArg some hsum), ?_, ?_⟩
  . intro time args hargs
    exact getTvl_eq honyc (congrArg some hsum) hargs
  . intro tokenProgram hother
    exact getCirculatingSupply_otherProgram honyc hother

theorem run_viewVersions_vault
    : ∃ (d d₁ d₂ d₃ : Deployment),
        Sample.deployment.run Sample.market = .ok d ∧
        d.perform ⟨1200, 0⟩ (.setCirculatingSupplyExcludedAccounts Sample.boss Sample.vaultAlone)
          = .ok d₁ ∧
        d₁.run [(⟨1200, 0⟩, .offerVaultDeposit ⟨Sample.user, Sample.onyc, 5000000000⟩)]
          = .ok d₂ ∧
        d₂.perform ⟨1300, 0⟩ (.updateCirculatingSupplyExcludedBalance Sample.user
          [⟨.offerVaultAuthority, Sample.onyc⟩]) = .ok d₃ ∧
        d₃.world.circulatingSupplyExcludedBalance = some 5000000000 ∧
        ∃ (onyc : MintAccount), d₃.world.loadMint d₃.world.state.onycMint = .ok onyc ∧
          getCirculatingSupply d₃.world onyc.tokenProgram = getCirculatingSupplyV2 d₃.world := by
  have hview : ((Sample.deployment.run Sample.market).toOption.bind fun d =>
      (d.perform ⟨1200, 0⟩ (.setCirculatingSupplyExcludedAccounts Sample.boss
        Sample.vaultAlone)).toOption.bind fun d₁ =>
          (d₁.run [(⟨1200, 0⟩,
            .offerVaultDeposit ⟨Sample.user, Sample.onyc, 5000000000⟩)]).toOption.bind fun d₂ =>
              (d₂.perform ⟨1300, 0⟩ (.updateCirculatingSupplyExcludedBalance Sample.user
                [⟨.offerVaultAuthority, Sample.onyc⟩])).toOption.bind fun d₃ =>
                  d₃.world.circulatingSupplyExcludedBalance) = some 5000000000 := by
    decide +kernel
  rcases exists_ok_of_view hview with ⟨d, hmarket, hview⟩
  rcases exists_ok_of_view hview with ⟨d₁, hset, hview⟩
  rcases exists_ok_of_view hview with ⟨d₂, hrun, hview⟩
  rcases exists_ok_of_view hview with ⟨d₃, hupdate, hstored⟩
  have hvault : activeOwners Sample.vaultAlone = [.offerVaultAuthority] := by decide +kernel
  rcases run_viewVersions hvault hset hrun (by simp) hupdate with ⟨onyc, honyc, hagrees, _⟩
  exact ⟨d, d₁, d₂, d₃, hmarket, hset, hrun, hupdate, hstored, onyc, honyc, hagrees⟩

end Deployment

end OnreApp
