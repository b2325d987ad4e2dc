import OnreApp.Redemption.Lemmas.Accounting

namespace OnreApp

open Checked TokenLedger

variable {clock : Clock} {w w' : World}

def RedemptionRequest.locked (request : RedemptionRequest) : Nat :=
  request.amount - request.fulfilledAmount

def World.locked (w : World) : Nat := Table.total RedemptionRequest.locked w.redemptionRequests

def World.vaultOnyc (w : World) : Nat :=
  w.ledger.balance .redemptionVaultAuthority w.state.onycMint

def World.RedeemsOnyc (w : World) : Prop :=
  ∀ (key : Pubkey) (redemptionOffer : RedemptionOffer),
    w.redemptionOffers key = some redemptionOffer →
      redemptionOffer.tokenInMint = w.state.onycMint ∧
      redemptionOffer.tokenOutMint ≠ w.state.onycMint

def Instruction.KeepsCustody (onycMint : Pubkey) : Instruction → Prop
  | .redemptionVaultWithdraw _ => False
  | .makeRedemptionOffer args => args.tokenOutMint ≠ onycMint
  | _ => True

structure Custody (onycMint : Pubkey) (w : World) : Prop where
  onycMint : w.state.onycMint = onycMint
  redeemsOnyc : w.RedeemsOnyc
  locked_le : w.locked ≤ w.vaultOnyc

structure Backed (w : World) : Prop where
  locked_le : w.locked ≤ w.vaultOnyc
  sell : ∀ (clock : Clock) (args : OpenSwapArgs) (w' : World),
    openSwapSell clock w args = .ok w' → w'.vaultOnyc = w.vaultOnyc
  cancel : ∀ (args : CancelRedemptionRequestArgs),
    cancelRedemptionRequest w args ≠ .error (.token .insufficientFunds)
  -- after the checks and the accrual of a fulfilment, only its payout may lack tokens
  fulfill : ∀ (clock : Clock) (args : FulfillRedemptionRequestArgs)
    (params : FulfillRedemptionRequestParams) (remaining : Nat) (result : RedemptionProcessResult)
    (needed shouldAccrue : Bool) (mainOffer : Option Offer) (accrual : Option BufferAccrualResult)
    (w₁ : World),
    fulfillRedemptionRequest.loadParams w args = .ok params →
    params.request.remaining = .ok remaining → args.amount ≤ remaining →
    processRedemptionCore clock params.offer args.amount params.tokenInMint params.tokenOutMint
      params.redemptionOffer.feeBasisPoints 0 = .ok result →
    loadMainOfferIf needed w = .ok mainOffer →
    accrueIf shouldAccrue clock w mainOffer params.tokenInMint = .ok (accrual, w₁) →
    executeRedemptionOperations w₁.ledger (fulfillRedemptionRequest.opsParams args params result)
      = .error (.token .insufficientFunds) →
    w₁.ledger.balance .redemptionVaultAuthority params.tokenOutMint.key < result.tokenOutAmount

section Offers

theorem World.RedeemsOnyc.setRedemptionOffer (h : w.RedeemsOnyc) {key : Pubkey}
    {redemptionOffer : RedemptionOffer}
    (hin : redemptionOffer.tokenInMint = w.state.onycMint)
    (hout : redemptionOffer.tokenOutMint ≠ w.state.onycMint)
    : (w.setRedemptionOffer key redemptionOffer).RedeemsOnyc := by
  intro k redemptionOffer' hk
  unfold World.setRedemptionOffer at hk ⊢
  dsimp only at hk ⊢
  by_cases heq : k = key
  . rw [heq, Function.update_self, Option.some.injEq] at hk
    rw [← hk]
    exact ⟨hin, hout⟩
  . rw [Function.update_of_ne heq] at hk
    exact h k redemptionOffer' hk

end Offers

theorem openSwapSell_vaultOnyc {args : OpenSwapArgs} (h : openSwapSell clock w args = .ok w')
    : w'.vaultOnyc = w.vaultOnyc := by
  rcases openSwapSell_inv h with ⟨_, _, _, _, _, _, _, _, _, _, hsale⟩
  have hbalance := hsale.step.balance (k := .redemptionVaultAuthority) rfl w.state.onycMint
  rw [hsale.ownDebited, hsale.ownCredited] at hbalance
  unfold World.vaultOnyc
  rw [hsale.marketOnly.state]
  omega

namespace Custody

variable {onycMint : Pubkey} (h : Custody onycMint w)

include h

theorem market {ops : List LedgerOp} (effect : MarketEffect w w' ops)
    (hvault : debited .redemptionVaultAuthority w.state.onycMint ops
      ≤ credited .redemptionVaultAuthority w.state.onycMint ops) : Custody onycMint w' where
  onycMint := by
    rw [effect.state]
    exact h.onycMint
  redeemsOnyc := by
    unfold World.RedeemsOnyc
    rw [effect.state, effect.redemptionOffers]
    exact h.redeemsOnyc
  locked_le := by
    have hle := h.locked_le
    have hbalance := effect.performs.balance .redemptionVaultAuthority w.state.onycMint
    unfold World.locked World.vaultOnyc at hle ⊢
    rw [effect.state, effect.redemptionRequests]
    omega

theorem create {args : CreateRedemptionRequestArgs} (hcreate : createRedemptionRequest w args = .ok w')
    : Custody onycMint w' := by
  rcases createRedemptionRequest_inv hcreate with ⟨_, redemptionOffer, l, haccepted, hperforms, rfl⟩
  rcases h.redeemsOnyc _ _ haccepted.load with ⟨hin, hout⟩
  refine ⟨h.onycMint, h.redeemsOnyc.setRedemptionOffer hin hout, ?_⟩
  have hle := h.locked_le
  have hbalance := hperforms.balance .redemptionVaultAuthority w.state.onycMint
  simp only [debited_cons, credited_cons, debited_nil, credited_nil, Op.debited, Op.credited, hin,
    Signer.key, reduceCtorEq, false_and, and_self, ↓reduceIte] at hbalance
  unfold World.locked World.vaultOnyc at hle ⊢
  dsimp only [World.emit, World.setRedemptionOffer, World.setRedemptionRequest]
  rw [Table.total_insert_of_lookup_eq_none haccepted.free]
  dsimp only [RedemptionRequest.locked]
  omega

theorem cancel {args : CancelRedemptionRequestArgs} (hcancel : cancelRedemptionRequest w args = .ok w')
    : Custody onycMint w' := by
  rcases cancelRedemptionRequest_inv hcancel with
    ⟨redemptionOffer, request, l, haccepted, hperforms, rfl⟩
  rcases h.redeemsOnyc _ _ haccepted.load with ⟨hin, hout⟩
  refine ⟨h.onycMint, h.redeemsOnyc.setRedemptionOffer hin hout, ?_⟩
  have hle := h.locked_le
  have hbalance := hperforms.balance .redemptionVaultAuthority w.state.onycMint
  simp only [debited_cons, credited_cons, debited_nil, credited_nil, Op.debited, hin, and_self,
    ↓reduceIte] at hbalance
  unfold World.locked World.vaultOnyc at hle ⊢
  dsimp only [World.emit, World.setRedemptionOffer, World.closeRedemptionRequest]
  rw [Table.total_eq_of_lookup haccepted.lookup] at hle
  dsimp only [RedemptionRequest.locked] at hle
  omega

theorem fulfill_mints {args : FulfillRedemptionRequestArgs} {params : FulfillRedemptionRequestParams}
    (hloaded : fulfillRedemptionRequest.Loaded w args params)
    : params.tokenInMint.key = w.state.onycMint ∧
      params.tokenOutMint.key ≠ w.state.onycMint := by
  rw [(World.loadMint_inv hloaded.mintIn).1, (World.loadMint_inv hloaded.mintOut).1,
    hloaded.tokenInMint, hloaded.tokenOutMint]
  exact h.redeemsOnyc _ _ hloaded.redemptionOffer

theorem fulfill {args : FulfillRedemptionRequestArgs}
    (hfulfill : fulfillRedemptionRequest clock w args = .ok w') : Custody onycMint w' := by
  rcases fulfillRedemptionRequest_inv hfulfill with
    ⟨params, result, accrual, w₁, w₂, _, hloaded, hfulfillment, rfl⟩
  have hmarket := hfulfillment.marketOnly
  rcases h.fulfill_mints hloaded with ⟨hkeyIn, hkeyOut⟩
  rcases h.redeemsOnyc _ _ hloaded.redemptionOffer with ⟨hin, hout⟩
  have hredeems : w₂.RedeemsOnyc := by
    unfold World.RedeemsOnyc
    rw [hmarket.state, hmarket.redemptionOffers]
    exact h.redeemsOnyc
  rw [← hmarket.state] at hin hout
  generalize hw₃ : World.setRedemptionOffer _ _ _ = w₃
  have hstate : w₃.state = w.state := by
    rw [← hw₃]
    exact hmarket.state
  have hledger : w₃.ledger = w₂.ledger := by rw [← hw₃]; rfl
  have hrequests : w₃.redemptionRequests = w.redemptionRequests := by
    rw [← hw₃]
    exact hmarket.redemptionRequests
  have hredeems : w₃.RedeemsOnyc := by
    rw [← hw₃]
    exact World.RedeemsOnyc.setRedemptionOffer hredeems hin hout
  refine ⟨?_, ?_, ?_⟩
  . rw [fulfillRedemptionRequest.storeRequest_state, hstate]
    exact h.onycMint
  . unfold World.RedeemsOnyc
    rw [fulfillRedemptionRequest.storeRequest_state,
      fulfillRedemptionRequest.storeRequest_redemptionOffers]
    exact hredeems
  . -- net amount and fee leave the vault, together the amount by which the request shrinks
    have hle := h.locked_le
    have hadmissible := hfulfillment.le
    have hfees :=
      calculateFeesWithMinimum_add (processRedemptionCore_inv hfulfillment.result_eq).2.1
    have haccrued :=
      hfulfillment.step.accrues.balance_le .redemptionVaultAuthority w.state.onycMint
    have hbalance :=
      hfulfillment.step.performs.balance .redemptionVaultAuthority w.state.onycMint
    have hdebited : debited .redemptionVaultAuthority w.state.onycMint
        (redemptionOps (fulfillRedemptionRequest.opsParams args params result))
          = result.tokenInNetAmount + result.tokenInFeeAmount :=
      debited_redemptionOps hkeyIn.symm hkeyOut.symm rfl
    have hshrinks : Table.total RedemptionRequest.locked (w.book.storeRequest
        args.redemptionRequest params.request (params.request.fulfilledAmount + args.amount)) +
          args.amount = w.locked := by
      apply Book.total_storeRequest hloaded.request
      . dsimp only [RedemptionRequest.locked]
        omega
      . intro hclosed
        simp [RedemptionRequest.locked, hclosed]
    unfold World.locked at hle hshrinks ⊢
    unfold World.vaultOnyc at hle ⊢
    rw [fulfillRedemptionRequest.storeRequest_state, fulfillRedemptionRequest.storeRequest_ledger,
      fulfillRedemptionRequest.storeRequest_redemptionRequests hrequests, hstate, hledger]
    dsimp only at hfees
    omega

theorem make {args : MakeRedemptionOfferArgs} (hout : args.tokenOutMint ≠ onycMint)
    (hmake : makeRedemptionOffer w args = .ok w') : Custody onycMint w' := by
  rcases makeRedemptionOffer_inv hmake with ⟨haccepted, rfl⟩
  refine ⟨h.onycMint, h.redeemsOnyc.setRedemptionOffer haccepted.onyc ?_, h.locked_le⟩
  rw [h.onycMint]
  exact hout

theorem step {instruction : Instruction} (hkeeps : instruction.KeepsCustody onycMint)
    (hstep : execute clock w instruction = .ok w') : Custody onycMint w' := by
  cases execute_effect hstep with
  | market effect hvault => exact h.market effect hvault
  | withdraw => exact absurd hkeeps id
  | make hmake => exact h.make hkeeps hmake
  | update hkey =>
    rcases h.redeemsOnyc _ _ hkey with ⟨hin, hout⟩
    exact ⟨h.onycMint, h.redeemsOnyc.setRedemptionOffer hin hout, h.locked_le⟩
  | create hcreate => exact h.create hcreate
  | cancel hcancel => exact h.cancel hcancel
  | fulfill hfulfill => exact h.fulfill hfulfill

section Backed

theorem open_le {k : Pubkey} {request : RedemptionRequest}
    (hrequest : w.redemptionRequests.lookup k = some request)
    : request.amount - request.fulfilledAmount ≤ w.vaultOnyc := by
  have hpart : request.locked ≤ w.locked := Table.le_total_of_lookup hrequest
  apply Nat.le_trans hpart h.locked_le

theorem cancel_backed (args : CancelRedemptionRequestArgs)
    : cancelRedemptionRequest w args ≠ .error (.token .insufficientFunds) := by
  intro he
  rcases cancelRedemptionRequest_failsOnlyWith _ he with
    hcheck | ⟨redemptionOffer, request, hkey, hrequest, _, hfails⟩
  . cases hcheck
  rcases hfails with hfails | ⟨tokenInMint, returned, hmint, hreturned, hfails | hfails⟩
  . cases RedemptionRequest.remaining_failsOnlyWith _ hfails
  . have hlack := transferTokens_insufficientFunds hfails
    rw [hmint, (h.redeemsOnyc _ _ hkey).1] at hlack
    rcases RedemptionRequest.remaining_inv hreturned with ⟨_, rfl⟩
    apply Nat.not_lt_of_le (h.open_le hrequest) hlack
  . cases RedemptionOffer.recordCancellation_failsOnlyWith _ hfails

theorem fulfill_backed {args : FulfillRedemptionRequestArgs}
    {params : FulfillRedemptionRequestParams} {result : RedemptionProcessResult}
    {accrual : Option BufferAccrualResult} {w₁ : World}
    (hparams : fulfillRedemptionRequest.loadParams w args = .ok params)
    {remaining : Nat} (hremaining : params.request.remaining = .ok remaining)
    (hle : args.amount ≤ remaining)
    (hresult : processRedemptionCore clock params.offer args.amount params.tokenInMint
      params.tokenOutMint params.redemptionOffer.feeBasisPoints 0 = .ok result)
    (haccrues : AccrualStep clock w params.tokenInMint accrual w₁)
    (hfails : executeRedemptionOperations w₁.ledger
      (fulfillRedemptionRequest.opsParams args params result) = .error (.token .insufficientFunds))
    : w₁.ledger.balance .redemptionVaultAuthority params.tokenOutMint.key
        < result.tokenOutAmount := by
  have hloaded := fulfillRedemptionRequest.loadParams_inv hparams
  rcases h.fulfill_mints hloaded with ⟨hkeyIn, hkeyOut⟩
  have hopen := h.open_le hloaded.request
  have hfees := calculateFeesWithMinimum_add (processRedemptionCore_inv hresult).2.1
  have haccrued := haccrues.balance_le .redemptionVaultAuthority w.state.onycMint
  rcases RedemptionRequest.remaining_inv hremaining with ⟨_, rfl⟩
  unfold World.vaultOnyc at hopen
  dsimp only at hfees
  rw [← hkeyIn] at hopen haccrued hkeyOut
  apply executeRedemptionOperations_insufficientFunds _ hkeyOut.symm hfails
  dsimp only [fulfillRedemptionRequest.opsParams]
  omega

theorem backed : Backed w where
  locked_le := h.locked_le
  sell := fun _ _ _ hsell => openSwapSell_vaultOnyc hsell
  cancel := h.cancel_backed
  fulfill := by
    intro clock args params remaining result needed shouldAccrue mainOffer accrual w₁ hparams
      hremaining hle hresult hmain haccrue
    have haccrues := (accrueIf_inv haccrue (loadMainOfferIf_inv hmain)
      (fun _ => (h.fulfill_mints (fulfillRedemptionRequest.loadParams_inv hparams)).1)).1
    apply h.fulfill_backed hparams hremaining hle hresult haccrues

end Backed

end Custody

/--
From a world without open requests on, whatever instructions are executed except withdrawals from
the redemption vault, every redeemer's tokens are there.
-/
theorem run_custody {w₀ : World} {calls : List Call} (hrequests : w₀.redemptionRequests = ∅)
    (hoffers : w₀.RedeemsOnyc)
    (hcalls : ∀ call ∈ calls, call.2.KeepsCustody w₀.state.onycMint)
    (hrun : runCalls w₀ calls = .ok w) : Backed w := by
  have hinit : Custody w₀.state.onycMint w₀ := by
    refine ⟨rfl, hoffers, ?_⟩
    unfold World.locked
    rw [hrequests, Table.total_empty]
    apply Nat.zero_le _
  have hcustody : Custody w₀.state.onycMint w := by
    apply Run.run_inv (Custody w₀.state.onycMint)
      (fun call => call.2.KeepsCustody w₀.state.onycMint) _ hcalls hinit hrun
    intro w w' call hkeeps h hstep
    exact h.step hkeeps hstep
  exact hcustody.backed

theorem run_custody_partial_fulfillment
    : ∃ (w : World),
        runCalls Sample.world (Sample.launch ++ Sample.redemptions) = .ok w ∧
        w.locked = 30000000000 ∧ w.vaultOnyc = 30000000000 ∧ Backed w := by
  have hview : (runCalls Sample.world (Sample.launch ++ Sample.redemptions)).toOption.bind
      (fun w => some (w.locked, w.vaultOnyc)) = some (30000000000, 30000000000) := by decide +kernel
  have hkeeps : ∀ call ∈ Sample.launch ++ Sample.redemptions,
      call.2.KeepsCustody Sample.world.state.onycMint := by
    simp [Sample.launch, Sample.redemptions, Instruction.KeepsCustody, Sample.world, Sample.onyc,
      Sample.usdc]
  have hoffers : Sample.world.RedeemsOnyc := nofun
  rcases exists_ok_of_view hview with ⟨w, hrun, hbalances⟩
  rw [Option.some.injEq, Prod.mk.injEq] at hbalances
  exact ⟨w, hrun, hbalances.1, hbalances.2, run_custody rfl hoffers hkeeps hrun⟩

end OnreApp
