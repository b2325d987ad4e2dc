import OnreApp.Buffer.Lemmas.Supply
import OnreApp.PropAmm.Lemmas.Swap
import OnreApp.Program
import OnreApp.Redemption.Lemmas.Requests

namespace OnreApp

open Checked TokenLedger

variable {clock : Clock} {w w' : World}

theorem executeMakeOffer_inv {args : MakeOfferArgs} (h : executeMakeOffer w args = .ok w')
    : args.boss.key = w.state.boss ∧ w.offers (.offer args.tokenInMint args.tokenOutMint) = none ∧
      ∃ (offer : Offer),
        makeOffer args.tokenInMint args.tokenOutMint args.feeBasisPoints args.needsApproval
          args.allowPermissionless = .ok offer ∧
        w' = w.setOffer (.offer args.tokenInMint args.tokenOutMint) offer := by
  simp only [executeMakeOffer, bind_eq_ok, require_eq_ok, pure_eq_ok] at h
  rcases h with ⟨_, hin, _, hout, _, hfree, _, hboss, offer, hmake, rfl⟩
  rw [(World.loadMint_inv hin).1, (World.loadMint_inv hout).1] at *
  exact ⟨hboss, hfree, offer, hmake, rfl⟩

theorem executeVectorCall_inv {args : VectorCallArgs} (h : executeVectorCall clock w args = .ok w')
    : args.boss.key = w.state.boss ∧ ∃ (offer offer' : Offer),
        w.offers (.offer args.tokenInMint args.tokenOutMint) = some offer ∧
        offer.call clock.time args.call = .ok offer' ∧
        w' = w.setOffer (.offer args.tokenInMint args.tokenOutMint) offer' := by
  simp only [executeVectorCall, bind_eq_ok, require_eq_ok, World.load_eq_ok, pure_eq_ok] at h
  rcases h with ⟨offer, hload, _, _, _, _, _, _, _, hboss, offer', hcall, rfl⟩
  exact ⟨hboss, offer, offer', hload, hcall, rfl⟩

theorem configurePropAmm_inv {boss : Signer} {assetMint : Pubkey} {config : PropAmmConfig}
    (h : configurePropAmm clock w boss assetMint config = .ok w')
    : boss.key = w.state.boss ∧ ∃ (propAmmPairStates : Pubkey → Option PropAmmPairState),
        w' = { w with propAmmPairStates } := by
  simp only [configurePropAmm, bind_eq_ok, require_eq_ok, pure_eq_ok] at h
  rcases h with ⟨_, hboss, _, _, _, _, _, _, _, _, rfl⟩
  exact ⟨hboss, _, rfl⟩

theorem initializeBuffer_inv {boss : Signer} (h : initializeBuffer clock w boss = .ok w')
    : boss.key = w.state.boss ∧ w.bufferState = none ∧
      ∃ (bufferState : BufferState), bufferState.previousSupply = 0 ∧
        w' = { w with bufferState := some bufferState } := by
  simp only [initializeBuffer, bind_eq_ok, require_eq_ok, pure_eq_ok] at h
  rcases h with ⟨_, hboss, _, hnone, _, _, _, _, _, _, rfl⟩
  exact ⟨hboss, hnone, _, rfl, rfl⟩

theorem redemptionVaultDeposit_inv {args : RedemptionVaultArgs}
    (h : redemptionVaultDeposit w args = .ok w')
    : w.state.isKilled = false ∧ ∃ (l : Ledger),
        Performs u64Max w.ledger
          [.transfer args.tokenMint args.signer.key .redemptionVaultAuthority args.amount] l ∧
        w' = { w with ledger := l } := by
  simp only [redemptionVaultDeposit, World.requireNotKilled, bind_eq_ok, require_eq_ok,
    pure_eq_ok] at h
  rcases h with ⟨mint, hmint, _, hkilled, _, _, l, htransfer, rfl⟩
  have hperforms := transferTokens_performs htransfer
  rw [(World.loadMint_inv hmint).1] at hperforms
  exact ⟨hkilled, l, hperforms, rfl⟩

theorem redemptionVaultWithdraw_inv {args : RedemptionVaultArgs}
    (h : redemptionVaultWithdraw w args = .ok w')
    : args.signer.key = w.state.boss ∧ w.state.isKilled = false ∧ ∃ (l : Ledger),
        Performs u64Max w.ledger
          [.transfer args.tokenMint .redemptionVaultAuthority args.signer.key args.amount] l ∧
        w' = { w with ledger := l } := by
  simp only [redemptionVaultWithdraw, World.requireNotKilled, bind_eq_ok, require_eq_ok,
    pure_eq_ok] at h
  rcases h with ⟨mint, hmint, _, hboss, _, hkilled, _, _, l, htransfer, rfl⟩
  have hperforms := transferTokens_performs htransfer
  rw [(World.loadMint_inv hmint).1] at hperforms
  exact ⟨hboss, hkilled, l, hperforms, rfl⟩

structure MarketEffect (w w' : World) (ops : List LedgerOp) : Prop where
  state : w'.state = w.state
  redemptionOffers : w'.redemptionOffers = w.redemptionOffers
  redemptionRequests : w'.redemptionRequests = w.redemptionRequests
  events : w'.events = w.events
  performs : Performs u64Max w.ledger ops w'.ledger
  withinCaps : WithinCaps w.state ops

inductive Effect (clock : Clock) (w : World) : Instruction → World → Prop where
  | market {instruction : Instruction} {w' : World} {ops : List LedgerOp}
      (effect : MarketEffect w w' ops)
      (vault : debited .redemptionVaultAuthority w.state.onycMint ops
        ≤ credited .redemptionVaultAuthority w.state.onycMint ops)
      : Effect clock w instruction w'
  | withdraw {args : RedemptionVaultArgs} {w' : World} {ops : List LedgerOp}
      (effect : MarketEffect w w' ops) : Effect clock w (.redemptionVaultWithdraw args) w'
  | make {args : MakeRedemptionOfferArgs} {w' : World} (h : makeRedemptionOffer w args = .ok w')
      : Effect clock w (.makeRedemptionOffer args) w'
  | update {instruction : Instruction} {key : Pubkey} {redemptionOffer : RedemptionOffer}
      {feeBasisPoints vaultTargetBps feeBasisPointsPropAmmSell : Nat}
      (h : w.redemptionOffers key = some redemptionOffer)
      : Effect clock w instruction (w.setRedemptionOffer key {
          redemptionOffer with feeBasisPoints, vaultTargetBps, feeBasisPointsPropAmmSell })
  | create {args : CreateRedemptionRequestArgs} {w' : World}
      (h : createRedemptionRequest w args = .ok w') : Effect clock w (.createRedemptionRequest args) w'
  | cancel {args : CancelRedemptionRequestArgs} {w' : World}
      (h : cancelRedemptionRequest w args = .ok w') : Effect clock w (.cancelRedemptionRequest args) w'
  | fulfill {args : FulfillRedemptionRequestArgs} {w' : World}
      (h : fulfillRedemptionRequest clock w args = .ok w')
      : Effect clock w (.fulfillRedemptionRequest args) w'

section Effect

theorem MarketEffect.of_no_ops (hstate : w'.state = w.state)
    (hoffers : w'.redemptionOffers = w.redemptionOffers)
    (hrequests : w'.redemptionRequests = w.redemptionRequests) (hevents : w'.events = w.events)
    (hledger : w'.ledger = w.ledger) : MarketEffect w w' [] where
  state := hstate
  redemptionOffers := hoffers
  redemptionRequests := hrequests
  events := hevents
  performs := by
    rw [hledger]
    exact .nil _
  withinCaps := .of_no_mints fun _ => rfl

theorem MarketEffect.of_transfer {l : Ledger} {mint source destination : Pubkey} {n : Nat}
    (h : Performs u64Max w.ledger [.transfer mint source destination n] l)
    : MarketEffect w { w with ledger := l } [.transfer mint source destination n] where
  state := rfl
  redemptionOffers := rfl
  redemptionRequests := rfl
  events := rfl
  performs := h
  withinCaps := .of_no_mints fun _ => by simp [Op.mints]

variable {w₁ : World} {mint : MintAccount} {key : Pubkey} {accrual : Option BufferAccrualResult}
  {own : List LedgerOp} {mintedAmount burnedAmount : Nat}

theorem SupplyStep.marketEffect
    (h : SupplyStep clock w w₁ w' mint accrual own mintedAmount burnedAmount)
    (hmarket : MarketOnly w w') (hmint : w.loadMint key = .ok mint)
    : MarketEffect w w' (AccrualStep.ops mint.key (w.ledger.supply mint.key) accrual ++ own) where
  state := hmarket.state
  redemptionOffers := hmarket.redemptionOffers
  redemptionRequests := hmarket.redemptionRequests
  events := hmarket.events
  performs := h.accrues.performs.append h.performs
  withinCaps := h.withinCaps (World.loadMint_supply hmint)

theorem SupplyStep.effect {instruction : Instruction}
    (h : SupplyStep clock w w₁ w' mint accrual own mintedAmount burnedAmount)
    (hmarket : MarketOnly w w') (hmint : w.loadMint key = .ok mint)
    (hvault : debited .redemptionVaultAuthority w.state.onycMint own
      ≤ credited .redemptionVaultAuthority w.state.onycMint own)
    : Effect clock w instruction w' := by
  apply Effect.market (h.marketEffect hmarket hmint)
  rw [debited_append, credited_append, AccrualStep.debited_ops]
  omega

theorem Purchase.effect {instruction : Instruction} {tokenInMint : MintAccount}
    {tokenOutAmount : Nat}
    (h : Purchase clock w w₁ w' tokenInMint mint accrual own tokenOutAmount)
    (hmint : w.loadMint key = .ok mint) : Effect clock w instruction w' := by
  apply h.step.effect h.marketOnly hmint
  rw [h.ownDebited]
  apply Nat.zero_le _

theorem execute_effect {instruction : Instruction} (h : execute clock w instruction = .ok w')
    : Effect clock w instruction w' := by
  cases instruction with
  | makeOffer args =>
    rcases executeMakeOffer_inv h with ⟨_, _, _, _, rfl⟩
    exact .market (.of_no_ops rfl rfl rfl rfl rfl) (Nat.le_refl _)
  | vectorCall args =>
    rcases executeVectorCall_inv h with ⟨_, _, _, _, _, rfl⟩
    exact .market (.of_no_ops rfl rfl rfl rfl rfl) (Nat.le_refl _)
  | takeOfferV2 args approvalMessage =>
    rcases takeOfferV2_inv h with ⟨_, _, _, _, _, _, _, _, _, hmint, _, hpurchase, _⟩
    exact hpurchase.effect hmint
  | takeOfferPermissionlessV2 args =>
    rcases takeOfferPermissionlessV2_inv h with ⟨_, _, _, _, _, _, _, _, _, hmint, _, hpurchase, _⟩
    exact hpurchase.effect hmint
  | configurePropAmm boss assetMint config =>
    rcases configurePropAmm_inv h with ⟨_, _, rfl⟩
    exact .market (.of_no_ops rfl rfl rfl rfl rfl) (Nat.le_refl _)
  | openSwapBuy args =>
    rcases openSwapBuy_inv h with ⟨_, _, _, _, _, _, _, _, _, hmint, _, hpurchase, _⟩
    exact hpurchase.effect hmint
  | openSwapSell args =>
    rcases openSwapSell_inv h with ⟨_, _, _, _, _, _, _, _, _, _, hsale⟩
    apply hsale.step.effect hsale.marketOnly hsale.loadIn
    rw [hsale.ownDebited, hsale.ownCredited]
  | makeRedemptionOffer args => exact .make h
  | updateRedemptionOfferFee args =>
    unfold execute updateRedemptionOfferFee at h
    rcases updateRedemptionOffer_inv h with ⟨_, _, _, hkey, rfl⟩
    exact .update hkey
  | updateRedemptionOfferPropAmmSellFee args =>
    unfold execute updateRedemptionOfferPropAmmSellFee at h
    rcases updateRedemptionOffer_inv h with ⟨_, _, _, hkey, rfl⟩
    exact .update hkey
  | updateRedemptionOfferVaultTarget args =>
    unfold execute updateRedemptionOfferVaultTarget at h
    rcases updateRedemptionOffer_inv h with ⟨_, _, _, hkey, rfl⟩
    exact .update hkey
  | createRedemptionRequest args => exact .create h
  | cancelRedemptionRequest args => exact .cancel h
  | fulfillRedemptionRequest args => exact .fulfill h
  | redemptionVaultDeposit args =>
    rcases redemptionVaultDeposit_inv h with ⟨_, _, hperforms, rfl⟩
    apply Effect.market (.of_transfer hperforms)
    simp [Op.debited, Signer.key]
  | redemptionVaultWithdraw args =>
    rcases redemptionVaultWithdraw_inv h with ⟨_, _, _, hperforms, rfl⟩
    exact .withdraw (.of_transfer hperforms)
  | initializeBuffer boss =>
    rcases initializeBuffer_inv h with ⟨_, _, _, _, rfl⟩
    exact .market (.of_no_ops rfl rfl rfl rfl rfl) (Nat.le_refl _)
  | mintTo boss amount =>
    rcases mintTo_inv h with ⟨_, _, _, haccounts, _, hstep, hmarket, _⟩
    exact hstep.effect hmarket haccounts.loadMint (by simp [Op.debited])
  | settleBuffer worker =>
    rcases settleBuffer_inv h with ⟨_, _, _, haccounts, hstep, hmarket, _⟩
    exact hstep.effect hmarket haccounts.loadMint (Nat.le_refl _)
  | setBufferGrossApr boss grossYield =>
    rcases setBufferGrossApr_inv h with ⟨_, _, _, haccounts, hstep, hmarket, _⟩
    exact hstep.effect hmarket haccounts.loadMint (Nat.le_refl _)
  | setBufferFeeConfig boss config =>
    rcases setBufferFeeConfig_inv h with ⟨_, _, _, haccounts, hstep, hmarket, _⟩
    exact hstep.effect hmarket haccounts.loadMint (Nat.le_refl _)
  | burnForNavIncrease boss assetAdjustmentAmount =>
    rcases burnForNavIncrease_inv h with ⟨_, _, _, _, _, haccounts, _, _, _, hstep, hmarket, _⟩
    exact hstep.effect hmarket haccounts.loadMint (by simp [Op.debited])

end Effect

end OnreApp
