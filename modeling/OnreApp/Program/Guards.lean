import OnreApp.Program.Lemmas

namespace OnreApp

open Checked TokenLedger

variable {clock : Clock} {w w' : World} {i : Instruction}

def Instruction.signer : Instruction → Signer
  | .makeOffer args => args.boss
  | .vectorCall args => args.boss
  | .takeOfferV2 args _ => args.user
  | .takeOfferPermissionlessV2 args => args.user
  | .configurePropAmm boss _ _ => boss
  | .openSwapBuy args => args.user
  | .openSwapSell args => args.user
  | .makeRedemptionOffer args => args.boss
  | .updateRedemptionOfferFee args => args.boss
  | .updateRedemptionOfferPropAmmSellFee args => args.boss
  | .updateRedemptionOfferVaultTarget args => args.boss
  | .createRedemptionRequest args => args.redeemer
  | .cancelRedemptionRequest args => args.signer
  | .fulfillRedemptionRequest args => args.worker
  | .redemptionVaultDeposit args => args.signer
  | .redemptionVaultWithdraw args => args.signer
  | .initializeBuffer boss => boss
  | .mintTo boss _ => boss
  | .settleBuffer worker => worker
  | .setBufferGrossApr boss _ => boss
  | .setBufferFeeConfig boss _ => boss
  | .burnForNavIncrease boss _ => boss

def Instruction.isBossOnly : Instruction → Bool
  | .makeOffer _ => true
  | .vectorCall _ => true
  | .configurePropAmm _ _ _ => true
  | .makeRedemptionOffer _ => true
  | .updateRedemptionOfferFee _ => true
  | .updateRedemptionOfferPropAmmSellFee _ => true
  | .updateRedemptionOfferVaultTarget _ => true
  | .redemptionVaultWithdraw _ => true
  | .initializeBuffer _ => true
  | .mintTo _ _ => true
  | .setBufferGrossApr _ _ => true
  | .setBufferFeeConfig _ _ => true
  | .burnForNavIncrease _ _ => true
  | _ => false

def Instruction.isSetup : Instruction → Bool
  | .makeOffer _ => true
  | .vectorCall _ => true
  | .configurePropAmm _ _ _ => true
  | .makeRedemptionOffer _ => true
  | .updateRedemptionOfferFee _ => true
  | .updateRedemptionOfferPropAmmSellFee _ => true
  | .updateRedemptionOfferVaultTarget _ => true
  | .initializeBuffer _ => true
  | _ => false

section BossOnly

theorem execute_boss (hboss : i.isBossOnly = true) (h : execute clock w i = .ok w')
    : i.signer.key = w.state.boss := by
  cases i with
  | makeOffer args => exact (executeMakeOffer_inv h).1
  | vectorCall args => exact (executeVectorCall_inv h).1
  | configurePropAmm boss assetMint config => exact (configurePropAmm_inv h).1
  | makeRedemptionOffer args => exact (makeRedemptionOffer_inv h).1.boss_eq
  | updateRedemptionOfferFee args =>
    unfold execute updateRedemptionOfferFee at h
    exact (updateRedemptionOffer_inv h).1
  | updateRedemptionOfferPropAmmSellFee args =>
    unfold execute updateRedemptionOfferPropAmmSellFee at h
    exact (updateRedemptionOffer_inv h).1
  | updateRedemptionOfferVaultTarget args =>
    unfold execute updateRedemptionOfferVaultTarget at h
    exact (updateRedemptionOffer_inv h).1
  | redemptionVaultWithdraw args => exact (redemptionVaultWithdraw_inv h).1
  | initializeBuffer boss => exact (initializeBuffer_inv h).1
  | mintTo boss amount =>
    rcases mintTo_inv h with ⟨_, _, _, haccounts, _⟩
    exact haccounts.signer_eq
  | setBufferGrossApr boss grossYield =>
    rcases setBufferGrossApr_inv h with ⟨_, _, _, haccounts, _⟩
    exact haccounts.signer_eq
  | setBufferFeeConfig boss config =>
    rcases setBufferFeeConfig_inv h with ⟨_, _, _, haccounts, _⟩
    exact haccounts.signer_eq
  | burnForNavIncrease boss assetAdjustmentAmount =>
    rcases burnForNavIncrease_inv h with ⟨_, _, _, _, _, haccounts, _⟩
    exact haccounts.signer_eq
  | _ => cases hboss

end BossOnly

section KillSwitch

theorem execute_not_killed (hsetup : i.isSetup = false) (h : execute clock w i = .ok w')
    : w.state.isKilled = false := by
  cases i with
  | takeOfferV2 args approvalMessage =>
    rcases takeOfferV2_inv h with ⟨_, _, _, _, _, _, _, htrades, _⟩
    exact htrades.notKilled
  | takeOfferPermissionlessV2 args =>
    rcases takeOfferPermissionlessV2_inv h with ⟨_, _, _, _, _, _, _, htrades, _⟩
    exact htrades.notKilled
  | openSwapBuy args =>
    rcases openSwapBuy_inv h with ⟨_, _, _, _, _, _, _, htrades, _⟩
    exact htrades.notKilled
  | openSwapSell args =>
    rcases openSwapSell_inv h with ⟨_, _, _, _, _, _, _, _, _, _, hsale⟩
    exact hsale.tradesAt.notKilled
  | createRedemptionRequest args =>
    rcases createRedemptionRequest_inv h with ⟨_, _, _, haccepted, _⟩
    exact haccepted.tradesAt.notKilled
  | cancelRedemptionRequest args =>
    rcases cancelRedemptionRequest_inv h with ⟨_, _, _, haccepted, _⟩
    exact haccepted.notKilled
  | fulfillRedemptionRequest args =>
    rcases fulfillRedemptionRequest_inv h with ⟨_, _, _, _, _, _, hloaded, _⟩
    exact hloaded.notKilled
  | redemptionVaultDeposit args => exact (redemptionVaultDeposit_inv h).1
  | redemptionVaultWithdraw args => exact (redemptionVaultWithdraw_inv h).2.1
  | mintTo boss amount =>
    rcases mintTo_inv h with ⟨_, _, _, haccounts, _⟩
    exact haccounts.notKilled
  | settleBuffer worker =>
    rcases settleBuffer_inv h with ⟨_, _, _, haccounts, _⟩
    exact haccounts.notKilled
  | setBufferGrossApr boss grossYield =>
    rcases setBufferGrossApr_inv h with ⟨_, _, _, haccounts, _⟩
    exact haccounts.notKilled
  | setBufferFeeConfig boss config =>
    rcases setBufferFeeConfig_inv h with ⟨_, _, _, haccounts, _⟩
    exact haccounts.notKilled
  | burnForNavIncrease boss assetAdjustmentAmount =>
    rcases burnForNavIncrease_inv h with ⟨_, _, _, _, _, haccounts, _⟩
    exact haccounts.notKilled
  | _ => cases hsetup

/-- No token moves, no request changes, no redemption is reported. -/
structure World.Quiet (w w' : World) : Prop where
  ledger : w'.ledger = w.ledger
  redemptionRequests : w'.redemptionRequests = w.redemptionRequests
  events : w'.events = w.events

theorem World.Quiet.refl (w : World) : w.Quiet w := ⟨rfl, rfl, rfl⟩

theorem World.Quiet.trans {w₁ : World} (h : w.Quiet w₁) (h' : w₁.Quiet w') : w.Quiet w' :=
  ⟨h'.ledger.trans h.ledger, h'.redemptionRequests.trans h.redemptionRequests,
    h'.events.trans h.events⟩

theorem execute_quiet (hsetup : i.isSetup = true) (h : execute clock w i = .ok w')
    : w.Quiet w' := by
  cases i with
  | makeOffer args =>
    rcases executeMakeOffer_inv h with ⟨_, _, _, _, rfl⟩
    exact ⟨rfl, rfl, rfl⟩
  | vectorCall args =>
    rcases executeVectorCall_inv h with ⟨_, _, _, _, _, rfl⟩
    exact ⟨rfl, rfl, rfl⟩
  | configurePropAmm boss assetMint config =>
    rcases configurePropAmm_inv h with ⟨_, _, rfl⟩
    exact ⟨rfl, rfl, rfl⟩
  | makeRedemptionOffer args =>
    rcases makeRedemptionOffer_inv h with ⟨_, rfl⟩
    exact ⟨rfl, rfl, rfl⟩
  | updateRedemptionOfferFee args =>
    unfold execute updateRedemptionOfferFee at h
    rcases updateRedemptionOffer_inv h with ⟨_, _, _, _, rfl⟩
    exact ⟨rfl, rfl, rfl⟩
  | updateRedemptionOfferPropAmmSellFee args =>
    unfold execute updateRedemptionOfferPropAmmSellFee at h
    rcases updateRedemptionOffer_inv h with ⟨_, _, _, _, rfl⟩
    exact ⟨rfl, rfl, rfl⟩
  | updateRedemptionOfferVaultTarget args =>
    unfold execute updateRedemptionOfferVaultTarget at h
    rcases updateRedemptionOffer_inv h with ⟨_, _, _, _, rfl⟩
    exact ⟨rfl, rfl, rfl⟩
  | initializeBuffer boss =>
    rcases initializeBuffer_inv h with ⟨_, _, _, _, rfl⟩
    exact ⟨rfl, rfl, rfl⟩
  | _ => cases hsetup

end KillSwitch

section Frame

/-- What no instruction of the market writes. -/
structure World.Framed (w w' : World) : Prop where
  state : w'.state = w.state
  mints : w'.mints = w.mints
  excludedBalance : w'.circulatingSupplyExcludedBalance = w.circulatingSupplyExcludedBalance

theorem MarketOnly.framed (h : MarketOnly w w') : w.Framed w' :=
  ⟨h.state, h.mints, h.excludedBalance⟩

theorem fulfillRedemptionRequest_framed {args : FulfillRedemptionRequestArgs}
    (h : fulfillRedemptionRequest clock w args = .ok w') : w.Framed w' := by
  rcases fulfillRedemptionRequest_inv h with ⟨_, _, _, _, _, _, _, hfulfillment, rfl⟩
  have hmarket := hfulfillment.marketOnly
  unfold fulfillRedemptionRequest.storeRequest
  split <;> exact ⟨hmarket.state, hmarket.mints, hmarket.excludedBalance⟩

theorem execute_framed (h : execute clock w i = .ok w') : w.Framed w' := by
  cases i with
  | makeOffer args =>
    rcases executeMakeOffer_inv h with ⟨_, _, _, _, rfl⟩
    exact ⟨rfl, rfl, rfl⟩
  | vectorCall args =>
    rcases executeVectorCall_inv h with ⟨_, _, _, _, _, rfl⟩
    exact ⟨rfl, rfl, rfl⟩
  | takeOfferV2 args approvalMessage =>
    rcases takeOfferV2_inv h with ⟨_, _, _, _, _, _, _, _, _, _, _, hpurchase, _⟩
    exact hpurchase.marketOnly.framed
  | takeOfferPermissionlessV2 args =>
    rcases takeOfferPermissionlessV2_inv h with ⟨_, _, _, _, _, _, _, _, _, _, _, hpurchase, _⟩
    exact hpurchase.marketOnly.framed
  | configurePropAmm boss assetMint config =>
    rcases configurePropAmm_inv h with ⟨_, _, rfl⟩
    exact ⟨rfl, rfl, rfl⟩
  | openSwapBuy args =>
    rcases openSwapBuy_inv h with ⟨_, _, _, _, _, _, _, _, _, _, _, hpurchase, _⟩
    exact hpurchase.marketOnly.framed
  | openSwapSell args =>
    rcases openSwapSell_inv h with ⟨_, _, _, _, _, _, _, _, _, _, hsale⟩
    exact hsale.marketOnly.framed
  | makeRedemptionOffer args =>
    rcases makeRedemptionOffer_inv h with ⟨_, rfl⟩
    exact ⟨rfl, rfl, rfl⟩
  | updateRedemptionOfferFee args =>
    unfold execute updateRedemptionOfferFee at h
    rcases updateRedemptionOffer_inv h with ⟨_, _, _, _, rfl⟩
    exact ⟨rfl, rfl, rfl⟩
  | updateRedemptionOfferPropAmmSellFee args =>
    unfold execute updateRedemptionOfferPropAmmSellFee at h
    rcases updateRedemptionOffer_inv h with ⟨_, _, _, _, rfl⟩
    exact ⟨rfl, rfl, rfl⟩
  | updateRedemptionOfferVaultTarget args =>
    unfold execute updateRedemptionOfferVaultTarget at h
    rcases updateRedemptionOffer_inv h with ⟨_, _, _, _, rfl⟩
    exact ⟨rfl, rfl, rfl⟩
  | createRedemptionRequest args =>
    rcases createRedemptionRequest_inv h with ⟨_, _, _, _, _, rfl⟩
    exact ⟨rfl, rfl, rfl⟩
  | cancelRedemptionRequest args =>
    rcases cancelRedemptionRequest_inv h with ⟨_, _, _, _, _, rfl⟩
    exact ⟨rfl, rfl, rfl⟩
  | fulfillRedemptionRequest args => exact fulfillRedemptionRequest_framed h
  | redemptionVaultDeposit args =>
    rcases redemptionVaultDeposit_inv h with ⟨_, _, _, rfl⟩
    exact ⟨rfl, rfl, rfl⟩
  | redemptionVaultWithdraw args =>
    rcases redemptionVaultWithdraw_inv h with ⟨_, _, _, _, rfl⟩
    exact ⟨rfl, rfl, rfl⟩
  | initializeBuffer boss =>
    rcases initializeBuffer_inv h with ⟨_, _, _, _, rfl⟩
    exact ⟨rfl, rfl, rfl⟩
  | mintTo boss amount =>
    rcases mintTo_inv h with ⟨_, _, _, _, _, _, hmarket, _⟩
    exact hmarket.framed
  | settleBuffer worker =>
    rcases settleBuffer_inv h with ⟨_, _, _, _, _, hmarket, _⟩
    exact hmarket.framed
  | setBufferGrossApr boss grossYield =>
    rcases setBufferGrossApr_inv h with ⟨_, _, _, _, _, hmarket, _⟩
    exact hmarket.framed
  | setBufferFeeConfig boss config =>
    rcases setBufferFeeConfig_inv h with ⟨_, _, _, _, _, hmarket, _⟩
    exact hmarket.framed
  | burnForNavIncrease boss assetAdjustmentAmount =>
    rcases burnForNavIncrease_inv h with ⟨_, _, _, _, _, _, _, _, _, _, hmarket, _⟩
    exact hmarket.framed

theorem fulfillRedemptionRequest_keeps {args : FulfillRedemptionRequestArgs}
    (h : fulfillRedemptionRequest clock w args = .ok w') : w.Keeps w' := by
  rcases fulfillRedemptionRequest_inv h with ⟨_, _, _, _, w₂, _, hloaded, hfulfillment, rfl⟩
  have hoffer := hloaded.redemptionOffer
  rw [← hfulfillment.marketOnly.redemptionOffers] at hoffer
  unfold fulfillRedemptionRequest.storeRequest
  split <;>
    exact hfulfillment.keeps.trans ((World.Keeps.setCounters hoffer _ _ _).trans .of_update)

theorem execute_keeps (hboss : i.isBossOnly = false) (h : execute clock w i = .ok w')
    : w.Keeps w' := by
  cases i with
  | takeOfferV2 args approvalMessage =>
    rcases takeOfferV2_inv h with ⟨_, _, _, _, _, _, _, _, _, _, _, hpurchase, _⟩
    exact hpurchase.keeps
  | takeOfferPermissionlessV2 args =>
    rcases takeOfferPermissionlessV2_inv h with ⟨_, _, _, _, _, _, _, _, _, _, _, hpurchase, _⟩
    exact hpurchase.keeps
  | openSwapBuy args =>
    rcases openSwapBuy_inv h with ⟨_, _, _, _, _, _, _, _, _, _, _, hpurchase, _⟩
    exact hpurchase.keeps
  | openSwapSell args =>
    rcases openSwapSell_inv h with ⟨_, _, _, _, _, _, _, _, _, _, hsale⟩
    exact hsale.keeps
  | createRedemptionRequest args =>
    rcases createRedemptionRequest_inv h with ⟨_, _, _, haccepted, _, rfl⟩
    exact (World.Keeps.setCounters haccepted.load _ _ _).trans .of_update
  | cancelRedemptionRequest args =>
    rcases cancelRedemptionRequest_inv h with ⟨_, _, _, haccepted, _, rfl⟩
    exact (World.Keeps.setCounters haccepted.load _ _ _).trans .of_update
  | fulfillRedemptionRequest args => exact fulfillRedemptionRequest_keeps h
  | redemptionVaultDeposit args =>
    rcases redemptionVaultDeposit_inv h with ⟨_, _, _, rfl⟩
    exact .of_update
  | settleBuffer worker =>
    rcases settleBuffer_inv h with ⟨_, _, _, _, _, _, hkeeps, _⟩
    exact hkeeps
  | _ => cases hboss

end Frame

end OnreApp
