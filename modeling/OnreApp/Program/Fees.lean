import OnreApp.Offer.Lemmas.Vectors
import OnreApp.Program.Lemmas
import OnreApp.Redemption.Lemmas.Pricing

namespace OnreApp

open Checked

section UpdateOfferFee

structure UpdateOfferFeeArgs where
  boss : Signer
  tokenInMint : Pubkey
  tokenOutMint : Pubkey
  newFeeBasisPoints : Nat
  deriving DecidableEq, Repr

def updateOffer (w : World) (args : UpdateOfferFeeArgs) (set : Offer → Nat → Offer)
    : Result World := do
  let offerKey := Pubkey.offer args.tokenInMint args.tokenOutMint
  let offer ← World.load (w.offers offerKey)
  let tokenInMint ← w.loadMint args.tokenInMint
  let tokenOutMint ← w.loadMint args.tokenOutMint
  offer.requireMints tokenInMint.key tokenOutMint.key
  constraint (args.boss.key = w.state.boss)
  require (args.newFeeBasisPoints ≤ maxAllowedFeeBps) .invalidFee
  return w.setOffer offerKey (set offer args.newFeeBasisPoints)

def updateOfferFee (w : World) (args : UpdateOfferFeeArgs) : Result World :=
  updateOffer w args fun offer fee => { offer with feeBasisPoints := fee }

def updateOfferPermissionlessFee (w : World) (args : UpdateOfferFeeArgs) : Result World :=
  updateOffer w args fun offer fee => { offer with feeBasisPointsPermissionless := fee }

inductive FeeCommand where
  | command (c : Command)
  | updateOfferFee (args : UpdateOfferFeeArgs)
  | updateOfferPermissionlessFee (args : UpdateOfferFeeArgs)

def FeeCommand.execute (clock : Clock) (w : World) : FeeCommand → Result World
  | .command c => c.execute clock w
  | .updateOfferFee args => OnreApp.updateOfferFee w args
  | .updateOfferPermissionlessFee args => OnreApp.updateOfferPermissionlessFee w args

abbrev FeeCommand.run (w : World) (commands : List (Clock × FeeCommand)) : Result World :=
  Run.run (fun w command => command.2.execute command.1 w) w commands

end UpdateOfferFee

def Offer.FeesBounded (offer : Offer) : Prop :=
  offer.feeBasisPoints ≤ maxAllowedFeeBps ∧ offer.feeBasisPointsPermissionless ≤ maxAllowedFeeBps

def RedemptionOffer.FeesBounded (redemptionOffer : RedemptionOffer) : Prop :=
  redemptionOffer.feeBasisPoints ≤ maxAllowedFeeBps ∧
    redemptionOffer.feeBasisPointsPropAmmSell ≤ maxAllowedFeeBps

structure World.FeesBounded (w : World) : Prop where
  offers : ∀ (key : Pubkey) (offer : Offer), w.offers key = some offer → offer.FeesBounded
  redemptionOffers : ∀ (key : Pubkey) (redemptionOffer : RedemptionOffer),
    w.redemptionOffers key = some redemptionOffer → redemptionOffer.FeesBounded

section FeesBounded

variable {clock : Clock} {w w' : World} {key : Pubkey} {offer : Offer}
  {redemptionOffer : RedemptionOffer}

theorem World.FeesBounded.of_eq (h : w.FeesBounded) (hoffers : w'.offers = w.offers)
    (hredemptionOffers : w'.redemptionOffers = w.redemptionOffers) : w'.FeesBounded := by
  constructor
  . rw [hoffers]
    exact h.offers
  . rw [hredemptionOffers]
    exact h.redemptionOffers

theorem MarketOnly.feesBounded (hmarket : MarketOnly w w') (h : w.FeesBounded) : w'.FeesBounded :=
  h.of_eq hmarket.offers hmarket.redemptionOffers

theorem World.FeesBounded.setOffer (h : w.FeesBounded) (hoffer : offer.FeesBounded)
    : (w.setOffer key offer).FeesBounded := by
  constructor
  . intro key' offer' hlookup
    simp only [World.setOffer, Function.update_apply] at hlookup
    split at hlookup
    . cases hlookup
      exact hoffer
    . exact h.offers key' offer' hlookup
  . exact h.redemptionOffers

theorem World.FeesBounded.setRedemptionOffer (h : w.FeesBounded)
    (hredemptionOffer : redemptionOffer.FeesBounded)
    : (w.setRedemptionOffer key redemptionOffer).FeesBounded := by
  constructor
  . exact h.offers
  . intro key' redemptionOffer' hlookup
    simp only [World.setRedemptionOffer, Function.update_apply] at hlookup
    split at hlookup
    . cases hlookup
      exact hredemptionOffer
    . exact h.redemptionOffers key' redemptionOffer' hlookup

theorem Offer.call_feesBounded {offer' : Offer} {now : Nat} {call : VectorCall}
    (h : offer.FeesBounded) (hcall : offer.call now call = .ok offer') : offer'.FeesBounded := by
  rcases Offer.call_frame hcall with ⟨_, rfl⟩
  exact h

theorem executeMakeOffer_feesBounded {args : MakeOfferArgs} (hw : w.FeesBounded)
    (h : executeMakeOffer w args = .ok w') : w'.FeesBounded := by
  rcases executeMakeOffer_inv h with ⟨_, _, offer, hmake, rfl⟩
  rcases makeOffer_inv hmake with ⟨hfee, rfl⟩
  apply hw.setOffer
  exact ⟨hfee, Nat.zero_le _⟩

theorem executeVectorCall_feesBounded {args : VectorCallArgs} (hw : w.FeesBounded)
    (h : executeVectorCall clock w args = .ok w') : w'.FeesBounded := by
  rcases executeVectorCall_inv h with ⟨_, offer, offer', hload, hcall, rfl⟩
  apply hw.setOffer
  apply Offer.call_feesBounded (hw.offers _ offer hload) hcall

theorem updateOffer_inv {args : UpdateOfferFeeArgs} {set : Offer → Nat → Offer}
    (h : updateOffer w args set = .ok w')
    : args.newFeeBasisPoints ≤ maxAllowedFeeBps ∧
      ∃ (offer : Offer),
        w.offers (.offer args.tokenInMint args.tokenOutMint) = some offer ∧
        w' = w.setOffer (.offer args.tokenInMint args.tokenOutMint)
          (set offer args.newFeeBasisPoints) := by
  simp only [updateOffer, bind_eq_ok, require_eq_ok, World.load_eq_ok, pure_eq_ok] at h
  rcases h with ⟨offer, hload, _, _, _, _, _, _, _, _, _, hfee, rfl⟩
  exact ⟨hfee, offer, hload, rfl⟩

theorem makeRedemptionOffer_feesBounded {args : MakeRedemptionOfferArgs} (hw : w.FeesBounded)
    (h : makeRedemptionOffer w args = .ok w') : w'.FeesBounded := by
  rcases makeRedemptionOffer_inv h with ⟨haccepted, rfl⟩
  apply hw.setRedemptionOffer
  exact ⟨haccepted.fee_le, haccepted.sellFee_le⟩

theorem fulfillRedemptionRequest_feesBounded {args : FulfillRedemptionRequestArgs}
    (hw : w.FeesBounded) (h : fulfillRedemptionRequest clock w args = .ok w') : w'.FeesBounded := by
  rcases fulfillRedemptionRequest_inv h with
    ⟨params, _, _, _, w₂, _, hloaded, hfulfillment, rfl⟩
  have hw₂ := hfulfillment.marketOnly.feesBounded hw
  have hfees := hw.redemptionOffers _ params.redemptionOffer hloaded.redemptionOffer
  refine World.FeesBounded.of_eq ?_ ?_ fulfillRedemptionRequest.storeRequest_redemptionOffers
  . exact World.FeesBounded.setRedemptionOffer ⟨hw₂.offers, hw₂.redemptionOffers⟩ hfees
  . unfold fulfillRedemptionRequest.storeRequest
    split <;> rfl

theorem execute_feesBounded {instruction : Instruction} (hw : w.FeesBounded)
    (h : execute clock w instruction = .ok w') : w'.FeesBounded := by
  cases instruction with
  | makeOffer args => exact executeMakeOffer_feesBounded hw h
  | vectorCall args => exact executeVectorCall_feesBounded hw h
  | takeOfferV2 args approvalMessage =>
    rcases takeOfferV2_inv h with ⟨_, _, _, _, _, _, _, _, _, _, _, hpurchase, _⟩
    exact hpurchase.marketOnly.feesBounded hw
  | takeOfferPermissionlessV2 args =>
    rcases takeOfferPermissionlessV2_inv h with ⟨_, _, _, _, _, _, _, _, _, _, _, hpurchase, _⟩
    exact hpurchase.marketOnly.feesBounded hw
  | configurePropAmm boss assetMint config =>
    rcases configurePropAmm_inv h with ⟨_, _, rfl⟩
    exact hw.of_eq rfl rfl
  | openSwapBuy args =>
    rcases openSwapBuy_inv h with ⟨_, _, _, _, _, _, _, _, _, _, _, hpurchase, _⟩
    exact hpurchase.marketOnly.feesBounded hw
  | openSwapSell args =>
    rcases openSwapSell_inv h with ⟨_, _, _, _, _, _, _, _, _, _, hsale⟩
    exact hsale.marketOnly.feesBounded hw
  | makeRedemptionOffer args => exact makeRedemptionOffer_feesBounded hw h
  | updateRedemptionOfferFee args =>
    unfold execute updateRedemptionOfferFee at h
    rcases updateRedemptionOffer_inv h with ⟨_, hbound, redemptionOffer, hkey, rfl⟩
    apply hw.setRedemptionOffer
    exact ⟨hbound, (hw.redemptionOffers _ redemptionOffer hkey).2⟩
  | updateRedemptionOfferPropAmmSellFee args =>
    unfold execute updateRedemptionOfferPropAmmSellFee at h
    rcases updateRedemptionOffer_inv h with ⟨_, hbound, redemptionOffer, hkey, rfl⟩
    apply hw.setRedemptionOffer
    exact ⟨(hw.redemptionOffers _ redemptionOffer hkey).1, hbound⟩
  | updateRedemptionOfferVaultTarget args =>
    unfold execute updateRedemptionOfferVaultTarget at h
    rcases updateRedemptionOffer_inv h with ⟨_, _, redemptionOffer, hkey, rfl⟩
    apply hw.setRedemptionOffer
    exact hw.redemptionOffers _ redemptionOffer hkey
  | createRedemptionRequest args =>
    rcases createRedemptionRequest_inv h with ⟨_, redemptionOffer, _, haccepted, _, rfl⟩
    refine World.FeesBounded.of_eq (World.FeesBounded.setRedemptionOffer hw ?_) rfl rfl
    exact hw.redemptionOffers _ redemptionOffer haccepted.load
  | cancelRedemptionRequest args =>
    rcases cancelRedemptionRequest_inv h with ⟨redemptionOffer, _, _, haccepted, _, rfl⟩
    refine World.FeesBounded.of_eq (World.FeesBounded.setRedemptionOffer hw ?_) rfl rfl
    exact hw.redemptionOffers _ redemptionOffer haccepted.load
  | fulfillRedemptionRequest args => exact fulfillRedemptionRequest_feesBounded hw h
  | redemptionVaultDeposit args =>
    rcases redemptionVaultDeposit_inv h with ⟨_, _, _, rfl⟩
    exact hw.of_eq rfl rfl
  | redemptionVaultWithdraw args =>
    rcases redemptionVaultWithdraw_inv h with ⟨_, _, _, _, rfl⟩
    exact hw.of_eq rfl rfl
  | initializeBuffer boss =>
    rcases initializeBuffer_inv h with ⟨_, _, _, _, rfl⟩
    exact hw.of_eq rfl rfl
  | mintTo boss amount =>
    rcases mintTo_inv h with ⟨_, _, _, _, _, _, hmarket, _⟩
    exact hmarket.feesBounded hw
  | settleBuffer worker =>
    rcases settleBuffer_inv h with ⟨_, _, _, _, _, hmarket, _⟩
    exact hmarket.feesBounded hw
  | setBufferGrossApr boss grossYield =>
    rcases setBufferGrossApr_inv h with ⟨_, _, _, _, _, hmarket, _⟩
    exact hmarket.feesBounded hw
  | setBufferFeeConfig boss config =>
    rcases setBufferFeeConfig_inv h with ⟨_, _, _, _, _, hmarket, _⟩
    exact hmarket.feesBounded hw
  | burnForNavIncrease boss assetAdjustmentAmount =>
    rcases burnForNavIncrease_inv h with ⟨_, _, _, _, _, _, _, _, _, _, hmarket, _⟩
    exact hmarket.feesBounded hw

theorem FeeCommand.execute_feesBounded {command : FeeCommand} (hw : w.FeesBounded)
    (h : command.execute clock w = .ok w') : w'.FeesBounded := by
  cases command with
  | command c =>
    cases c with
    | instruction i => exact OnreApp.execute_feesBounded hw h
    | setMainOffer boss offerKey =>
      simp only [FeeCommand.execute, Command.execute, setMainOffer, bind_eq_ok, pure_eq_ok] at h
      rcases h with ⟨_, _, _, _, _, _, _, _, rfl⟩
      exact hw.of_eq rfl rfl
  | updateOfferFee args =>
    unfold FeeCommand.execute OnreApp.updateOfferFee at h
    rcases updateOffer_inv h with ⟨hfee, offer, hkey, rfl⟩
    apply hw.setOffer
    exact ⟨hfee, (hw.offers _ offer hkey).2⟩
  | updateOfferPermissionlessFee args =>
    unfold FeeCommand.execute OnreApp.updateOfferPermissionlessFee at h
    rcases updateOffer_inv h with ⟨hfee, offer, hkey, rfl⟩
    apply hw.setOffer
    exact ⟨(hw.offers _ offer hkey).1, hfee⟩

theorem FeeCommand.run_feesBounded {commands : List (Clock × FeeCommand)} (hw : w.FeesBounded)
    (h : FeeCommand.run w commands = .ok w') : w'.FeesBounded := by
  refine Run.run_inv World.FeesBounded (fun _ => True) ?_ (fun _ _ => trivial) hw h
  intro w w' command _ hw hstep
  exact FeeCommand.execute_feesBounded hw hstep

/-- The rates the pricing of a purchase, a redemption and a swap is called with. -/
inductive FeeRate (w : World) : Nat → Prop where
  | takeOffer {key : Pubkey} {offer : Offer} (h : w.offers key = some offer)
      : FeeRate w offer.feeBasisPoints
  | permissionless {key : Pubkey} {offer : Offer} (h : w.offers key = some offer)
      : FeeRate w offer.feeBasisPointsPermissionless
  | redemption {key : Pubkey} {redemptionOffer : RedemptionOffer}
      (h : w.redemptionOffers key = some redemptionOffer)
      : FeeRate w redemptionOffer.feeBasisPoints
  | propAmmSell {offerKey tokenInMint tokenOutMint : Pubkey} {config : RedemptionOfferConfig}
      (h : redemptionOfferConfig w offerKey tokenInMint tokenOutMint = .ok config)
      : FeeRate w config.feeBasisPointsPropAmmSell

theorem redemptionOfferConfig_feesBounded {offerKey tokenInMint tokenOutMint : Pubkey}
    {config : RedemptionOfferConfig} (hw : w.FeesBounded)
    (h : redemptionOfferConfig w offerKey tokenInMint tokenOutMint = .ok config)
    : config.feeBasisPointsPropAmmSell ≤ maxAllowedFeeBps := by
  simp only [redemptionOfferConfig, bind_eq_ok] at h
  rcases h with ⟨loaded, hload, h⟩
  cases loaded with
  | none =>
    cases h
    apply Nat.zero_le
  | some redemptionOffer =>
    simp only [bind_eq_ok, pure_eq_ok] at h
    rcases h with ⟨_, _, rfl⟩
    unfold loadOptionalCheckedRedemptionOffer at hload
    split at hload
    . cases hload
    . next stored hstored =>
      simp only [bind_eq_ok, pure_eq_ok, Option.some.injEq] at hload
      rcases hload with ⟨_, _, _, _, _, _, rfl⟩
      exact (hw.redemptionOffers _ stored hstored).2

theorem FeeRate.le {bps : Nat} (hw : w.FeesBounded) (h : FeeRate w bps) : bps ≤ maxAllowedFeeBps := by
  cases h with
  | takeOffer h => exact (hw.offers _ _ h).1
  | permissionless h => exact (hw.offers _ _ h).2
  | redemption h => exact (hw.redemptionOffers _ _ h).1
  | propAmmSell h => exact redemptionOfferConfig_feesBounded hw h

end FeesBounded

theorem run_fees_exact {w₀ w : World} {commands : List (Clock × FeeCommand)}
    (hoffers : ∀ (key : Pubkey), w₀.offers key = none)
    (hredemptionOffers : ∀ (key : Pubkey), w₀.redemptionOffers key = none)
    (hrun : FeeCommand.run w₀ commands = .ok w)
    : ∀ (bps : Nat), FeeRate w bps →
        bps ≤ 1000 ∧
        ∀ (amount : Nat), amount ≤ u64Max →
          (∃ (fees : CalculateFeeResult),
            calculateFees amount bps = .ok fees ∧
            fees.tokenInFeeAmount = (amount * bps + 9999) / 10000 ∧
            fees.tokenInFeeAmount + fees.tokenInNetAmount = amount) ∧
          ∀ (minimum : Nat),
            (calculateFeesWithMinimum amount bps minimum = .error (.onre .invalidAmount) ↔
              amount < minimum) ∧
            (minimum ≤ amount → ∃ (fees : CalculateFeeResult),
              calculateFeesWithMinimum amount bps minimum = .ok fees ∧
              fees.tokenInFeeAmount = max ((amount * bps + 9999) / 10000) minimum ∧
              fees.tokenInFeeAmount + fees.tokenInNetAmount = amount) ∧
            ∀ (clock : Clock) (offer : Offer) (tokenInMint tokenOutMint : MintAccount)
                (result : RedemptionProcessResult),
              processRedemptionCore clock offer amount tokenInMint tokenOutMint bps minimum
                = .ok result →
              result.tokenInFeeAmount = max ((amount * bps + 9999) / 10000) minimum ∧
              result.tokenInFeeAmount + result.tokenInNetAmount = amount := by
  have hw₀ : w₀.FeesBounded := by
    constructor
    . intro key offer h
      rw [hoffers key] at h
      cases h
    . intro key redemptionOffer h
      rw [hredemptionOffers key] at h
      cases h
  intro bps hrate
  have hle : bps ≤ maxAllowedFeeBps := hrate.le (FeeCommand.run_feesBounded hw₀ hrun)
  have hbps : bps ≤ maxBasisPoints := Nat.le_trans hle (by decide)
  refine ⟨hle, ?_⟩
  intro amount hamount
  have hfee := feeAmount_le hbps amount
  refine ⟨⟨_, calculateFees_eq hbps hamount, rfl, Nat.add_sub_cancel' hfee⟩, ?_⟩
  intro minimum
  have hminimum := calculateFeesWithMinimum_eq hbps hamount minimum
  refine ⟨?_, ?_, ?_⟩
  . rw [hminimum]
    split
    . next hfits => simp [Nat.not_lt.mpr hfits]
    . next hover => simp [Nat.lt_of_not_le hover]
  . intro hfits
    rw [if_pos hfits] at hminimum
    exact ⟨_, hminimum, rfl, Nat.add_sub_cancel' (Nat.max_le.mpr ⟨hfee, hfits⟩)⟩
  . intro clock offer tokenInMint tokenOutMint result hresult
    rcases processRedemptionCore_inv hresult with ⟨_, hfees, _⟩
    exact ⟨calculateFeesWithMinimum_fee hbps hamount hfees, calculateFeesWithMinimum_add hfees⟩

def Sample.feeUpdates : List (Clock × FeeCommand) := [
  (⟨1000, 0⟩, .command (.instruction (.makeOffer ⟨boss, usdc, onyc, 500, false, true⟩))),
  (⟨1001, 0⟩, .updateOfferPermissionlessFee ⟨boss, usdc, onyc, 1000⟩),
  (⟨1002, 0⟩, .updateOfferFee ⟨boss, usdc, onyc, 25⟩),
  (⟨1003, 0⟩, .command (.instruction (.makeRedemptionOffer ⟨boss, onyc, usdc, 100, 0⟩))),
  (⟨1004, 0⟩, .command (.instruction
    (.updateRedemptionOfferPropAmmSellFee ⟨boss, redemptionOffer, 30⟩)))
]

theorem run_fees_exact_updates
    : ∃ (w : World) (offer : Offer),
        FeeCommand.run Sample.world Sample.feeUpdates = .ok w ∧
        w.offers Sample.offer = some offer ∧
        (offer.feeBasisPoints, offer.feeBasisPointsPermissionless) = (25, 1000) ∧
        ∃ (fees : CalculateFeeResult),
          calculateFees 1001 offer.feeBasisPointsPermissionless = .ok fees ∧
          fees.tokenInFeeAmount + fees.tokenInNetAmount = 1001 := by
  have hview : (FeeCommand.run Sample.world Sample.feeUpdates).toOption.bind
      (fun w => (w.offers Sample.offer).map
        fun offer => (offer.feeBasisPoints, offer.feeBasisPointsPermissionless))
      = some (25, 1000) := by decide +kernel
  rcases exists_ok_of_view hview with ⟨w, hrun, hoffer⟩
  rw [Option.map_eq_some_iff] at hoffer
  rcases hoffer with ⟨offer, hkey, hfees⟩
  have hexact := run_fees_exact (fun _ => rfl) (fun _ => rfl) hrun _ (.permissionless hkey)
  rcases hexact.2 1001 (by decide) with ⟨⟨fees, hok, _, hsum⟩, _⟩
  exact ⟨w, offer, hrun, hkey, hfees, fees, hok, hsum⟩

end OnreApp
