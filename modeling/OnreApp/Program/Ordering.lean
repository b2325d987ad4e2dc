import OnreApp.Program.Supply

namespace OnreApp

open Checked TokenLedger

variable {clock : Clock} {w w₁ w₂ w' : World} {instruction : Instruction}

section Terms

structure SameTerms (w w' : World) : Prop where
  state : w'.state = w.state
  mints : w'.mints = w.mints
  offers : w'.offers = w.offers
  haircuts : ∀ (key : Pubkey),
    (w'.propAmmPairStates key).map PropAmmPairState.minimumSellHaircutOnyc
      = (w.propAmmPairStates key).map PropAmmPairState.minimumSellHaircutOnyc
  redemptionFees : ∀ (key : Pubkey),
    (w'.redemptionOffers key).map (fun o => (o.feeBasisPoints, o.feeBasisPointsPropAmmSell))
      = (w.redemptionOffers key).map (fun o => (o.feeBasisPoints, o.feeBasisPointsPropAmmSell))

theorem SameTerms.refl (w : World) : SameTerms w w := ⟨rfl, rfl, rfl, fun _ => rfl, fun _ => rfl⟩

theorem SameTerms.trans (h : SameTerms w w₁) (h' : SameTerms w₁ w') : SameTerms w w' where
  state := h'.state.trans h.state
  mints := h'.mints.trans h.mints
  offers := h'.offers.trans h.offers
  haircuts := fun key => (h'.haircuts key).trans (h.haircuts key)
  redemptionFees := fun key => (h'.redemptionFees key).trans (h.redemptionFees key)

theorem SameTerms.symm (h : SameTerms w w') : SameTerms w' w where
  state := h.state.symm
  mints := h.mints.symm
  offers := h.offers.symm
  haircuts := fun key => (h.haircuts key).symm
  redemptionFees := fun key => (h.redemptionFees key).symm

theorem MarketOnly.sameTerms (h : MarketOnly w w') : SameTerms w w' where
  state := h.state
  mints := h.mints
  offers := h.offers
  haircuts := h.haircuts
  redemptionFees := fun key => by rw [h.redemptionOffers]

/-- The supply changes of a fixed amount, with ONyc on the side that is minted or burned. -/
def Instruction.FixedSupplyChange (onycMint : Pubkey) : Instruction → Prop
  | .mintTo _ _ => True
  | .takeOfferV2 args _ => args.tokenOutMint = onycMint ∧ args.tokenInMint ≠ args.tokenOutMint
  | .takeOfferPermissionlessV2 args =>
    args.tokenOutMint = onycMint ∧ args.tokenInMint ≠ args.tokenOutMint
  | .openSwapBuy args => args.tokenOutMint = onycMint ∧ args.tokenInMint ≠ args.tokenOutMint
  | .fulfillRedemptionRequest args =>
    args.tokenInMint = onycMint ∧ args.tokenInMint ≠ args.tokenOutMint
  | .openSwapSell args => args.tokenInMint = onycMint ∧ args.tokenInMint ≠ args.tokenOutMint
  | .settleBuffer _ => True
  | _ => False

theorem Instruction.FixedSupplyChange.bufferAware {onycMint : Pubkey}
    (h : instruction.FixedSupplyChange onycMint) : instruction.BufferAware onycMint := by
  cases instruction with
  | burnForNavIncrease => exact absurd h id
  | setBufferGrossApr => exact absurd h id
  | setBufferFeeConfig => exact absurd h id
  | _ => exact h

theorem SameTerms.of_recordFulfillment {event : RedemptionEvent} {key : Pubkey}
    {redemptionOffer : RedemptionOffer} {executed requested : Nat}
    (h : w.redemptionOffers key = some redemptionOffer)
    : SameTerms w ((w.emit event).setRedemptionOffer key { redemptionOffer with
        executedRedemptions := executed, requestedRedemptions := requested }) := by
  refine ⟨rfl, rfl, rfl, fun _ => rfl, ?_⟩
  intro k
  simp only [World.setRedemptionOffer, World.emit, Function.update_apply]
  split
  . next heq =>
    rw [heq, h]
    rfl
  . rfl

theorem SameTerms.of_storeRequest {key : Pubkey} {request : RedemptionRequest} {n : Nat}
    : SameTerms w (fulfillRedemptionRequest.storeRequest w key request n) := by
  unfold fulfillRedemptionRequest.storeRequest
  split <;> exact ⟨rfl, rfl, rfl, fun _ => rfl, fun _ => rfl⟩

theorem fulfillRedemptionRequest_sameTerms {args : FulfillRedemptionRequestArgs}
    (h : fulfillRedemptionRequest clock w args = .ok w') : SameTerms w w' := by
  rcases fulfillRedemptionRequest_inv h with ⟨_, _, _, _, _, _, hloaded, hfulfillment, rfl⟩
  have hoffer := hloaded.redemptionOffer
  rw [← hfulfillment.marketOnly.redemptionOffers] at hoffer
  apply hfulfillment.marketOnly.sameTerms.trans
  apply SameTerms.trans _ .of_storeRequest
  apply SameTerms.of_recordFulfillment hoffer

theorem execute_sameTerms {onycMint : Pubkey} (hfixed : instruction.FixedSupplyChange onycMint)
    (h : execute clock w instruction = .ok w') : SameTerms w w' := by
  cases instruction with
  | mintTo boss amount =>
    rcases mintTo_inv h with ⟨_, _, _, _, _, _, hmarket, _⟩
    exact hmarket.sameTerms
  | takeOfferV2 args approvalMessage =>
    rcases takeOfferV2_inv h with ⟨_, _, _, _, _, _, _, _, _, _, _, hpurchase, _⟩
    exact hpurchase.marketOnly.sameTerms
  | takeOfferPermissionlessV2 args =>
    rcases takeOfferPermissionlessV2_inv h with ⟨_, _, _, _, _, _, _, _, _, _, _, hpurchase, _⟩
    exact hpurchase.marketOnly.sameTerms
  | openSwapBuy args =>
    rcases openSwapBuy_inv h with ⟨_, _, _, _, _, _, _, _, _, _, _, hpurchase, _⟩
    exact hpurchase.marketOnly.sameTerms
  | openSwapSell args =>
    rcases openSwapSell_inv h with ⟨_, _, _, _, _, _, _, _, _, _, hsale⟩
    exact hsale.marketOnly.sameTerms
  | fulfillRedemptionRequest args => exact fulfillRedemptionRequest_sameTerms h
  | settleBuffer worker =>
    rcases settleBuffer_inv h with ⟨_, _, _, _, _, hmarket, _⟩
    exact hmarket.sameTerms
  | _ => exact absurd hfixed id

section Amounts

variable {mintedAmount burnedAmount mintedAmount' burnedAmount' gross gross' : Nat}

theorem SameTerms.bought (h : SameTerms w w') {tokenInMint tokenOutMint : Pubkey}
    {tokenInAmount : Nat} {feeBasisPoints : Offer → Nat}
    : SupplyChange.bought clock w' tokenInMint tokenOutMint tokenInAmount feeBasisPoints
        =
      SupplyChange.bought clock w tokenInMint tokenOutMint tokenInAmount feeBasisPoints := by
  unfold SupplyChange.bought World.loadMint
  rw [h.offers, h.mints]
  -- the supplies of the mints differ, but the price of an offer does not depend on them
  cases w.offers (.offer tokenInMint tokenOutMint) with
  | none => rfl
  | some offer =>
    cases w.mints tokenInMint with
    | none => rfl
    | some tokenIn =>
      cases w.mints tokenOutMint with
      | none => rfl
      | some tokenOut => rfl

theorem processRedemptionCore_net {offer offer' : Offer} {amount bps minimum : Nat}
    {tokenIn tokenIn' tokenOut tokenOut' : MintAccount} {result result' : RedemptionProcessResult}
    (h : processRedemptionCore clock offer amount tokenIn tokenOut bps minimum = .ok result)
    (h' : processRedemptionCore clock offer' amount tokenIn' tokenOut' bps minimum = .ok result')
    : result'.tokenInNetAmount = result.tokenInNetAmount := by
  rcases processRedemptionCore_inv h with ⟨_, hfees, _⟩
  rcases processRedemptionCore_inv h' with ⟨_, hfees', _⟩
  rw [hfees, Except.ok.injEq, CalculateFeeResult.mk.injEq] at hfees'
  exact hfees'.2.symm

theorem SameTerms.redeemed (h : SameTerms w w') {args : FulfillRedemptionRequestArgs} {n n' : Nat}
    (hn : SupplyChange.redeemed clock w args = .ok n)
    (hn' : SupplyChange.redeemed clock w' args = .ok n') : n' = n := by
  simp only [SupplyChange.redeemed, bind_eq_ok, pure_eq_ok] at hn hn'
  rcases hn with ⟨params, hparams, result, hresult, rfl⟩
  rcases hn' with ⟨params', hparams', result', hresult', rfl⟩
  have hoffer := (fulfillRedemptionRequest.loadParams_inv hparams).redemptionOffer
  have hoffer' := (fulfillRedemptionRequest.loadParams_inv hparams').redemptionOffer
  have hfees := h.redemptionFees args.redemptionOffer
  rw [hoffer, hoffer'] at hfees
  simp only [Option.map_some, Option.some.injEq, Prod.mk.injEq] at hfees
  rw [hfees.1] at hresult'
  exact processRedemptionCore_net hresult hresult'

theorem redemptionOfferConfig_fee {offerKey tokenInMint tokenOutMint : Pubkey}
    {config : RedemptionOfferConfig}
    (h : redemptionOfferConfig w offerKey tokenInMint tokenOutMint = .ok config)
    : config.feeBasisPointsPropAmmSell =
        ((w.redemptionOffers (.redemptionOffer tokenInMint tokenOutMint)).map
          (fun o => (o.feeBasisPoints, o.feeBasisPointsPropAmmSell))).elim 0 Prod.snd := by
  unfold redemptionOfferConfig loadOptionalCheckedRedemptionOffer at h
  cases hoffer : w.redemptionOffers (.redemptionOffer tokenInMint tokenOutMint) with
  | none =>
    rw [hoffer] at h
    cases h
    rfl
  | some redemptionOffer =>
    simp only [hoffer, bind_eq_ok, pure_eq_ok] at h
    rcases h with ⟨_, ⟨_, _, _, _, _, _, rfl⟩, h⟩
    simp only [bind_eq_ok, pure_eq_ok] at h
    rcases h with ⟨_, _, rfl⟩
    rfl

theorem SameTerms.sold (h : SameTerms w w') {args : OpenSwapArgs} {n n' : Nat}
    (hn : SupplyChange.sold clock w args = .ok n)
    (hn' : SupplyChange.sold clock w' args = .ok n') : n' = n := by
  simp only [SupplyChange.sold, bind_eq_ok, World.load_eq_ok, pure_eq_ok] at hn hn'
  rcases hn with ⟨_, _, pair, hpair, config, hconfig, _, _, _, _, result, hresult, rfl⟩
  rcases hn' with ⟨_, _, pair', hpair', config', hconfig', _, _, _, _, result', hresult', rfl⟩
  have hhaircut := h.haircuts (.propAmmPairState (.offer args.tokenOutMint args.tokenInMint))
  have hfee := redemptionOfferConfig_fee hconfig'
  rw [hpair, hpair'] at hhaircut
  simp only [Option.map_some, Option.some.injEq] at hhaircut
  rw [h.redemptionFees, ← redemptionOfferConfig_fee hconfig] at hfee
  rw [hhaircut, hfee] at hresult'
  exact processRedemptionCore_net hresult hresult'

theorem SameTerms.own (h : SameTerms w w') {onycMint : Pubkey}
    (hfixed : instruction.FixedSupplyChange onycMint)
    (hown : SupplyChange.own clock w gross instruction = .ok (mintedAmount, burnedAmount))
    (hown' : SupplyChange.own clock w' gross' instruction = .ok (mintedAmount', burnedAmount'))
    : (mintedAmount', burnedAmount') = (mintedAmount, burnedAmount) := by
  cases instruction with
  | takeOfferV2 args approvalMessage =>
    simp only [SupplyChange.own, h.bought] at hown'
    rw [← Except.ok.injEq, ← hown', ← hown]
    rfl
  | takeOfferPermissionlessV2 args =>
    simp only [SupplyChange.own, h.bought] at hown'
    rw [← Except.ok.injEq, ← hown', ← hown]
    rfl
  | openSwapBuy args =>
    simp only [SupplyChange.own, h.bought] at hown'
    rw [← Except.ok.injEq, ← hown', ← hown]
    rfl
  | fulfillRedemptionRequest args =>
    simp only [SupplyChange.own, bind_eq_ok, pure_eq_ok, Prod.mk.injEq] at hown hown'
    rcases hown with ⟨_, hn, rfl, rfl⟩
    rcases hown' with ⟨_, hn', rfl, rfl⟩
    rw [h.redeemed hn hn']
  | openSwapSell args =>
    simp only [SupplyChange.own, bind_eq_ok, pure_eq_ok, Prod.mk.injEq] at hown hown'
    rcases hown with ⟨_, hn, rfl, rfl⟩
    rcases hown' with ⟨_, hn', rfl, rfl⟩
    rw [h.sold hn hn']
  | mintTo boss amount =>
    cases hown
    cases hown'
    rfl
  | settleBuffer worker =>
    cases hown
    cases hown'
    rfl
  | _ => exact absurd hfixed id

end Amounts

end Terms

section Settled

variable {mint : MintAccount} {result : BufferAccrualResult} {own : List LedgerOp}
  {mintedAmount burnedAmount nav : Nat} {b b' : BufferState}

/-- The buffer has accrued up to now, and its baseline is the actual supply. -/
structure World.SettledAt (clock : Clock) (w : World) (b : BufferState) : Prop where
  bufferState : w.bufferState = some b
  lastAccrualTimestamp : b.lastAccrualTimestamp = clock.unixTimestamp
  previousSupply : b.previousSupply = w.ledger.supply w.state.onycMint

def World.NavAt (clock : Clock) (w : World) (nav : Nat) : Prop :=
  ∃ (offer : Offer) (activeVector : OfferVector), w.offers w.state.mainOffer = some offer ∧
    getActiveVectorAndCurrentPrice offer clock.time = .ok (activeVector, nav)

theorem World.NavAt.unique {nav' : Nat} (h : w.NavAt clock nav) (h' : w.NavAt clock nav')
    : nav' = nav := by
  rcases h with ⟨offer, _, hoffer, hnav⟩
  rcases h' with ⟨offer', _, hoffer', hnav'⟩
  rw [hoffer, Option.some.injEq] at hoffer'
  subst hoffer'
  rw [hnav, Except.ok.injEq, Prod.mk.injEq] at hnav'
  exact hnav'.2.symm

theorem SameTerms.navAt (h : SameTerms w w') (hnav : w'.NavAt clock nav) : w.NavAt clock nav := by
  unfold World.NavAt at hnav ⊢
  rw [h.state, h.offers] at hnav
  exact hnav

theorem SameTerms.controlsOnyc (h : SameTerms w w') (hcontrols : w.ControlsOnyc)
    : w'.ControlsOnyc := by
  unfold World.ControlsOnyc
  rw [h.state, h.mints]
  exact hcontrols

theorem calculateGrossBufferAccrual_no_time {previousSupply grossYield currentYield : Nat}
    : calculateGrossBufferAccrual previousSupply grossYield currentYield 0 = .ok 0 := by
  unfold calculateGrossBufferAccrual calculateAccrualFromAprDelta
  rw [if_pos (.inr (.inr rfl))]
  rfl

namespace TrackedStep

variable (h : TrackedStep clock instruction w w₁ w' mint result own mintedAmount burnedAmount)

include h

theorem settledAt (hstate : w'.state = w.state)
    : ∃ (b : BufferState), w'.SettledAt clock b ∧
        b.performanceFeeHighWatermark = result.newPerformanceFeeHighWatermark := by
  rcases h.baseline with ⟨b, hb, hprevious, htimestamp, hwatermark⟩
  refine ⟨b, ⟨hb, htimestamp, ?_⟩, hwatermark⟩
  rw [hprevious, hstate]

theorem navAt : w.NavAt clock result.currentNav := by
  rcases h.accrued with ⟨offer, _, _, _, hoffer, _, accrued⟩
  rcases accrued.gross with ⟨activeVector, hactive, _⟩
  exact ⟨offer, activeVector, hoffer, hactive⟩

theorem currentNav_le : result.currentNav ≤ result.newPerformanceFeeHighWatermark := by
  rcases h.accrued with ⟨_, _, _, _, _, _, accrued⟩
  exact accrued.currentNav_le

theorem no_time (hsettled : w.SettledAt clock b)
    : result.bufferMintAmount = 0 ∧
      (w.ledger.supply w.state.onycMint ≠ 0 → result.newPerformanceFeeHighWatermark
        = max b.performanceFeeHighWatermark result.currentNav) := by
  rcases h.accrued with ⟨_, before, _, _, _, hbuffer, accrued⟩
  rw [hsettled.bufferState, Option.some.injEq] at hbuffer
  subst hbuffer
  constructor
  . rcases accrued.gross with ⟨_, _, hgross⟩
    rw [hsettled.lastAccrualTimestamp, Int.sub_self, show asU64 0 = 0 from rfl,
      calculateGrossBufferAccrual_no_time, Except.ok.injEq] at hgross
    exact hgross.symm
  . intro hsupply
    rw [accrued.watermark, hsettled.previousSupply, if_neg hsupply]

end TrackedStep

end Settled

section Runs

open Run

variable {u u' : World} {b : BufferState} {instructions instructions' : List Instruction}

def AmountOf (clock : Clock) (w : World) (instruction : Instruction) (amounts : Nat × Nat) : Prop :=
  instruction.FixedSupplyChange w.state.onycMint ∧ ∃ (w' : World) (gross : Nat), SameTerms w w' ∧
    SupplyChange.own clock w' gross instruction = .ok amounts

theorem amountOf_rightUnique : Relator.RightUnique (AmountOf clock w) := by
  intro instruction amounts amounts' h h'
  rcases h with ⟨hfixed, _, _, hterms, hown⟩
  rcases h' with ⟨_, _, _, hterms', hown'⟩
  exact (hterms'.symm.trans hterms).own hfixed hown' hown

-- The last state of a run is left out: no accrual of the run reads it.
def NonzeroFrom (clock : Clock) (w : World) (instructions : List Instruction) : Prop :=
  ∀ (pre suf : List Instruction) (v : World), instructions = pre ++ suf → suf ≠ [] →
    run (execute clock) w pre = .ok v → v.ledger.supply v.state.onycMint ≠ 0

def NonzeroBetween (clock : Clock) (w : World) (instructions : List Instruction) : Prop :=
  ∀ (pre suf : List Instruction) (v : World), instructions = pre ++ suf → pre ≠ [] → suf ≠ [] →
    run (execute clock) w pre = .ok v → v.ledger.supply v.state.onycMint ≠ 0

theorem NonzeroFrom.head (h : NonzeroFrom clock w (instruction :: instructions))
    : w.ledger.supply w.state.onycMint ≠ 0 :=
  h [] _ w rfl (List.cons_ne_nil _ _) rfl

theorem NonzeroBetween.tail (h : NonzeroBetween clock w (instruction :: instructions))
    (hexecute : execute clock w instruction = .ok w') : NonzeroFrom clock w' instructions := by
  intro pre suf v heq hsuf hrun
  apply h (instruction :: pre) suf v
  . rw [heq]
    rfl
  . apply List.cons_ne_nil
  . exact hsuf
  . rw [run, hexecute]
    exact hrun

theorem NonzeroFrom.tail (h : NonzeroFrom clock w (instruction :: instructions))
    (hexecute : execute clock w instruction = .ok w') : NonzeroFrom clock w' instructions := by
  apply NonzeroBetween.tail _ hexecute
  intro pre suf v heq _
  exact h pre suf v heq

theorem run_settled (hterms : SameTerms w u) (hcontrols : w.ControlsOnyc)
    (hsettled : u.SettledAt clock b)
    (hnav : ∀ (nav : Nat), w.NavAt clock nav → nav ≤ b.performanceFeeHighWatermark)
    (hfixed : ∀ i ∈ instructions, i.FixedSupplyChange w.state.onycMint)
    (hrun : run (execute clock) u instructions = .ok u')
    : ∃ (b' : BufferState) (amounts : List (Nat × Nat)) (ops : List LedgerOp),
        u'.SettledAt clock b' ∧ SameTerms w u' ∧
        List.Forall₂ (AmountOf clock w) instructions amounts ∧
        u'.ledger.supply w.state.onycMint + (amounts.map Prod.snd).sum
          = u.ledger.supply w.state.onycMint + (amounts.map Prod.fst).sum ∧
        u'.ledger.log = ops.reverse ++ u.ledger.log ∧
        mintedTo isAccrualVault w.state.onycMint ops = 0 ∧
        (NonzeroFrom clock u instructions →
          b'.performanceFeeHighWatermark = b.performanceFeeHighWatermark) := by
  induction instructions generalizing u b with
  | nil =>
    cases hrun
    exact ⟨b, [], [], hsettled, hterms, .nil, rfl, rfl, rfl, fun _ => rfl⟩
  | cons i rest ih =>
    rw [run, bind_eq_ok] at hrun
    rcases hrun with ⟨v, hexecute, hrest⟩
    have hi := hfixed i List.mem_cons_self
    have hterms₁ := execute_sameTerms hi hexecute
    have hterms' := hterms.trans hterms₁
    rw [← hterms.state] at hi
    rcases execute_tracked hsettled.bufferState (hterms.controlsOnyc hcontrols) hi.bufferAware
      hexecute with ⟨_, _, result, _, mintedAmount, burnedAmount, h⟩
    rcases h.no_time hsettled with ⟨hzero, hwatermark⟩
    rcases h.settledAt hterms₁.state with ⟨b₁, hsettled₁, hb₁⟩
    rcases h.ops with ⟨ops₁, hlog₁, hvaults₁, _⟩
    have hnav₁ : ∀ (nav : Nat), w.NavAt clock nav → nav ≤ b₁.performanceFeeHighWatermark := by
      intro nav hnav'
      rw [hb₁, (hterms.navAt h.navAt).unique hnav']
      exact h.currentNav_le
    rcases ih hterms' hsettled₁ hnav₁ (fun j hj => hfixed j (List.mem_cons_of_mem i hj)) hrest with
      ⟨b', amounts, ops, hsettled', hterms'', hamounts, hsupply, hlog, hvaults, hkept⟩
    have hamount : AmountOf clock w i (mintedAmount, burnedAmount) :=
      ⟨hfixed i List.mem_cons_self, u, _, hterms, h.amounts⟩
    refine ⟨b', (mintedAmount, burnedAmount) :: amounts, ops₁ ++ ops, hsettled', hterms'',
      .cons hamount hamounts, ?_, ?_, ?_, ?_⟩
    . have hsupply₁ := h.supply
      rw [hterms.state] at hsupply₁
      simp only [List.map_cons, List.sum_cons]
      omega
    . rw [hlog, hlog₁, List.reverse_append, List.append_assoc]
    . rw [hterms.state, hzero] at hvaults₁
      rw [mintedTo_append, hvaults₁, hvaults]
    . intro hnonzero
      rw [hkept (hnonzero.tail hexecute), hb₁, hwatermark hnonzero.head]
      apply Nat.max_eq_left
      exact hnav _ (hterms.navAt h.navAt)

structure Outcome (clock : Clock) (w u : World) (instructions : List Instruction)
    (result : BufferAccrualResult) (b : BufferState) (amounts : List (Nat × Nat))
    (ops : List LedgerOp) : Prop where
  settled : u.SettledAt clock b
  terms : SameTerms w u
  own : List.Forall₂ (AmountOf clock w) instructions amounts
  supply : u.ledger.supply w.state.onycMint + (amounts.map Prod.snd).sum
    = w.ledger.supply w.state.onycMint + result.bufferMintAmount + (amounts.map Prod.fst).sum
  log : u.ledger.log = ops.reverse ++ w.ledger.log
  total : mintedTo isAccrualVault w.state.onycMint ops = result.bufferMintAmount
  reserve : mintedTo (fun k => k = .reserveVaultAuthority) w.state.onycMint ops
    = result.reserveMintAmount
  managementFee : mintedTo (fun k => k = .configurableVault .managementFee) w.state.onycMint ops
    = result.managementFeeMintAmount
  performanceFee : mintedTo (fun k => k = .configurableVault .performanceFee) w.state.onycMint ops
    = result.performanceFeeMintAmount
  watermark : NonzeroBetween clock w instructions →
    b.performanceFeeHighWatermark = result.newPerformanceFeeHighWatermark

theorem mintedTo_append_of_vaults {p : Pubkey → Bool} {m : Pubkey} {ops ops' : List LedgerOp}
    (hp : ∀ (k : Pubkey), p k = true → isAccrualVault k = true)
    (h : mintedTo isAccrualVault m ops' = 0) : mintedTo p m (ops ++ ops') = mintedTo p m ops := by
  have hle : mintedTo p m ops' ≤ mintedTo isAccrualVault m ops' := mintedTo_mono hp
  rw [mintedTo_append]
  omega

theorem run_outcome {before : BufferState} (hbuffer : w.bufferState = some before)
    (hcontrols : w.ControlsOnyc)
    (hfixed : ∀ i ∈ instruction :: instructions, i.FixedSupplyChange w.state.onycMint)
    (hrun : run (execute clock) w (instruction :: instructions) = .ok u)
    : ∃ (offer : Offer) (mint : MintAccount) (after : BufferState) (l' : Ledger)
        (result : BufferAccrualResult) (b : BufferState) (amounts : List (Nat × Nat))
        (ops : List LedgerOp),
        w.offers w.state.mainOffer = some offer ∧ w.loadMint w.state.onycMint = .ok mint ∧
        accrueBuffer w.state before offer mint w.ledger clock.unixTimestamp
          = .ok (result, after, l') ∧
        Outcome clock w u (instruction :: instructions) result b amounts ops := by
  rw [run, bind_eq_ok] at hrun
  rcases hrun with ⟨v, hexecute, hrest⟩
  have hi := hfixed _ List.mem_cons_self
  have hterms := execute_sameTerms hi hexecute
  rcases execute_tracked hbuffer hcontrols hi.bufferAware hexecute with
    ⟨_, mint, result, _, mintedAmount, burnedAmount, h⟩
  rcases h.accrued with ⟨offer, before', after, l', hoffer, hbuffer', accrued⟩
  rw [hbuffer, Option.some.injEq] at hbuffer'
  subst hbuffer'
  rcases h.settledAt hterms.state with ⟨b₁, hsettled₁, hb₁⟩
  rcases h.ops with ⟨ops₁, hlog₁, htotal, hreserve, hmanagement, hperformance, _⟩
  have hnav : ∀ (nav : Nat), w.NavAt clock nav → nav ≤ b₁.performanceFeeHighWatermark := by
    intro nav hnav
    rw [hb₁, h.navAt.unique hnav]
    exact h.currentNav_le
  rcases run_settled hterms hcontrols hsettled₁ hnav
    (fun j hj => hfixed j (List.mem_cons_of_mem _ hj)) hrest with
    ⟨b, amounts, ops, hsettled, hterms', hamounts, hsupply, hlog, hvaults, hkept⟩
  refine ⟨offer, mint, after, l', result, b, (mintedAmount, burnedAmount) :: amounts, ops₁ ++ ops,
    hoffer, h.loadMint, accrued.computed, ?_⟩
  constructor
  . exact hsettled
  . exact hterms'
  . exact .cons ⟨hi, w, _, .refl w, h.amounts⟩ hamounts
  . have hsupply₁ := h.supply
    simp only [List.map_cons, List.sum_cons]
    omega
  . rw [hlog, hlog₁, List.reverse_append, List.append_assoc]
  . rw [mintedTo_append_of_vaults (fun _ => id) hvaults, htotal]
  . rw [mintedTo_append_of_vaults (by simp [isAccrualVault]) hvaults, hreserve]
  . rw [mintedTo_append_of_vaults (by simp [isAccrualVault]) hvaults, hmanagement]
  . rw [mintedTo_append_of_vaults (by simp [isAccrualVault]) hvaults, hperformance]
  . intro hnonzero
    rw [hkept (hnonzero.tail hexecute), hb₁]

structure SameBuffer (onycMint : Pubkey) (w u u' : World) (b b' : BufferState)
    (ops ops' : List LedgerOp) : Prop where
  log : u.ledger.log = ops.reverse ++ w.ledger.log
  log' : u'.ledger.log = ops'.reverse ++ w.ledger.log
  total : mintedTo isAccrualVault onycMint ops = mintedTo isAccrualVault onycMint ops'
  reserve : mintedTo (fun k => k = .reserveVaultAuthority) onycMint ops
    = mintedTo (fun k => k = .reserveVaultAuthority) onycMint ops'
  managementFee : mintedTo (fun k => k = .configurableVault .managementFee) onycMint ops
    = mintedTo (fun k => k = .configurableVault .managementFee) onycMint ops'
  performanceFee : mintedTo (fun k => k = .configurableVault .performanceFee) onycMint ops
    = mintedTo (fun k => k = .configurableVault .performanceFee) onycMint ops'
  supply : u.ledger.supply onycMint = u'.ledger.supply onycMint
  bufferState : u.bufferState = some b
  bufferState' : u'.bufferState = some b'
  previousSupply : b.previousSupply = b'.previousSupply
  lastAccrualTimestamp : b.lastAccrualTimestamp = b'.lastAccrualTimestamp

theorem Outcome.same {result : BufferAccrualResult} {b b' : BufferState}
    {amounts amounts' : List (Nat × Nat)} {ops ops' : List LedgerOp}
    (h : Outcome clock w u instructions result b amounts ops)
    (h' : Outcome clock w u' instructions' result b' amounts' ops')
    (hperm : instructions.Perm instructions')
    : SameBuffer w.state.onycMint w u u' b b' ops ops' := by
  -- the same amounts, in another order
  rcases List.perm_comp_forall₂ hperm h'.own with ⟨zs, hzs, hperm'⟩
  have heq : amounts = zs := amountOf_rightUnique.forall₂ h.own hzs
  subst heq
  have hminted := (hperm'.map Prod.fst).sum_eq
  have hburned := (hperm'.map Prod.snd).sum_eq
  have hsupply : u.ledger.supply w.state.onycMint = u'.ledger.supply w.state.onycMint := by
    have := h.supply
    have := h'.supply
    omega
  constructor
  . exact h.log
  . exact h'.log
  . rw [h.total, h'.total]
  . rw [h.reserve, h'.reserve]
  . rw [h.managementFee, h'.managementFee]
  . rw [h.performanceFee, h'.performanceFee]
  . exact hsupply
  . exact h.settled.bufferState
  . exact h'.settled.bufferState
  . rw [h.settled.previousSupply, h'.settled.previousSupply, h.terms.state, h'.terms.state, hsupply]
  . rw [h.settled.lastAccrualTimestamp, h'.settled.lastAccrualTimestamp]

theorem run_cons_no_accrual {before : BufferState} {v v' : World}
    (hbuffer : w.bufferState = some before) (hcontrols : w.ControlsOnyc)
    (hfixed : ∀ i ∈ instructions, i.FixedSupplyChange w.state.onycMint) (hne : instructions ≠ [])
    (hi : instruction.FixedSupplyChange w.state.onycMint)
    (hrun : run (execute clock) w instructions = .ok v)
    (hexecute : execute clock v instruction = .ok v')
    : ∃ (ops : List LedgerOp), v'.ledger.log = ops.reverse ++ v.ledger.log ∧
        mintedTo isAccrualVault w.state.onycMint ops = 0 := by
  cases instructions with
  | nil => exact absurd rfl hne
  | cons first rest =>
    rcases run_outcome hbuffer hcontrols hfixed hrun with ⟨_, _, _, _, _, b, _, _, _, _, _, h⟩
    rw [← h.terms.state] at hi ⊢
    rcases execute_tracked h.settled.bufferState (h.terms.controlsOnyc hcontrols) hi.bufferAware
      hexecute with ⟨_, _, _, _, _, _, hstep⟩
    rcases hstep.ops with ⟨ops, hlog, hvaults, _⟩
    rw [(hstep.no_time h.settled).1] at hvaults
    exact ⟨ops, hlog, hvaults⟩

theorem run_perm {before : BufferState} (hbuffer : w.bufferState = some before)
    (hcontrols : w.ControlsOnyc)
    (hfixed : ∀ i ∈ instructions, i.FixedSupplyChange w.state.onycMint)
    (hperm : instructions.Perm instructions') (hrun : run (execute clock) w instructions = .ok u)
    (hrun' : run (execute clock) w instructions' = .ok u')
    : (∃ (b b' : BufferState) (ops ops' : List LedgerOp),
        SameBuffer w.state.onycMint w u u' b b' ops ops' ∧
        (NonzeroBetween clock w instructions → NonzeroBetween clock w instructions' →
          b.performanceFeeHighWatermark = b'.performanceFeeHighWatermark)) ∧
      ∀ (pre suf : List Instruction) (i : Instruction) (v v' : World),
        instructions = pre ++ i :: suf → pre ≠ [] → run (execute clock) w pre = .ok v →
        execute clock v i = .ok v' →
        ∃ (ops : List LedgerOp), v'.ledger.log = ops.reverse ++ v.ledger.log ∧
          mintedTo isAccrualVault w.state.onycMint ops = 0 := by
  constructor
  . cases instructions with
    | nil =>
      rw [List.nil_perm] at hperm
      subst hperm
      cases hrun
      cases hrun'
      refine ⟨before, before, [], [], ?_, fun _ _ => rfl⟩
      exact ⟨rfl, rfl, rfl, rfl, rfl, rfl, rfl, hbuffer, hbuffer, rfl, rfl⟩
    | cons first rest =>
      have hne : instructions' ≠ [] := by
        rintro rfl
        exact List.not_perm_cons_nil hperm
      rcases List.exists_cons_of_ne_nil hne with ⟨first', rest', rfl⟩
      have hfixed' : ∀ i ∈ first' :: rest', i.FixedSupplyChange w.state.onycMint :=
        fun i hi => hfixed i (hperm.mem_iff.mpr hi)
      rcases run_outcome hbuffer hcontrols hfixed hrun with
        ⟨offer, mint, _, _, result, b, amounts, ops, hoffer, hmint, hcomputed, h⟩
      rcases run_outcome hbuffer hcontrols hfixed' hrun' with
        ⟨offer', mint', _, _, result', b', amounts', ops', hoffer', hmint', hcomputed', h'⟩
      -- both runs accrue first, and from the same state
      rw [hoffer, Option.some.injEq] at hoffer'
      rw [hmint, Except.ok.injEq] at hmint'
      subst hoffer' hmint'
      rw [hcomputed, Except.ok.injEq, Prod.mk.injEq] at hcomputed'
      rw [← hcomputed'.1] at h'
      refine ⟨b, b', ops, ops', h.same h' hperm, ?_⟩
      intro hnonzero hnonzero'
      rw [h.watermark hnonzero, h'.watermark hnonzero']
  . intro pre suf i v v' heq hpre hrun hexecute
    have hmem : ∀ j ∈ pre, j.FixedSupplyChange w.state.onycMint := by
      intro j hj
      apply hfixed
      rw [heq]
      exact List.mem_append_left _ hj
    have hi : i.FixedSupplyChange w.state.onycMint := by
      apply hfixed
      rw [heq]
      exact List.mem_append_right _ List.mem_cons_self
    exact run_cons_no_accrual hbuffer hcontrols hmem hpre hi hrun hexecute

theorem run_perm_reversed
    : ∃ (w u u' : World) (b b' : BufferState) (ops ops' : List LedgerOp),
        run (execute ⟨200000, 0⟩) w Sample.supplyChanges = .ok u ∧
        run (execute ⟨200000, 0⟩) w Sample.supplyChanges.reverse = .ok u' ∧
        w.ledger.supply Sample.onyc = 99990000999 ∧ u.ledger.supply Sample.onyc = 145983515741 ∧
        SameBuffer w.state.onycMint w u u' b b' ops ops' := by
  have hview : (runCalls Sample.world (Sample.launch ++ Sample.swaps)).toOption.bind (fun w =>
      w.bufferState.bind fun before =>
        (run (execute ⟨200000, 0⟩) w Sample.supplyChanges).toOption.bind fun u =>
          (run (execute ⟨200000, 0⟩) w Sample.supplyChanges.reverse).toOption.bind fun _ =>
            some (w.state, w.mints Sample.onyc, w.ledger.supply Sample.onyc,
              u.ledger.supply Sample.onyc)) =
      some (Sample.world.state, some ⟨9, some .mintAuthority, .splToken, none⟩, 99990000999,
        145983515741) := by decide +kernel
  rcases exists_ok_of_view hview with ⟨w, _, hview⟩
  rcases Option.bind_eq_some_iff.mp hview with ⟨before, hbuffer, hview⟩
  rcases exists_ok_of_view hview with ⟨u, hrun, hview⟩
  rcases exists_ok_of_view hview with ⟨u', hrun', hfacts⟩
  simp only [Option.some.injEq, Prod.mk.injEq] at hfacts
  rcases hfacts with ⟨hstate, hmint, hsupply, hsupply'⟩
  have honyc : w.state.onycMint = Sample.onyc := by
    rw [hstate]
    rfl
  have hcontrols : w.ControlsOnyc := by
    unfold World.ControlsOnyc
    rw [honyc, hmint]
    exact ⟨_, rfl, rfl⟩
  have hfixed : ∀ i ∈ Sample.supplyChanges, i.FixedSupplyChange w.state.onycMint := by
    rw [honyc]
    have hne : Sample.usdc ≠ Sample.onyc := by decide
    simp [Sample.supplyChanges, Sample.purchase, Instruction.FixedSupplyChange, hne, hne.symm]
  rcases (run_perm hbuffer hcontrols hfixed (List.reverse_perm _).symm hrun hrun').1 with
    ⟨b, b', ops, ops', hsame, _⟩
  exact ⟨w, u, u', b, b', ops, ops', hrun, hrun', hsupply, hsupply', hsame⟩

end Runs

end OnreApp
