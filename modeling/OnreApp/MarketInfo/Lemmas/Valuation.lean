import OnreApp.Lib.Run
import OnreApp.MarketInfo.Impl.Valuation
import OnreApp.Offer.Lemmas.Vectors

/-!
A vector has a price from its base time on, but it is active from its start time on, and
`add_offer_vector` accepts a start time before the base time.
-/

namespace OnreApp

open Checked Run

abbrev OverflowOnly {α : Type} (x : Result α) : Prop :=
  FailsOnlyWith (fun e => e = .onre .overflowError) x

theorem overflowOnly_okOr {α : Type} (o : Option α) : OverflowOnly (okOr o .overflowError) :=
  failsOnlyWith_okOr rfl

theorem overflowOnly_require (c : Prop) [Decidable c] :
    OverflowOnly (require c .overflowError) :=
  failsOnlyWith_require (fun _ => rfl)

theorem dailyFactor_overflowOnly (apr : Nat) : OverflowOnly (dailyFactor apr) := by
  unfold dailyFactor
  apply failsOnlyWith_bind (overflowOnly_okOr _)
  intro scaled _
  apply failsOnlyWith_bind (overflowOnly_okOr _)
  intro adjusted _
  apply failsOnlyWith_bind (overflowOnly_okOr _)
  intro increment _
  apply overflowOnly_okOr

theorem calculateVectorPrice_overflowOnly (apr basePrice elapsedTime : Nat) :
    OverflowOnly (calculateVectorPrice apr basePrice elapsedTime) := by
  unfold calculateVectorPrice
  split
  . apply failsOnlyWith_pure
  . apply failsOnlyWith_bind (dailyFactor_overflowOnly _)
    intro factor _
    dsimp only
    apply failsOnlyWith_bind (overflowOnly_okOr _)
    intro fullDayFactor _
    apply failsOnlyWith_bind (overflowOnly_okOr _)
    intro fullDayPrice _
    split
    . apply failsOnlyWith_bind (overflowOnly_require _)
      intros
      apply failsOnlyWith_pure
    . apply failsOnlyWith_bind (overflowOnly_okOr _)
      intro nextDayPrice _
      apply failsOnlyWith_bind (overflowOnly_okOr _)
      intro dailyDelta _
      apply failsOnlyWith_bind (overflowOnly_okOr _)
      intro partialDayDelta _
      apply failsOnlyWith_bind (overflowOnly_okOr _)
      intro price _
      apply failsOnlyWith_bind (overflowOnly_require _)
      intros
      apply failsOnlyWith_pure

theorem calculateStepPriceAt_overflowOnly {apr basePrice baseTime priceFixDuration time : Nat}
    (htime : baseTime ≤ time) (hduration : 0 < priceFixDuration) :
    OverflowOnly (calculateStepPriceAt apr basePrice baseTime priceFixDuration time) := by
  unfold calculateStepPriceAt
  apply failsOnlyWith_bind
  . apply failsOnlyWith_require
    intro hlate
    exact absurd htime hlate
  . intro _ _
    dsimp only
    have hdiv : checkedDiv (time - baseTime) priceFixDuration
        = some ((time - baseTime) / priceFixDuration) := by
      rw [checkedDiv_eq_some]
      exact ⟨Nat.ne_of_gt hduration, rfl⟩
    rw [hdiv]
    apply failsOnlyWith_bind
    . intro e h
      cases h
    . intro currentStep _
      apply failsOnlyWith_bind (overflowOnly_okOr _)
      intro nextStep _
      apply failsOnlyWith_bind (overflowOnly_okOr _)
      intro stepEndTime _
      apply calculateVectorPrice_overflowOnly

theorem computeSignedPriceDelta_overflowOnly (currentPrice previousPrice : Nat) :
    OverflowOnly (computeSignedPriceDelta currentPrice previousPrice) := by
  unfold computeSignedPriceDelta
  apply failsOnlyWith_bind (overflowOnly_okOr _)
  intro delta _
  apply overflowOnly_okOr

section Avoids

variable {code : OnreError}

theorem calculateApyFromApr_avoids (aprScaled : Nat) (hoverflow : .overflow ≠ code)
    (hdiv : .divByZero ≠ code) : Avoids code (calculateApyFromApr aprScaled) := by
  unfold calculateApyFromApr
  iterate 8
    apply failsOnlyWith_bind
    . first
        | apply avoids_okOr _ hoverflow
        | apply avoids_okOr _ hdiv
    intros
  apply failsOnlyWith_bind (avoids_require _ hoverflow)
  intros
  apply failsOnlyWith_pure

theorem calculateNavAdjustment_avoids (offer : Offer) (active : OfferVector)
    (hoverflow : .overflow ≠ code) : Avoids code (calculateNavAdjustment offer active) := by
  unfold calculateNavAdjustment
  apply failsOnlyWith_bind
  . cases OnreApp.getNavAdjustmentSnapshot offer active with
    | ok snapshot => apply failsOnlyWith_pure
    | error e =>
      rintro e' h heq
      cases h
      cases heq
      exact hoverflow rfl
  . intros
    apply failsOnlyWith_pure

end Avoids

namespace Offer

def Priceable (offer : Offer) : Prop :=
  ∀ v, offer.Stored v → v.baseTime ≤ v.startTime ∧ 0 < v.priceFixDuration

variable {offer offer' : Offer} {now time : Nat} {active : OfferVector}

theorem Priceable.getActiveVectorAndCurrentPrice (hoffer : offer.Priceable)
    (hactive : findActiveVectorAt offer time = .ok active) :
    OverflowOnly (OnreApp.getActiveVectorAndCurrentPrice offer time) := by
  unfold OnreApp.getActiveVectorAndCurrentPrice
  rw [hactive, ok_bind]
  rcases findActive_inv (okOr_eq_ok.mp hactive) with ⟨hstored, hstarted, _⟩
  rcases hoffer active hstored with ⟨hbase, hduration⟩
  apply failsOnlyWith_bind (calculateStepPriceAt_overflowOnly (by omega) hduration)
  intros
  apply failsOnlyWith_pure

theorem Priceable.getNavAdjustmentSnapshot (hoffer : offer.Priceable)
    (hactive : offer.Stored active) :
    OverflowOnly (OnreApp.getNavAdjustmentSnapshot offer active) := by
  unfold OnreApp.getNavAdjustmentSnapshot computeVectorPriceAtTime
  rcases hoffer active hactive with ⟨hbase, hduration⟩
  apply failsOnlyWith_bind (calculateStepPriceAt_overflowOnly hbase hduration)
  intro currentPrice _
  split
  . next previous hprevious =>
    unfold findPreviousVector OfferVector.findPrevious at hprevious
    have hmem := mem_filter_nonzero.mp (MaxByKey.mem_of_maxByKey hprevious)
    rcases hoffer previous hmem.1 with ⟨hbase', hduration'⟩
    have hbefore := hmem.2
    apply failsOnlyWith_bind (calculateStepPriceAt_overflowOnly (by omega) hduration')
    intro previousPrice _
    apply failsOnlyWith_bind (computeSignedPriceDelta_overflowOnly _ _)
    intros
    apply failsOnlyWith_pure
  . apply failsOnlyWith_bind (overflowOnly_okOr _)
    intros
    apply failsOnlyWith_pure

theorem Priceable.recomputeMarketStats (hoffer : offer.Priceable) (clock : Clock)
    (hactive : findActiveVectorAt offer clock.time = .ok active) (onycMint : MintAccount)
    (excluded : Nat) :
    Avoids .noActiveVector (OnreApp.recomputeMarketStats clock offer onycMint excluded) := by
  unfold OnreApp.recomputeMarketStats
  iterate 2
    apply failsOnlyWith_bind
    . apply avoids_require
      decide
    intros
  apply failsOnlyWith_bind
  . intro e he
    rw [hoffer.getActiveVectorAndCurrentPrice hactive e he]
    decide
  . rintro ⟨activeVector, nav⟩ _
    apply failsOnlyWith_bind (calculateApyFromApr_avoids _ (by decide) (by decide))
    intros
    apply failsOnlyWith_bind (calculateNavAdjustment_avoids _ _ (by decide))
    intros
    iterate 2
      apply failsOnlyWith_bind
      . apply avoids_okOr
        decide
      intros
    apply failsOnlyWith_pure

end Offer

def VectorCall.BaseBeforeStart (now : Nat) : VectorCall → Prop
  | .add args => args.baseTime ≤ args.startTime now
  | .delete _ => True
  | .deleteAll => True

theorem Offer.call_priceable {offer offer' : Offer} {now : Nat} {call : VectorCall}
    (hcall : call.BaseBeforeStart now) (hoffer : offer.Priceable)
    (h : offer.call now call = .ok offer') : offer'.Priceable := by
  cases call with
  | add args =>
    have hadded := addOfferVector_inv h
    intro v hv
    cases hadded.stored_of v hv with
    | inl hnew =>
      rw [hnew]
      exact ⟨hcall, hadded.priceFixDuration_pos⟩
    | inr hold => exact hoffer v hold
  | delete vectorStartTime =>
    intro v hv
    exact hoffer v (deleteOfferVector_stored h hv)
  | deleteAll =>
    intro v hv
    rw [← pure_eq_ok.mp h] at hv
    exact absurd hv (deleteAllOfferVectors_stored offer v)

theorem Offer.run_priceable {tokenInMint tokenOutMint : Pubkey} {feeBasisPoints : Nat}
    {needsApproval allowPermissionless : Bool} {fresh offer : Offer}
    {calls : List (Nat × VectorCall)}
    (hfresh : makeOffer tokenInMint tokenOutMint feeBasisPoints needsApproval
      allowPermissionless = .ok fresh)
    (hcalls : ∀ call ∈ calls, call.2.BaseBeforeStart call.1)
    (hrun : run (fun offer call => offer.call call.1 call.2) fresh calls = .ok offer) :
    ∀ (clock : Clock) (active : OfferVector),
      findActiveVectorAt offer clock.time = .ok active →
      OverflowOnly (OnreApp.getActiveVectorAndCurrentPrice offer clock.time) ∧
      OverflowOnly (OnreApp.getNavAdjustmentSnapshot offer active) ∧
      ∀ (onycMint : MintAccount) (excluded : Nat),
        OnreApp.recomputeMarketStats clock offer onycMint excluded
          ≠ .error (.onre .noActiveVector) := by
  have hpriceable : offer.Priceable := by
    apply Run.run_inv Priceable (fun call => call.2.BaseBeforeStart call.1) _ hcalls _ hrun
    . intro offer offer' call hcall hoffer h
      apply call_priceable hcall hoffer h
    . intro v hv
      exact absurd hv (makeOffer_stored hfresh v)
  intro clock active hactive
  refine ⟨?_, ?_, ?_⟩
  . exact hpriceable.getActiveVectorAndCurrentPrice hactive
  . exact hpriceable.getNavAdjustmentSnapshot (findActive_inv (okOr_eq_ok.mp hactive)).1
  . intro onycMint excluded h
    exact hpriceable.recomputeMarketStats clock hactive onycMint excluded _ h rfl

theorem Offer.run_priceable_default_start :
    let fresh : Offer := {
      tokenInMint := .default
      tokenOutMint := .default
      vectors := Vector.replicate maxVectors OfferVector.default
      feeBasisPoints := 0
      needsApproval := false
      allowPermissionless := false
      disabled := false
      feeBasisPointsPermissionless := 0
    }
    let args : VectorArgs := {
      startTimeOpt := none
      baseTime := 200
      basePrice := 1000000000
      apr := 0
      priceFixDuration := 60
    }
    let offer := { fresh with vectors := fresh.vectors.set 0 (args.vector 100) }
    run (fun offer call => offer.call call.1 call.2) fresh [(100, .add args)] = .ok offer ∧
    findActiveVectorAt offer 200 = .ok (args.vector 100) ∧
    OverflowOnly (OnreApp.getActiveVectorAndCurrentPrice offer 200) := by
  intro fresh args offer
  have hfresh : makeOffer .default .default 0 false false = .ok fresh := by decide
  have hrun : run (fun offer call => offer.call call.1 call.2) fresh [(100, .add args)]
      = .ok offer := by decide +kernel
  have hactive : findActiveVectorAt offer 200 = .ok (args.vector 100) := by decide +kernel
  refine ⟨hrun, hactive, ?_⟩
  apply (Offer.run_priceable hfresh _ hrun { unixTimestamp := 200, slot := 0 } _ hactive).1
  intro call hcall
  rw [List.mem_singleton] at hcall
  rw [hcall]
  show 200 ≤ 200
  omega

theorem Offer.run_unpriceable_explicit_start :
    let fresh : Offer := {
      tokenInMint := .default
      tokenOutMint := .default
      vectors := Vector.replicate maxVectors OfferVector.default
      feeBasisPoints := 0
      needsApproval := false
      allowPermissionless := false
      disabled := false
      feeBasisPointsPermissionless := 0
    }
    let args : VectorArgs := {
      startTimeOpt := some 100
      baseTime := 200
      basePrice := 1000000000
      apr := 0
      priceFixDuration := 60
    }
    ∃ offer, makeOffer .default .default 0 false false = .ok fresh ∧
      run (fun offer call => offer.call call.1 call.2) fresh [(100, .add args)] = .ok offer ∧
      findActiveVectorAt offer 100 = .ok (args.vector 100) ∧
      OnreApp.getActiveVectorAndCurrentPrice offer 100 = .error (.onre .noActiveVector) ∧
      OnreApp.getNavAdjustmentSnapshot offer (args.vector 100)
        = .error (.onre .noActiveVector) := by
  intro fresh args
  refine ⟨{ fresh with vectors := fresh.vectors.set 0 (args.vector 100) }, ?_⟩
  decide +kernel

end OnreApp
