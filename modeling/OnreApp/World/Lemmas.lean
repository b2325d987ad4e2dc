import OnreApp.Buffer.Lemmas.AccrueBuffer
import OnreApp.World.Settings

/-!
Most instructions that touch ONyc have one shape: an accrual, their own operations on the ledger,
the new baseline of the buffer, the market stats. `SupplyStep` is that shape.
-/

namespace OnreApp

open Checked TokenLedger

variable {clock : Clock} {w w₁ w₂ w' : World} {mint : MintAccount} {key : Pubkey}
  {accrual : Option BufferAccrualResult} {n : Nat}

section Load

@[simp]
theorem World.load_eq_ok {α : Type} {account : Option α} {a : α} :
    World.load account = .ok a ↔ account = some a :=
  okOr_eq_ok

theorem World.loadMint_inv (h : w.loadMint key = .ok mint) :
    mint.key = key ∧ mint.supply = w.ledger.supply key := by
  unfold World.loadMint at h
  simp only [bind_eq_ok, pure_eq_ok] at h
  rcases h with ⟨info, _, rfl⟩
  exact ⟨rfl, rfl⟩

theorem World.loadMint_isSome (h : w.loadMint key = .ok mint) : (w.mints key).isSome = true := by
  simp only [World.loadMint, bind_eq_ok, World.load_eq_ok] at h
  rcases h with ⟨info, hinfo, _⟩
  rw [hinfo]
  rfl

theorem World.loadMint_supply (h : w.loadMint key = .ok mint)
    : mint.supply = w.ledger.supply mint.key := by
  rcases World.loadMint_inv h with ⟨hkey, hsupply⟩
  rw [hkey, hsupply]

theorem World.loadMint_reload (h : w.loadMint key = .ok mint) (hmints : w'.mints = w.mints)
    : w'.loadMint key = .ok (mint.reload w'.ledger) := by
  simp only [World.loadMint, bind_eq_ok, World.load_eq_ok, pure_eq_ok] at h ⊢
  rcases h with ⟨info, hinfo, rfl⟩
  exact ⟨info, hmints ▸ hinfo, rfl⟩

theorem loadMainOfferIf_inv {needed : Bool} {mainOffer : Option Offer}
    (h : loadMainOfferIf needed w = .ok mainOffer)
    : ∀ (offer : Offer), mainOffer = some offer → w.offers w.state.mainOffer = some offer := by
  intro offer hoffer
  subst hoffer
  unfold loadMainOfferIf at h
  split at h
  . simp only [loadMainOffer, bind_eq_ok, okOr_eq_ok, pure_eq_ok, Option.some.injEq] at h
    rcases h with ⟨_, h, rfl⟩
    exact h
  . cases h

/-- What every trade at an offer checks first. -/
structure TradesAt (w : World) (key : Pubkey) (offer : Offer) : Prop where
  load : w.offers key = some offer
  notKilled : w.state.isKilled = false
  enabled : offer.disabled = false

end Load

structure MarketOnly (w w' : World) : Prop where
  state : w'.state = w.state
  mints : w'.mints = w.mints
  offers : w'.offers = w.offers
  redemptionOffers : w'.redemptionOffers = w.redemptionOffers
  redemptionRequests : w'.redemptionRequests = w.redemptionRequests
  events : w'.events = w.events
  excludedBalance : w'.circulatingSupplyExcludedBalance = w.circulatingSupplyExcludedBalance
  pairTerms : w'.settings.propAmmPairStates = w.settings.propAmmPairStates

namespace MarketOnly

theorem of_update {ledger : Ledger} {bufferState : Option BufferState}
    {marketStats : Option MarketStats}
    : MarketOnly w { w with ledger, bufferState, marketStats } :=
  ⟨rfl, rfl, rfl, rfl, rfl, rfl, rfl, rfl⟩

theorem refl (w : World) : MarketOnly w w := of_update

theorem trans (h : MarketOnly w w₁) (h' : MarketOnly w₁ w') : MarketOnly w w' where
  state := h'.state.trans h.state
  mints := h'.mints.trans h.mints
  offers := h'.offers.trans h.offers
  redemptionOffers := h'.redemptionOffers.trans h.redemptionOffers
  redemptionRequests := h'.redemptionRequests.trans h.redemptionRequests
  events := h'.events.trans h.events
  excludedBalance := h'.excludedBalance.trans h.excludedBalance
  pairTerms := h'.pairTerms.trans h.pairTerms

theorem haircuts (h : MarketOnly w w') (key : Pubkey)
    : (w'.propAmmPairStates key).map PropAmmPairState.minimumSellHaircutOnyc
        =
      (w.propAmmPairStates key).map PropAmmPairState.minimumSellHaircutOnyc := by
  have hterms := congrArg (Option.map PropAmmPairState.minimumSellHaircutOnyc)
    (congrFun h.pairTerms key)
  simp only [World.settings, Option.map_map] at hterms
  exact hterms

theorem switches (h : MarketOnly w w') : w'.switches = w.switches := by
  unfold World.switches
  rw [h.state, h.offers, h.redemptionOffers]

theorem keeps (h : MarketOnly w w') (hbuffer : w'.settings.bufferState = w.settings.bufferState)
    : w.Keeps w' := by
  refine ⟨?_, h.switches⟩
  have hpairs := h.pairTerms
  unfold World.settings at *
  dsimp only at hpairs hbuffer
  rw [h.state, h.mints, h.offers, h.redemptionOffers, hpairs, hbuffer]

end MarketOnly

inductive AccrualStep (clock : Clock) (w : World) (mint : MintAccount)
    : Option BufferAccrualResult → World → Prop where
  | none : AccrualStep clock w mint none w
  | some {offer : Offer} {before after : BufferState} {l' : Ledger} {result : BufferAccrualResult}
      (hoffer : w.offers w.state.mainOffer = some offer) (hmint : mint.key = w.state.onycMint)
      (hbuffer : w.bufferState = some before)
      (accrued : Accrued w.state offer mint clock.unixTimestamp before after w.ledger l' result)
      : AccrualStep clock w mint (some result) { w with bufferState := some after, ledger := l' }

namespace AccrualStep

def gross (accrual : Option BufferAccrualResult) : Nat :=
  (accrual.map BufferAccrualResult.bufferMintAmount).getD 0

def ops (key : Pubkey) (supply : Nat) (accrual : Option BufferAccrualResult) : List LedgerOp :=
  (accrual.map (accrualOps key supply)).getD []

@[simp]
theorem burned_ops {m key : Pubkey} {supply : Nat} : burned m (ops key supply accrual) = 0 := by
  cases accrual <;> simp [ops]

@[simp]
theorem debited_ops {k m key : Pubkey} {supply : Nat}
    : debited k m (ops key supply accrual) = 0 := by
  cases accrual <;> simp [ops]

theorem credited_ops {k m key : Pubkey} {supply : Nat} (hk : isAccrualVault k = false)
    : credited k m (ops key supply accrual) = 0 := by
  cases accrual with
  | none => rfl
  | some result => apply credited_accrualOps hk

theorem mintedTo_not_isAccrualVault_ops {m key : Pubkey} {supply : Nat}
    : mintedTo (fun account => !isAccrualVault account) m (ops key supply accrual) = 0 := by
  cases accrual with
  | none => rfl
  | some result => apply mintedTo_not_isAccrualVault_accrualOps

variable (h : AccrualStep clock w mint accrual w₁)

include h

theorem marketOnly : MarketOnly w w₁ := by
  cases h with
  | none => exact .refl w
  | some => exact .of_update

theorem some_inv {result : BufferAccrualResult} (hsome : accrual = .some result)
    : ∃ (offer : Offer) (before after : BufferState) (l' : Ledger),
        w.offers w.state.mainOffer = .some offer ∧ w.bufferState = .some before ∧
        Accrued w.state offer mint clock.unixTimestamp before after w.ledger l' result := by
  cases h with
  | none => cases hsome
  | some hoffer _ hbuffer accrued =>
    cases hsome
    exact ⟨_, _, _, _, hoffer, hbuffer, accrued⟩

theorem propAmmPairStates : w₁.propAmmPairStates = w.propAmmPairStates := by
  cases h <;> rfl

theorem bufferTerms : w₁.settings.bufferState = w.settings.bufferState := by
  cases h with
  | none => rfl
  | some _ _ hbuffer accrued =>
    rw [World.settings, World.settings, hbuffer, Option.map_some, Option.map_some,
      accrued.after_eq]
    rfl

theorem kept (hnone : accrual = .none) : w₁.bufferState = w.bufferState := by
  cases h with
  | none => rfl
  | some => cases hnone

theorem watermark {result : BufferAccrualResult} {b : BufferState} (hsome : accrual = .some result)
    (hb : w₁.bufferState = .some b)
    : b.performanceFeeHighWatermark = result.newPerformanceFeeHighWatermark := by
  cases h with
  | none => cases hsome
  | some _ _ _ accrued =>
    cases hsome
    cases hb
    rw [accrued.after_eq]

theorem performs
    : Performs u64Max w.ledger (ops mint.key (w.ledger.supply mint.key) accrual) w₁.ledger := by
  cases h with
  | none => exact .nil _
  | some _ _ _ accrued => exact accrued.performs

theorem minted_ops (m : Pubkey) (supply : Nat)
    : minted m (ops mint.key supply accrual) = if m = mint.key then gross accrual else 0 := by
  cases h with
  | none => simp [ops, gross]
  | some _ _ _ accrued =>
    simp only [ops, gross, Option.map_some, Option.getD_some]
    rw [minted_accrualOps, accrued.split]

theorem mintedTo_isAccrualVault_ops (m : Pubkey) (supply : Nat)
    : mintedTo isAccrualVault m (ops mint.key supply accrual)
        =
      if m = mint.key then gross accrual else 0 := by
  cases h with
  | none => simp [ops, gross]
  | some _ _ _ accrued =>
    simp only [ops, gross, Option.map_some, Option.getD_some]
    rw [mintedTo_isAccrualVault_accrualOps, accrued.split]

theorem supply : w₁.ledger.supply mint.key = w.ledger.supply mint.key + gross accrual := by
  have := h.performs.supply mint.key
  rw [h.minted_ops, if_pos rfl] at this
  simpa using this

theorem balance_le (k m : Pubkey) : w.ledger.balance k m ≤ w₁.ledger.balance k m := by
  have := h.performs.balance k m
  rw [debited_ops] at this
  omega

theorem supplyAfter_le (hmint : mint.supply = w.ledger.supply mint.key)
    (hpos : 0 < w.state.maxSupply) {destination : Pubkey} {n supplyAfter : Nat}
    (hmem : .mintTo w.state.onycMint destination n supplyAfter
      ∈ ops mint.key (w.ledger.supply mint.key) accrual)
    : supplyAfter ≤ w.state.maxSupply := by
  have hle := h.performs.supplyAfter_le hmem
  rw [h.minted_ops] at hle
  cases h with
  | none => cases hmem
  | some _ hkey _ accrued =>
    rw [if_pos hkey.symm] at hle
    rcases accrued.maxSupply hpos with hzero | hcap
    . simp only [ops, Option.map_some, Option.getD_some, accrued.ops_eq_nil hzero] at hmem
      cases hmem
    . rw [hmint, hkey] at hcap
      apply Nat.le_trans hle hcap

theorem gross_le (hpos : 0 < w.state.maxMintAmount) : gross accrual ≤ w.state.maxMintAmount := by
  cases h with
  | none => apply Nat.zero_le _
  | some _ _ _ accrued => exact accrued.maxMintAmount hpos

theorem reload_supply (hmint : mint.supply = w.ledger.supply mint.key)
    : (reloadAfterAccrual accrual mint w₁.ledger).supply = w₁.ledger.supply mint.key := by
  cases h with
  | none => exact hmint
  | some => rfl

end AccrualStep

@[simp]
theorem reloadAfterAccrual_key {l : Ledger}
    : (reloadAfterAccrual accrual mint l).key = mint.key := by
  unfold reloadAfterAccrual
  split <;> rfl

@[simp]
theorem reload_reloadAfterAccrual {l l' : Ledger}
    : (reloadAfterAccrual accrual mint l).reload l' = mint.reload l' := by
  unfold reloadAfterAccrual
  split <;> rfl

@[simp]
theorem programControlsMint_reloadAfterAccrual {l : Ledger}
    : programControlsMint (reloadAfterAccrual accrual mint l) = programControlsMint mint := by
  unfold reloadAfterAccrual
  split <;> rfl

theorem accrueBufferFromAccounts_inv {offer : Offer} {result : BufferAccrualResult}
    (hoffer : w.offers w.state.mainOffer = some offer) (hmint : mint.key = w.state.onycMint)
    (h : accrueBufferFromAccounts clock w offer mint = .ok (result, w₁))
    : AccrualStep clock w mint (some result) w₁ := by
  unfold accrueBufferFromAccounts at h
  simp only [loadBufferState, bind_eq_ok, okOr_eq_ok, require_eq_ok, pure_eq_ok,
    Prod.mk.injEq] at h
  rcases h with ⟨before, hbuffer, _, _, ⟨_, after, l'⟩, haccrue, rfl, rfl⟩
  exact .some hoffer hmint hbuffer (accrueBuffer_inv haccrue)

theorem accrueIf_inv {shouldAccrue : Bool} {mainOffer : Option Offer}
    (h : accrueIf shouldAccrue clock w mainOffer mint = .ok (accrual, w₁))
    (hoffer : ∀ (offer : Offer), mainOffer = some offer → w.offers w.state.mainOffer = some offer)
    (hmint : shouldAccrue = true → mint.key = w.state.onycMint)
    : AccrualStep clock w mint accrual w₁ ∧ accrual.isSome = shouldAccrue := by
  unfold accrueIf at h
  split at h
  . next hshould =>
    simp only [bind_eq_ok, okOr_eq_ok, pure_eq_ok, Prod.mk.injEq] at h
    rcases h with ⟨offer, hmain, ⟨result, _⟩, haccrue, rfl, rfl⟩
    exact ⟨accrueBufferFromAccounts_inv (hoffer offer hmain) (hmint hshould) haccrue, hshould.symm⟩
  . next hshould =>
    cases h
    exact ⟨.none, by simpa using Bool.eq_false_of_not_eq_true hshould |>.symm⟩

section Bookkeeping

theorem storeBufferPostSupply_inv {now : Int} (h : storeBufferPostSupply w n now = .ok w')
    : ∃ (before : BufferState), w.bufferState = some before ∧
        w' = { w with bufferState := some (setBufferBaselineAfterSupplyChange before n now) } := by
  simp only [storeBufferPostSupply, loadBufferState, bind_eq_ok, okOr_eq_ok, pure_eq_ok] at h
  rcases h with ⟨before, hbuffer, rfl⟩
  exact ⟨before, hbuffer, rfl⟩

structure BaselineStored (accrual : Option BufferAccrualResult) (w w' : World)
    (mintedAmount burnedAmount : Nat) : Prop where
  marketOnly : MarketOnly w w'
  ledger : w'.ledger = w.ledger
  baseline : ∀ (result : BufferAccrualResult), accrual = some result →
    ∃ (before after : BufferState), w.bufferState = some before ∧ w'.bufferState = some after ∧
      after.lastAccrualTimestamp = result.timestamp ∧
      after.previousSupply + burnedAmount = result.postAccrualSupply + mintedAmount ∧
      after.performanceFeeHighWatermark = before.performanceFeeHighWatermark
  kept : accrual = none → w'.bufferState = w.bufferState
  terms : w'.settings.bufferState = w.settings.bufferState

theorem storePostMint_inv {e : OnreError} (h : storePostMint accrual w n e = .ok w')
    : BaselineStored accrual w w' n 0 := by
  unfold storePostMint at h
  split at h
  . cases h
    exact ⟨.refl _, rfl, by simp, fun _ => rfl, rfl⟩
  . simp only [bind_eq_ok, okOr_eq_ok, checkedAdd_eq_some] at h
    rcases h with ⟨_, ⟨_, rfl⟩, h⟩
    rcases storeBufferPostSupply_inv h with ⟨before, hbefore, rfl⟩
    refine ⟨.of_update, rfl, ?_, by simp, by simp [World.settings, hbefore]; rfl⟩
    intro result hresult
    cases hresult
    exact ⟨_, _, hbefore, rfl, rfl, rfl, rfl⟩

theorem storePostBurn_inv (h : storePostBurn accrual w n = .ok w')
    : BaselineStored accrual w w' 0 n := by
  unfold storePostBurn at h
  split at h
  . cases h
    exact ⟨.refl _, rfl, by simp, fun _ => rfl, rfl⟩
  . simp only [bind_eq_ok, okOr_eq_ok, checkedSub_eq_some] at h
    rcases h with ⟨_, ⟨hle, rfl⟩, h⟩
    rcases storeBufferPostSupply_inv h with ⟨before, hbefore, rfl⟩
    refine ⟨.of_update, rfl, ?_, by simp, by simp [World.settings, hbefore]; rfl⟩
    intro result hresult
    cases hresult
    refine ⟨_, _, hbefore, rfl, rfl, ?_, rfl⟩
    simp only [setBufferBaselineAfterSupplyChange]
    omega

theorem refreshMarketStatsPda_inv {offer : Offer}
    (h : refreshMarketStatsPda clock w offer mint = .ok w')
    : w' = { w with marketStats := w'.marketStats } := by
  simp only [refreshMarketStatsPda, bind_eq_ok, pure_eq_ok] at h
  rcases h with ⟨_, _, rfl⟩
  rfl

theorem refreshMarketStatsIf_inv {needed : Bool} {mainOffer : Option Offer}
    (h : refreshMarketStatsIf needed clock w mainOffer mint = .ok w')
    : w' = { w with marketStats := w'.marketStats } := by
  unfold refreshMarketStatsIf at h
  split at h
  . simp only [bind_eq_ok, okOr_eq_ok] at h
    rcases h with ⟨_, _, h⟩
    apply refreshMarketStatsPda_inv h
  . cases h
    rfl

/-- What the market stats would be if they were recomputed now. -/
def currentMarketStats (clock : Clock) (w : World) : Result MarketStatsSnapshot := do
  let offer ← loadMainOffer w
  let onycMint ← w.loadMint w.state.onycMint
  recomputeMarketStats clock offer onycMint (loadCirculatingSupplyExcludedBalanceAmount w)

def World.FreshStats (clock : Clock) (w : World) : Prop :=
  ∃ (snapshot : MarketStatsSnapshot), currentMarketStats clock w = .ok snapshot ∧
    w.marketStats = some (applyMarketStatsSnapshot snapshot clock)

theorem MarketOnly.currentMarketStats (h : MarketOnly w w')
    (hsupply : w'.ledger.supply w.state.onycMint = w.ledger.supply w.state.onycMint)
    : currentMarketStats clock w' = OnreApp.currentMarketStats clock w := by
  unfold OnreApp.currentMarketStats loadMainOffer World.loadMint
    loadCirculatingSupplyExcludedBalanceAmount
  rw [h.offers, h.state, h.mints, h.excludedBalance, hsupply]

theorem refreshMarketStatsPda_snapshot {offer : Offer}
    (hoffer : w.offers w.state.mainOffer = some offer)
    (hmint : w.loadMint w.state.onycMint = .ok mint)
    (h : refreshMarketStatsPda clock w offer mint = .ok w')
    : ∃ (snapshot : MarketStatsSnapshot), currentMarketStats clock w = .ok snapshot ∧
        w' = { w with marketStats := some (applyMarketStatsSnapshot snapshot clock) } := by
  simp only [refreshMarketStatsPda, bind_eq_ok, pure_eq_ok] at h
  rcases h with ⟨snapshot, hsnapshot, rfl⟩
  refine ⟨snapshot, ?_, rfl⟩
  simp only [currentMarketStats, loadMainOffer, bind_eq_ok, okOr_eq_ok]
  exact ⟨offer, hoffer, mint, hmint, hsnapshot⟩

theorem refreshMarketStatsPda_fresh {offer : Offer}
    (hoffer : w.offers w.state.mainOffer = some offer)
    (hmint : w.loadMint w.state.onycMint = .ok mint)
    (h : refreshMarketStatsPda clock w offer mint = .ok w') : w'.FreshStats clock := by
  rcases refreshMarketStatsPda_snapshot hoffer hmint h with ⟨snapshot, hsnapshot, rfl⟩
  exact ⟨snapshot, hsnapshot, rfl⟩

theorem refreshMarketStatsIf_fresh {needed : Bool} {mainOffer : Option Offer}
    (hneeded : needed = true)
    (hoffer : ∀ (offer : Offer), mainOffer = some offer → w.offers w.state.mainOffer = some offer)
    (hmint : w.loadMint w.state.onycMint = .ok (mint.reload w.ledger))
    (h : refreshMarketStatsIf needed clock w mainOffer mint = .ok w') : w'.FreshStats clock := by
  unfold refreshMarketStatsIf at h
  rw [if_pos hneeded] at h
  simp only [bind_eq_ok, okOr_eq_ok] at h
  rcases h with ⟨offer, hsome, h⟩
  exact refreshMarketStatsPda_fresh (hoffer offer hsome) hmint h

end Bookkeeping

/--
An instruction that accrues (to `w₁`), performs `own` on the ledger, and adjusts the baseline by the
amounts it says it minted and burned. Its own mints of ONyc respect the caps.
-/
structure SupplyStep (clock : Clock) (w w₁ w' : World) (mint : MintAccount)
    (accrual : Option BufferAccrualResult) (own : List LedgerOp) (mintedAmount burnedAmount : Nat)
    : Prop where
  accrues : AccrualStep clock w mint accrual w₁
  performs : Performs u64Max w₁.ledger own w'.ledger
  baseline : ∀ (result : BufferAccrualResult), accrual = some result →
    ∃ (after : BufferState), w'.bufferState = some after ∧
      after.lastAccrualTimestamp = result.timestamp ∧
      after.previousSupply + burnedAmount = result.postAccrualSupply + mintedAmount ∧
      after.performanceFeeHighWatermark = result.newPerformanceFeeHighWatermark
  kept : accrual = none → w'.bufferState = w.bufferState
  maxSupply : 0 < w.state.maxSupply → mints w.state.onycMint own = true →
    w₁.ledger.supply w.state.onycMint + minted w.state.onycMint own ≤ w.state.maxSupply
  maxMintAmount : 0 < w.state.maxMintAmount →
    minted w.state.onycMint own ≤ w.state.maxMintAmount
  accrualVaults : mintedTo isAccrualVault w.state.onycMint own = 0

theorem SupplyStep.congr {own : List LedgerOp} {mintedAmount burnedAmount : Nat}
    (h : SupplyStep clock w w₁ w₂ mint accrual own mintedAmount burnedAmount)
    (hledger : w'.ledger = w₂.ledger) (hbuffer : w'.bufferState = w₂.bufferState)
    : SupplyStep clock w w₁ w' mint accrual own mintedAmount burnedAmount :=
  { h with
    performs := by rw [hledger]; exact h.performs
    baseline := by rw [hbuffer]; exact h.baseline
    kept := by rw [hbuffer]; exact h.kept
  }

theorem SupplyStep.balance {own : List LedgerOp} {mintedAmount burnedAmount : Nat} {k : Pubkey}
    (h : SupplyStep clock w w₁ w' mint accrual own mintedAmount burnedAmount)
    (hk : isAccrualVault k = false) (m : Pubkey)
    : w'.ledger.balance k m + debited k m own = w.ledger.balance k m + credited k m own := by
  have haccrual := h.accrues.performs.balance k m
  have hown := h.performs.balance k m
  rw [AccrualStep.debited_ops, AccrualStep.credited_ops hk] at haccrual
  omega

structure WithinCaps (state : State) (ops : List LedgerOp) : Prop where
  maxSupply : 0 < state.maxSupply → ∀ (destination : Pubkey) (n supplyAfter : Nat),
    .mintTo state.onycMint destination n supplyAfter ∈ ops → supplyAfter ≤ state.maxSupply
  accrued : 0 < state.maxMintAmount →
    mintedTo isAccrualVault state.onycMint ops ≤ state.maxMintAmount
  minted : 0 < state.maxMintAmount →
    mintedTo (fun account => !isAccrualVault account) state.onycMint ops ≤ state.maxMintAmount

theorem WithinCaps.of_no_mints {state : State} {ops : List LedgerOp}
    (h : ∀ (m : Pubkey), mints m ops = false) : WithinCaps state ops where
  maxSupply := by
    intro _ destination n supplyAfter hmem
    have := mints_of_mem hmem
    rw [h] at this
    cases this
  accrued := by
    intro _
    rw [mintedTo_eq_zero (h _)]
    apply Nat.zero_le _
  minted := by
    intro _
    rw [mintedTo_eq_zero (h _)]
    apply Nat.zero_le _

theorem SupplyStep.withinCaps {own : List LedgerOp} {mintedAmount burnedAmount : Nat}
    (h : SupplyStep clock w w₁ w' mint accrual own mintedAmount burnedAmount)
    (hmint : mint.supply = w.ledger.supply mint.key)
    : WithinCaps w.state (AccrualStep.ops mint.key (w.ledger.supply mint.key) accrual ++ own) where
  maxSupply := by
    intro hpos destination n supplyAfter hmem
    rcases List.mem_append.mp hmem with hmem | hmem
    . apply h.accrues.supplyAfter_le hmint hpos hmem
    . have hle := h.performs.supplyAfter_le hmem
      have := h.maxSupply hpos (mints_of_mem hmem)
      omega
  accrued := by
    intro hpos
    rw [mintedTo_append, h.accrualVaults, h.accrues.mintedTo_isAccrualVault_ops]
    split
    . apply h.accrues.gross_le hpos
    . apply Nat.zero_le _
  minted := by
    intro hpos
    rw [mintedTo_append, AccrualStep.mintedTo_not_isAccrualVault_ops, Nat.zero_add]
    apply Nat.le_trans mintedTo_le_minted (h.maxMintAmount hpos)

theorem SupplyStep.finish {w₃ : World} {own : List LedgerOp} {mintedAmount burnedAmount : Nat}
    (haccrues : AccrualStep clock w mint accrual w₁)
    (hstored : BaselineStored accrual w₂ w₃ mintedAmount burnedAmount)
    (hmarket : MarketOnly w₁ w₂) (hbuffer : w₂.bufferState = w₁.bufferState)
    (hperforms : Performs u64Max w₁.ledger own w₂.ledger)
    (hrefresh : w' = { w₃ with marketStats := w'.marketStats })
    (hmaxSupply : 0 < w.state.maxSupply → mints w.state.onycMint own = true →
      w₁.ledger.supply w.state.onycMint + minted w.state.onycMint own ≤ w.state.maxSupply)
    (hmaxMintAmount : 0 < w.state.maxMintAmount →
      minted w.state.onycMint own ≤ w.state.maxMintAmount)
    (haccrualVaults : mintedTo isAccrualVault w.state.onycMint own = 0)
    : SupplyStep clock w w₁ w' mint accrual own mintedAmount burnedAmount ∧ MarketOnly w w' := by
  have hstats : MarketOnly w₃ w' := by
    rw [hrefresh]
    exact .of_update
  constructor
  . exact {
      accrues := haccrues
      performs := by
        rw [hrefresh]
        dsimp only
        rw [hstored.ledger]
        exact hperforms
      baseline := by
        intro result hsome
        rcases hstored.baseline result hsome with
          ⟨before, after, hbefore, hafter, htimestamp, hprevious, hwatermark⟩
        rw [hbuffer] at hbefore
        refine ⟨after, by rw [hrefresh]; exact hafter, htimestamp, hprevious, ?_⟩
        rw [hwatermark, haccrues.watermark hsome hbefore]
      kept := by
        intro hnone
        rw [hrefresh]
        exact (hstored.kept hnone).trans (hbuffer.trans (haccrues.kept hnone))
      maxSupply := hmaxSupply
      maxMintAmount := hmaxMintAmount
      accrualVaults := haccrualVaults
    }
  . exact haccrues.marketOnly.trans (hmarket.trans (hstored.marketOnly.trans hstats))

theorem SupplyStep.finish_terms {w₃ : World} {mintedAmount burnedAmount : Nat}
    (haccrues : AccrualStep clock w mint accrual w₁)
    (hstored : BaselineStored accrual w₂ w₃ mintedAmount burnedAmount)
    (hbuffer : w₂.bufferState = w₁.bufferState)
    (hrefresh : w' = { w₃ with marketStats := w'.marketStats })
    : w'.settings.bufferState = w.settings.bufferState := by
  have hkept : w₂.settings.bufferState = w₁.settings.bufferState := by
    unfold World.settings
    rw [hbuffer]
  rw [hrefresh]
  exact hstored.terms.trans (hkept.trans haccrues.bufferTerms)

end OnreApp
