import OnreApp.Action.Custody
import OnreApp.Action.Records
import OnreApp.Action.TargetedDisable
import OnreApp.Redemption.Lemmas.Custody

namespace OnreApp

open Checked TokenLedger

variable {clock : Clock} {d d' : Deployment} {w w' : World} {action : Action}
  {actions : List (Clock × Action)}

/-- Everything but taking locked tokens away, or calling another mint ONyc. -/
def Action.KeepsCustody (onycMint : Pubkey) : Action → Prop
  | .instruction i => i.KeepsCustody onycMint
  | .setOnycMint _ mint => mint = onycMint
  | .initializeState _ mint => mint = onycMint
  | _ => True

structure World.Redeemable (onycMint : Pubkey) (w : World) : Prop extends World.Recorded w where
  custody : Custody onycMint w

section Redeemable

variable {onycMint : Pubkey}

theorem Custody.of_eq (h : Custody onycMint w) (hstate : w'.state.onycMint = w.state.onycMint)
    (hoffers : w'.redemptionOffers = w.redemptionOffers)
    (hrequests : w'.redemptionRequests = w.redemptionRequests)
    (hvault : w.vaultOnyc ≤ w'.vaultOnyc) : Custody onycMint w' where
  onycMint := by
    rw [hstate]
    exact h.onycMint
  redeemsOnyc := by
    unfold World.RedeemsOnyc
    rw [hstate, hoffers]
    exact h.redeemsOnyc
  locked_le := by
    unfold World.locked
    rw [hrequests]
    exact h.locked_le.trans hvault

theorem Custody.setState {state : State} (h : Custody onycMint w)
    (hstate : state.onycMint = w.state.onycMint)
    : Custody onycMint ({ w with state } : World) := by
  refine h.of_eq hstate rfl rfl ?_
  unfold World.vaultOnyc
  rw [hstate]

theorem Custody.setDisabled {key : Pubkey} {redemptionOffer : RedemptionOffer} {disabled : Bool}
    (h : Custody onycMint w) (hkey : w.redemptionOffers key = some redemptionOffer)
    : Custody onycMint (w.setRedemptionOffer key { redemptionOffer with disabled }) := by
  rcases h.redeemsOnyc _ _ hkey with ⟨hin, hout⟩
  exact ⟨h.onycMint, h.redeemsOnyc.setRedemptionOffer hin hout, h.locked_le⟩

theorem Deployment.Effect.custody (h : Custody onycMint d.world)
    (hkeeps : action.KeepsCustody onycMint) (heffect : Effect clock d action d')
    : Custody onycMint d'.world := by
  have hvault := Nat.le_refl d.world.vaultOnyc
  cases heffect with
  | instruction _ hexecute => exact h.step hkeeps hexecute
  | tokens _ _ _ _ hgrows => exact h.of_eq rfl rfl rfl (hgrows _)
  | @state _ state _ _ _ _ honyc =>
    apply h.setState
    rcases honyc with hsame | hset
    . exact hsame
    . rw [hset] at hkeeps
      rw [h.onycMint]
      exact hkeeps
  | killSwitch => exact h.setState rfl
  | accept => exact h.setState rfl
  | disableRedemptionOffer hkey => exact h.setDisabled hkey
  | _ => exact h.of_eq rfl rfl rfl hvault

theorem Deployment.perform_redeemable (h : d.world.Redeemable onycMint)
    (hkeeps : action.KeepsCustody onycMint) (hstep : d.perform clock action = .ok d')
    : d'.world.Redeemable onycMint := by
  refine ⟨perform_recorded h.toRecorded hstep, ?_⟩
  rcases perform_inv hstep with ⟨_, heffect⟩ | ⟨_, _⟩
  . exact heffect.custody h.custody hkeeps
  . apply h.custody.setState
    rw [h.custody.onycMint]
    exact hkeeps

section Cancel

variable {key : Pubkey} {request : RedemptionRequest} {signer : Signer}

theorem World.Redeemable.cancel_ok (h : w.Redeemable onycMint)
    (hbacked : TokenLedger.Backed w.ledger onycMint) (hsupply : w.ledger.supply onycMint ≤ u64Max)
    (hkilled : w.state.isKilled = false)
    (hrequest : w.redemptionRequests.lookup key = some request)
    (hworker : w.state.worker.isWritable = true)
    (hsigner : signer.key = w.state.boss ∨ signer.key = w.state.worker ∨
      signer.key = request.redeemer)
    : ∃ (w' : World), cancelRedemptionRequest w
        ⟨signer, request.offer, key, request.redeemer, w.state.worker, onycMint⟩ = .ok w' := by
  rcases h.book.open_known key request hrequest with ⟨hkey, c, hcounters, _⟩
  simp only [World.book, Option.map_eq_some_iff] at hcounters
  rcases hcounters with ⟨redemptionOffer, hoffer, _⟩
  rcases h.grounded.offers _ _ hoffer with ⟨hseeds, hmint, _⟩
  have hin : redemptionOffer.tokenInMint = onycMint :=
    (h.custody.redeemsOnyc _ _ hoffer).1.trans h.custody.onycMint
  rcases h.book.remaining hrequest hoffer with ⟨hremaining, hle⟩
  rw [hin, Option.isSome_iff_exists] at hmint
  rcases hmint with ⟨info, hinfo⟩
  have hlocked := h.custody.open_le hrequest
  rw [World.vaultOnyc, h.custody.onycMint] at hlocked
  have htransfer : ∃ (l : Ledger), w.ledger.transfer u64Max onycMint .redemptionVaultAuthority
      request.redeemer (request.amount - request.fulfilledAmount) = .ok l :=
    hbacked.transfer_ok hsupply hlocked
  rcases htransfer with ⟨l, htransfer⟩
  simp only [cancelRedemptionRequest, bind_eq_ok]
  refine ⟨_, (), require_eq_ok.mpr hkilled, redemptionOffer, ?_, request, ?_, (),
    require_eq_ok.mpr hkey, (), require_eq_ok.mpr rfl, (), require_eq_ok.mpr hsigner, (),
    require_eq_ok.mpr rfl, (), require_eq_ok.mpr hworker, (), require_eq_ok.mpr trivial,
    { info with key := onycMint, supply := w.ledger.supply onycMint }, ?_, (),
    require_eq_ok.mpr hin.symm, _, hremaining, l, ?_, _,
    RedemptionOffer.recordCancellation_of_le hle, rfl⟩
  . simp only [loadRedemptionOfferBySeeds, bind_eq_ok]
    exact ⟨_, World.load_eq_ok.mpr hoffer, (), require_eq_ok.mpr hseeds, rfl⟩
  . exact World.load_eq_ok.mpr hrequest
  . simp only [World.loadMint, bind_eq_ok]
    exact ⟨info, World.load_eq_ok.mpr hinfo, rfl⟩
  . simp only [transferTokens, htransfer]
    rfl

end Cancel

end Redeemable

namespace Deployment

structure BeforeRedemptions (d : Deployment) : Prop where
  offers : ∀ (key : Pubkey), d.world.redemptionOffers key = none
  requests : d.world.redemptionRequests = ∅
  events : d.world.events = []
  backed : TokenLedger.Backed d.world.ledger d.world.state.onycMint
  supply_le : d.world.ledger.supply d.world.state.onycMint ≤ u64Max

theorem BeforeRedemptions.redeemable (h : d.BeforeRedemptions)
    : d.world.Redeemable d.world.state.onycMint := by
  refine ⟨recorded_of_empty h.offers h.requests h.events, rfl, ?_, ?_⟩
  . intro key redemptionOffer hkey
    rw [h.offers] at hkey
    cases hkey
  . unfold World.locked
    rw [h.requests, Table.total_empty]
    exact Nat.zero_le _

theorem run_redeemable (hfresh : d.BeforeRedemptions)
    (hactions : ∀ call ∈ actions, call.2.KeepsCustody d.world.state.onycMint)
    (h : d.run actions = .ok d') : d'.world.Redeemable d.world.state.onycMint := by
  apply Run.run_inv (fun d₁ => d₁.world.Redeemable d.world.state.onycMint)
    (fun call => call.2.KeepsCustody d.world.state.onycMint) _ hactions hfresh.redeemable h
  intro d₁ d₂ call hkeeps hredeemable hstep
  exact perform_redeemable hredeemable hkeeps hstep

theorem perform_instruction {i : Instruction} (hopen : d.stateIsOpen = true)
    (hvaults : i.vaults = [])
    (h : execute clock d.world i = .ok w')
    : d.perform clock (.instruction i) = .ok { d with world := w' } := by
  refine bind_eq_ok.mpr ⟨(), require_eq_ok.mpr fun _ => hopen, bind_eq_ok.mpr ⟨d, ?_, ?_⟩⟩
  . rw [hvaults]
    rfl
  . exact bind_eq_ok.mpr ⟨w', StateResult.of_eq_ok.mpr h, rfl⟩

end Deployment

namespace Sample

def lockedIn : List (Clock × Action) :=
  market ++ redemptions.map (fun call => (call.1, .instruction call.2)) ++ closing

theorem deployment_beforeRedemptions : deployment.BeforeRedemptions where
  offers := fun _ => rfl
  requests := rfl
  events := rfl
  backed := deployment_backed _
  supply_le := Nat.zero_le _

end Sample

namespace Deployment

end Deployment

end OnreApp
