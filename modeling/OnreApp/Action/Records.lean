import OnreApp.Action.Effect
import OnreApp.Redemption.Lemmas.Accounting

namespace OnreApp

open Checked TokenLedger

variable {clock : Clock} {d d' : Deployment} {w w' : World} {action : Action}
  {actions : List (Clock × Action)}

section Grounded

/--
A redemption offer is stored under the mints it names, of which the first one exists, and its
counter fits its field; behind a request there is somebody who has signed it.
-/
structure World.Grounded (w : World) : Prop where
  offers : ∀ (key : Pubkey) (redemptionOffer : RedemptionOffer),
    w.redemptionOffers key = some redemptionOffer →
      key = .redemptionOffer redemptionOffer.tokenInMint redemptionOffer.tokenOutMint ∧
      (w.mints redemptionOffer.tokenInMint).isSome = true ∧
      redemptionOffer.requestCounter ≤ u64Max
  requests : ∀ (key : Pubkey) (request : RedemptionRequest),
    w.redemptionRequests.lookup key = some request →
      ∃ (redeemer : Signer), request.redeemer = redeemer.key

namespace World.Grounded

theorem of_eq (h : w.Grounded) (hoffers : w'.redemptionOffers = w.redemptionOffers)
    (hmints : w'.mints = w.mints) (hrequests : w'.redemptionRequests = w.redemptionRequests)
    : w'.Grounded where
  offers := by
    rw [hoffers, hmints]
    exact h.offers
  requests := by
    rw [hrequests]
    exact h.requests

theorem emit {event : RedemptionEvent} (h : w.Grounded) : (w.emit event).Grounded :=
  ⟨h.offers, h.requests⟩

theorem setRedemptionOffer {key : Pubkey} {redemptionOffer : RedemptionOffer} (h : w.Grounded)
    (hkey : key = .redemptionOffer redemptionOffer.tokenInMint redemptionOffer.tokenOutMint)
    (hmint : (w.mints redemptionOffer.tokenInMint).isSome = true)
    (hcounter : redemptionOffer.requestCounter ≤ u64Max)
    : (w.setRedemptionOffer key redemptionOffer).Grounded where
  offers := by
    intro k redemptionOffer' hk
    unfold World.setRedemptionOffer at hk ⊢
    dsimp only at hk ⊢
    by_cases heq : k = key
    . rw [heq, Function.update_self, Option.some.injEq] at hk
      rw [heq, ← hk]
      exact ⟨hkey, hmint, hcounter⟩
    . rw [Function.update_of_ne heq] at hk
      exact h.offers k redemptionOffer' hk
  requests := h.requests

theorem setRedemptionRequest {key : Pubkey} {request : RedemptionRequest} (h : w.Grounded)
    (hredeemer : ∃ (redeemer : Signer), request.redeemer = redeemer.key)
    : (w.setRedemptionRequest key request).Grounded where
  offers := h.offers
  requests := by
    intro k request' hk
    unfold World.setRedemptionRequest at hk
    dsimp only at hk
    rw [Table.lookup_insert_eq] at hk
    split at hk
    . cases hk
      exact hredeemer
    . exact h.requests k request' hk

theorem closeRedemptionRequest {key : Pubkey} (h : w.Grounded)
    : (w.closeRedemptionRequest key).Grounded where
  offers := h.offers
  requests := by
    intro k request hk
    unfold World.closeRedemptionRequest at hk
    dsimp only at hk
    rw [Table.lookup_erase_eq] at hk
    split at hk
    . cases hk
    . exact h.requests k request hk

theorem storeRequest {key : Pubkey} {request : RedemptionRequest} {n : Nat} (h : w.Grounded)
    (hredeemer : ∃ (redeemer : Signer), request.redeemer = redeemer.key)
    : (fulfillRedemptionRequest.storeRequest w key request n).Grounded := by
  unfold fulfillRedemptionRequest.storeRequest
  split
  . exact h.closeRedemptionRequest
  . exact h.setRedemptionRequest hredeemer

theorem fulfill {args : FulfillRedemptionRequestArgs} (h : w.Grounded)
    (hfulfill : fulfillRedemptionRequest clock w args = .ok w') : w'.Grounded := by
  rcases fulfillRedemptionRequest_inv hfulfill with
    ⟨_, _, _, _, w₂, _, hloaded, hfulfillment, rfl⟩
  have hmarket := hfulfillment.marketOnly
  have hgrounded : w₂.Grounded :=
    h.of_eq hmarket.redemptionOffers hmarket.mints hmarket.redemptionRequests
  rcases h.offers _ _ hloaded.redemptionOffer with ⟨hseeds, hmint, hcounter⟩
  rw [← hmarket.mints] at hmint
  apply storeRequest _ (h.requests _ _ hloaded.request)
  exact setRedemptionOffer hgrounded.emit hseeds hmint hcounter

theorem execute {i : Instruction} (h : w.Grounded) (hstep : OnreApp.execute clock w i = .ok w')
    : w'.Grounded := by
  have hmints := (execute_framed hstep).mints
  cases execute_effect hstep with
  | market effect => exact h.of_eq effect.redemptionOffers hmints effect.redemptionRequests
  | withdraw effect => exact h.of_eq effect.redemptionOffers hmints effect.redemptionRequests
  | @make args _ hmake =>
    rcases makeRedemptionOffer_inv hmake with ⟨haccepted, rfl⟩
    exact h.setRedemptionOffer rfl haccepted.mintExists (Nat.zero_le _)
  | update hkey =>
    rcases h.offers _ _ hkey with ⟨hseeds, hmint, hcounter⟩
    exact h.setRedemptionOffer hseeds hmint hcounter
  | @create args _ hcreate =>
    rcases createRedemptionRequest_inv hcreate with ⟨_, redemptionOffer, _, haccepted, _, rfl⟩
    rcases h.offers _ _ haccepted.load with ⟨hseeds, hmint, _⟩
    apply emit
    refine setRedemptionOffer ?_ hseeds hmint haccepted.counter_le
    exact setRedemptionRequest (h.of_eq rfl rfl rfl) ⟨args.redeemer, rfl⟩
  | @cancel args _ hcancel =>
    rcases cancelRedemptionRequest_inv hcancel with ⟨_, _, _, haccepted, _, rfl⟩
    rcases h.offers _ _ haccepted.load with ⟨hseeds, hmint, hcounter⟩
    apply emit
    refine setRedemptionOffer ?_ hseeds hmint hcounter
    exact closeRedemptionRequest (h.of_eq rfl rfl rfl)
  | fulfill hfulfill => exact h.fulfill hfulfill

end World.Grounded

end Grounded

section Recorded

structure World.Recorded (w : World) : Prop where
  book : w.book.Consistent
  grounded : w.Grounded

namespace World.Recorded

theorem of_eq (h : w.Recorded) (hmints : w'.mints = w.mints)
    (hoffers : w'.redemptionOffers = w.redemptionOffers)
    (hrequests : w'.redemptionRequests = w.redemptionRequests) (hevents : w'.events = w.events)
    : w'.Recorded where
  book := by
    unfold World.book
    rw [hoffers, hrequests, hevents]
    exact h.book
  grounded := h.grounded.of_eq hoffers hmints hrequests

theorem setDisabled {key : Pubkey} {redemptionOffer : RedemptionOffer} {disabled : Bool}
    (h : w.Recorded) (hkey : w.redemptionOffers key = some redemptionOffer)
    : (w.setRedemptionOffer key { redemptionOffer with disabled }).Recorded := by
  rcases h.grounded.offers _ _ hkey with ⟨hseeds, hmint, hcounter⟩
  refine ⟨?_, World.Grounded.setRedemptionOffer h.grounded hseeds hmint hcounter⟩
  have hbook := Book.setCounters_eq_self (World.book_counters hkey)
  rw [World.book_setRedemptionOffer]
  exact hbook.symm ▸ h.book

theorem setMint {mint : Pubkey} {info : MintInfo} (h : w.Recorded)
    : ({ w with mints := Function.update w.mints mint (some info) } : World).Recorded where
  book := h.book
  grounded := by
    refine ⟨?_, h.grounded.requests⟩
    intro key redemptionOffer hkey
    rcases h.grounded.offers key redemptionOffer hkey with ⟨hseeds, hmint, hcounter⟩
    refine ⟨hseeds, ?_, hcounter⟩
    dsimp only
    by_cases heq : redemptionOffer.tokenInMint = mint
    . rw [heq, Function.update_self]
      rfl
    . rw [Function.update_of_ne heq]
      exact hmint

theorem requestCounter_lt {key : Pubkey} {redemptionOffer : RedemptionOffer} (h : w.Recorded)
    (hkey : w.redemptionOffers key = some redemptionOffer)
    : redemptionOffer.requestCounter < 2 ^ 64 := by
  have hle := (h.grounded.offers key redemptionOffer hkey).2.2
  unfold u64Max at hle
  omega

theorem requestId_lt {key : Pubkey} {request : RedemptionRequest} (h : w.Recorded)
    (hrequest : w.redemptionRequests.lookup key = some request) : request.requestId < 2 ^ 64 := by
  rcases h.book.open_known key request hrequest with ⟨_, c, hcounters, hlt⟩
  simp only [World.book, Option.map_eq_some_iff] at hcounters
  rcases hcounters with ⟨redemptionOffer, hoffer, rfl⟩
  exact Nat.lt_trans hlt (h.requestCounter_lt hoffer)

end World.Recorded

namespace Deployment

theorem Effect.recorded (h : d.world.Recorded) (heffect : Effect clock d action d')
    : d'.world.Recorded := by
  cases heffect with
  | instruction _ hexecute =>
    exact ⟨h.book.step (execute_book hexecute), h.grounded.execute hexecute⟩
  | disableRedemptionOffer hkey => exact h.setDisabled hkey
  | authority => exact h.setMint
  | _ => exact h.of_eq rfl rfl rfl rfl

theorem perform_recorded (h : d.world.Recorded) (hstep : d.perform clock action = .ok d')
    : d'.world.Recorded := by
  rcases perform_inv hstep with ⟨_, heffect⟩ | ⟨_, _⟩
  . exact heffect.recorded h
  . exact h.of_eq rfl rfl rfl rfl

theorem run_recorded (h : d.world.Recorded) (hrun : d.run actions = .ok d')
    : d'.world.Recorded := by
  apply Run.run_inv (fun d => d.world.Recorded) (fun _ => True) _ (fun _ _ => trivial) h hrun
  intro d₁ d₂ call _ hrecorded hstep
  exact perform_recorded hrecorded hstep

theorem recorded_of_empty (hoffers : ∀ (key : Pubkey), d.world.redemptionOffers key = none)
    (hrequests : d.world.redemptionRequests = ∅) (hevents : d.world.events = [])
    : d.world.Recorded where
  book := by
    apply Book.consistent_of_empty
    . intro key
      simp [World.book, hoffers key]
    . exact hrequests
    . exact hevents
  grounded := by
    refine ⟨?_, ?_⟩
    . intro key redemptionOffer hkey
      rw [hoffers] at hkey
      cases hkey
    . intro key request hrequest
      rw [hrequests, AList.lookup_empty] at hrequest
      cases hrequest

end Deployment

end Recorded

end OnreApp
