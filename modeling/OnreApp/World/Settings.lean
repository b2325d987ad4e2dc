import OnreApp.World

/-!
The settings of the market: what the accounts say about the terms it trades on, without the running
parts (volumes, counters, the baseline of the buffer) and without the switches that stop it.
-/

namespace OnreApp

section Settings

def Offer.terms (offer : Offer) : Offer := { offer with disabled := false }

def RedemptionOffer.terms (redemptionOffer : RedemptionOffer) : RedemptionOffer :=
  { redemptionOffer with
    executedRedemptions := 0
    requestedRedemptions := 0
    requestCounter := 0
    disabled := false
  }

def PropAmmPairState.terms (pair : PropAmmPairState) : PropAmmPairState :=
  { pair with
    currSellValueStable := 0
    currBuyValueStable := 0
    prevNetSellValueStable := 0
    currSellTradeCount := 0
    epochStart := 0
  }

def BufferState.terms (bufferState : BufferState) : BufferState :=
  { bufferState with
    previousSupply := 0
    performanceFeeHighWatermark := 0
    lastAccrualTimestamp := 0
  }

structure MarketSettings where
  state : State
  mints : Pubkey → Option MintInfo
  offers : Pubkey → Option Offer
  redemptionOffers : Pubkey → Option RedemptionOffer
  propAmmPairStates : Pubkey → Option PropAmmPairState
  bufferState : Option BufferState

def World.settings (w : World) : MarketSettings where
  state := { w.state with isKilled := false }
  mints := w.mints
  offers := fun key => (w.offers key).map Offer.terms
  redemptionOffers := fun key => (w.redemptionOffers key).map RedemptionOffer.terms
  propAmmPairStates := fun key => (w.propAmmPairStates key).map PropAmmPairState.terms
  bufferState := w.bufferState.map BufferState.terms

structure Switches where
  killed : Bool
  offers : Pubkey → Option Bool
  redemptionOffers : Pubkey → Option Bool

def World.switches (w : World) : Switches where
  killed := w.state.isKilled
  offers := fun key => (w.offers key).map Offer.disabled
  redemptionOffers := fun key => (w.redemptionOffers key).map RedemptionOffer.disabled

structure World.Keeps (w w' : World) : Prop where
  settings : w'.settings = w.settings
  switches : w'.switches = w.switches

end Settings

variable {w w₁ w' : World} {key : Pubkey}

namespace World.Keeps

theorem refl (w : World) : w.Keeps w := ⟨rfl, rfl⟩

theorem trans (h : w.Keeps w₁) (h' : w₁.Keeps w') : w.Keeps w' :=
  ⟨h'.settings.trans h.settings, h'.switches.trans h.switches⟩

theorem of_update {ledger : Ledger} {redemptionRequests : AList fun _ : Pubkey => RedemptionRequest}
    {marketStats : Option MarketStats} {excluded : Option Nat} {events : List RedemptionEvent}
    : w.Keeps { w with
        ledger, redemptionRequests, marketStats, events
        circulatingSupplyExcludedBalance := excluded } :=
  ⟨rfl, rfl⟩

theorem setPropAmmPairState {pair pair' : PropAmmPairState}
    (hpair : w.propAmmPairStates key = some pair) (hterms : pair'.terms = pair.terms)
    : w.Keeps (w.setPropAmmPairState key pair') := by
  refine ⟨?_, rfl⟩
  unfold World.settings World.setPropAmmPairState
  congr 1
  funext k
  by_cases hk : k = key
  . subst hk
    simp [hpair, hterms]
  . simp [hk]

end World.Keeps

section Offers

theorem World.settings_setOffer {offer offer' : Offer} (hkey : w.offers key = some offer)
    (hterms : offer'.terms = offer.terms) : (w.setOffer key offer').settings = w.settings := by
  unfold World.settings World.setOffer
  congr 1
  funext k
  by_cases hk : k = key
  . subst hk
    simp [hkey, hterms]
  . simp [hk]

theorem World.settings_setRedemptionOffer {redemptionOffer redemptionOffer' : RedemptionOffer}
    (hkey : w.redemptionOffers key = some redemptionOffer)
    (hterms : redemptionOffer'.terms = redemptionOffer.terms)
    : (w.setRedemptionOffer key redemptionOffer').settings = w.settings := by
  unfold World.settings World.setRedemptionOffer
  congr 1
  funext k
  by_cases hk : k = key
  . subst hk
    simp [hkey, hterms]
  . simp [hk]

theorem World.Keeps.setCounters {redemptionOffer : RedemptionOffer}
    (hkey : w.redemptionOffers key = some redemptionOffer) (executed requested counter : Nat)
    : w.Keeps (w.setRedemptionOffer key { redemptionOffer with
        executedRedemptions := executed
        requestedRedemptions := requested
        requestCounter := counter }) where
  settings := World.settings_setRedemptionOffer hkey rfl
  switches := by
    unfold World.switches World.setRedemptionOffer
    congr 1
    funext k
    by_cases hk : k = key
    . subst hk
      simp [hkey]
    . simp [hk]

end Offers

end OnreApp
