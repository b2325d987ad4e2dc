import OnreApp.Action.TargetedDisable

namespace OnreApp

open Checked

variable {clock : Clock} {d d' : Deployment} {w w' : World} {action : Action}
  {actions : List (Clock × Action)}

section OffersKeyed

def World.OffersKeyed (w : World) : Prop :=
  ∀ (key : Pubkey) (offer : Offer), w.offers key = some offer →
    key = .offer offer.tokenInMint offer.tokenOutMint

theorem World.OffersKeyed.of_offers (h : w.OffersKeyed) (hoffers : w'.offers = w.offers)
    : w'.OffersKeyed := by
  unfold OffersKeyed
  rw [hoffers]
  exact h

theorem World.OffersKeyed.of_settings (h : w.OffersKeyed) (hsettings : w'.settings = w.settings)
    : w'.OffersKeyed := by
  intro key offer hkey
  have hterms := congrFun (congrArg MarketSettings.offers hsettings) key
  simp only [World.settings, hkey, Option.map_some] at hterms
  rcases Option.map_eq_some_iff.mp hterms.symm with ⟨offer', hkey', hsame⟩
  simp only [Offer.terms, Offer.mk.injEq] at hsame
  rw [← hsame.1, ← hsame.2.1]
  exact h key offer' hkey'

theorem World.OffersKeyed.setOffer {key : Pubkey} {offer : Offer} (h : w.OffersKeyed)
    (hkey : key = .offer offer.tokenInMint offer.tokenOutMint)
    : (w.setOffer key offer).OffersKeyed := by
  intro k offer' hk
  unfold World.setOffer at hk
  dsimp only at hk
  by_cases heq : k = key
  . rw [heq, Function.update_self, Option.some.injEq] at hk
    rw [heq, ← hk]
    exact hkey
  . rw [Function.update_of_ne heq] at hk
    exact h k offer' hk

theorem World.OffersKeyed.updateOffer {key : Pubkey} {offer offer' : Offer} (h : w.OffersKeyed)
    (hkey : w.offers key = some offer) (hin : offer'.tokenInMint = offer.tokenInMint)
    (hout : offer'.tokenOutMint = offer.tokenOutMint) : (w.setOffer key offer').OffersKeyed := by
  apply h.setOffer
  rw [hin, hout]
  exact h key offer hkey

theorem execute_offersKeyed {i : Instruction} (hkeyed : w.OffersKeyed)
    (h : execute clock w i = .ok w') : w'.OffersKeyed := by
  cases hboss : i.isBossOnly with
  | false => exact hkeyed.of_settings (execute_keeps hboss h).settings
  | true =>
    cases i with
    | makeOffer args =>
      rcases executeMakeOffer_inv h with ⟨_, _, offer, hmake, rfl⟩
      rcases makeOffer_inv hmake with ⟨_, rfl⟩
      exact hkeyed.setOffer rfl
    | vectorCall args =>
      rcases executeVectorCall_inv h with ⟨_, offer, offer', hkey, hcall, rfl⟩
      rcases Offer.call_frame hcall with ⟨_, rfl⟩
      exact hkeyed.updateOffer hkey rfl rfl
    | configurePropAmm boss assetMint config =>
      rcases configurePropAmm_inv h with ⟨_, _, rfl⟩
      exact hkeyed
    | makeRedemptionOffer args =>
      rcases makeRedemptionOffer_inv h with ⟨_, rfl⟩
      exact hkeyed
    | updateRedemptionOfferFee args =>
      unfold execute updateRedemptionOfferFee at h
      rcases updateRedemptionOffer_inv h with ⟨_, _, _, _, rfl⟩
      exact hkeyed
    | updateRedemptionOfferPropAmmSellFee args =>
      unfold execute updateRedemptionOfferPropAmmSellFee at h
      rcases updateRedemptionOffer_inv h with ⟨_, _, _, _, rfl⟩
      exact hkeyed
    | updateRedemptionOfferVaultTarget args =>
      unfold execute updateRedemptionOfferVaultTarget at h
      rcases updateRedemptionOffer_inv h with ⟨_, _, _, _, rfl⟩
      exact hkeyed
    | redemptionVaultWithdraw args =>
      rcases redemptionVaultWithdraw_inv h with ⟨_, _, _, _, rfl⟩
      exact hkeyed
    | initializeBuffer boss =>
      rcases initializeBuffer_inv h with ⟨_, _, _, _, rfl⟩
      exact hkeyed
    | mintTo boss amount =>
      rcases mintTo_inv h with ⟨_, _, _, _, _, _, hmarket, _⟩
      exact hkeyed.of_offers hmarket.offers
    | setBufferGrossApr boss grossYield =>
      rcases setBufferGrossApr_inv h with ⟨_, _, _, _, _, hmarket, _⟩
      exact hkeyed.of_offers hmarket.offers
    | setBufferFeeConfig boss config =>
      rcases setBufferFeeConfig_inv h with ⟨_, _, _, _, _, hmarket, _⟩
      exact hkeyed.of_offers hmarket.offers
    | burnForNavIncrease boss assetAdjustmentAmount =>
      rcases burnForNavIncrease_inv h with ⟨_, _, _, _, _, _, _, _, _, _, hmarket, _⟩
      exact hkeyed.of_offers hmarket.offers
    | _ => cases hboss

namespace Deployment

theorem perform_offersKeyed (hkeyed : d.world.OffersKeyed) (h : d.perform clock action = .ok d')
    : d'.world.OffersKeyed := by
  rcases perform_inv h with ⟨_, heffect⟩ | ⟨_, _⟩
  case inr => exact hkeyed
  cases heffect with
  | instruction _ hexecute => exact execute_offersKeyed hkeyed hexecute
  | offer _ _ hkey _ hmints => exact hkeyed.updateOffer hkey hmints.1 hmints.2
  | disableOffer hkey => exact hkeyed.updateOffer hkey rfl rfl
  | _ => exact hkeyed

theorem run_offersKeyed (hkeyed : d.world.OffersKeyed) (h : d.run actions = .ok d')
    : d'.world.OffersKeyed := by
  apply Run.run_inv (fun d => d.world.OffersKeyed) (fun _ => True) _ (fun _ _ => trivial) hkeyed h
  intro d₁ d₂ call _ hkeyed₁ hstep
  exact perform_offersKeyed hkeyed₁ hstep

end Deployment

end OffersKeyed

section Stored

/-- Every view answers what is stored; the price only if its next change can be told as well. -/
structure AgreesWithViews (clock : Clock) (w : World) (args : ViewArgs) (stats : MarketStats)
    : Prop where
  apy : getApy clock w args = .ok stats.apy
  navAdjustment : getNavAdjustment clock w args = .ok stats.navAdjustment
  circulatingSupply : getCirculatingSupplyV2 w = .ok stats.circulatingSupply
  tvl : getTvlV2 clock w args = .ok stats.tvl
  nav : ∀ (nav : Nat), getNav clock w args = .ok nav → nav = stats.nav

theorem loadViewedOffer_of {args : ViewArgs} {offer : Offer} {tokenIn tokenOut : MintAccount}
    (hoffer : w.offers (.offer args.tokenInMint args.tokenOutMint) = some offer)
    (hin : w.loadMint args.tokenInMint = .ok tokenIn)
    (hout : w.loadMint args.tokenOutMint = .ok tokenOut)
    (hmints : offer.tokenInMint = args.tokenInMint ∧ offer.tokenOutMint = args.tokenOutMint)
    : loadViewedOffer w args = .ok (offer, tokenOut) := by
  simp only [loadViewedOffer, Offer.requireMints, bind_eq_ok, World.load_eq_ok, require_eq_ok,
    pure_eq_ok]
  refine ⟨offer, hoffer, tokenIn, hin, tokenOut, hout, (), ⟨(), ?_, ?_⟩, rfl⟩
  . rw [(World.loadMint_inv hin).1]
    exact hmints.1
  . rw [(World.loadMint_inv hout).1]
    exact hmints.2

theorem AgreesWithViews.of_snapshot {args : ViewArgs} {offer : Offer} {onycMint : MintAccount}
    {snapshot : MarketStatsSnapshot} (hmint : w.loadMint w.state.onycMint = .ok onycMint)
    (hview : loadViewedOffer w args = .ok (offer, onycMint))
    (h : recomputeMarketStats clock offer onycMint (loadCirculatingSupplyExcludedBalanceAmount w)
      = .ok snapshot)
    : AgreesWithViews clock w args (applyMarketStatsSnapshot snapshot clock) := by
  simp only [recomputeMarketStats, calculateNavAdjustment, bind_eq_ok, mapErr_eq_ok, require_eq_ok,
    pure_eq_ok] at h
  rcases h with ⟨_, _, _, _, ⟨activeVector, price⟩, hpriced, apy, hapy, _, hadjustment, h⟩
  rcases hadjustment with ⟨adjustment, hadjustment, rfl⟩
  rcases h with ⟨supply, hsupply, tvl, htvl, rfl⟩
  have hactive : findActiveVectorAt offer clock.time = .ok activeVector := by
    simp only [getActiveVectorAndCurrentPrice, bind_eq_ok, pure_eq_ok] at hpriced
    rcases hpriced with ⟨_, hactive, _, _, hpair⟩
    cases hpair
    exact hactive
  constructor
  . exact bind_eq_ok.mpr ⟨_, hview, bind_eq_ok.mpr ⟨activeVector, hactive, hapy⟩⟩
  . refine bind_eq_ok.mpr ⟨_, hview, bind_eq_ok.mpr ⟨activeVector, hactive, ?_⟩⟩
    exact bind_eq_ok.mpr ⟨adjustment, hadjustment, rfl⟩
  . exact bind_eq_ok.mpr ⟨onycMint, hmint, hsupply⟩
  . have honyc := (World.loadMint_inv hmint).1
    refine bind_eq_ok.mpr ⟨_, hview, bind_eq_ok.mpr ⟨(), require_eq_ok.mpr honyc, ?_⟩⟩
    refine bind_eq_ok.mpr ⟨_, hpriced, bind_eq_ok.mpr ⟨supply, hsupply, ?_⟩⟩
    exact mapErr_eq_ok.mpr htvl
  . intro nav hnav
    simp only [getNav, hview, ok_bind, getOfferValuationSnapshot, hpriced, bind_eq_ok,
      pure_eq_ok] at hnav
    rcases hnav with ⟨_, ⟨_, _, rfl⟩, rfl⟩
    rfl

namespace Deployment

theorem refreshMarketStats_inv {signer : Signer} {tokenInMint : Pubkey}
    (h : d.perform clock (.refreshMarketStats signer tokenInMint) = .ok d')
    : ∃ (offer : Offer) (tokenIn onycMint : MintAccount) (snapshot : MarketStatsSnapshot),
        d.world.offers d.world.state.mainOffer = some offer ∧
        d.world.loadMint tokenInMint = .ok tokenIn ∧
        d.world.loadMint d.world.state.onycMint = .ok onycMint ∧
        offer.tokenInMint = tokenInMint ∧ offer.tokenOutMint = d.world.state.onycMint ∧
        recomputeMarketStats clock offer onycMint
          (loadCirculatingSupplyExcludedBalanceAmount d.world) = .ok snapshot ∧
        d' = { d with
          world := { d.world with
            marketStats := some (applyMarketStatsSnapshot snapshot clock)
          } } := by
  simp only [perform, act, refreshMarketStats, refreshMarketStatsPda, loadMainOffer, bind_eq_ok,
    require_eq_ok, okOr_eq_ok, StateResult.of_eq_ok, pure_eq_ok] at h
  rcases h with ⟨_, _, tokenIn, hin, onycMint, honyc, offer, hoffer, _, hkeyIn, _, hkeyOut, h⟩
  rcases h with ⟨_, ⟨snapshot, hsnapshot, rfl⟩, rfl⟩
  rw [(World.loadMint_inv hin).1] at hkeyIn
  rw [(World.loadMint_inv honyc).1] at hkeyOut
  exact ⟨offer, tokenIn, onycMint, snapshot, hoffer, hin, honyc, hkeyIn.symm, hkeyOut.symm,
    hsnapshot, rfl⟩

theorem run_views {d₁ d₂ : Deployment} {signer : Signer} {tokenInMint : Pubkey}
    (hkeyed : d.world.OffersKeyed) (hrun : d.run actions = .ok d₁)
    (hrefresh : d₁.perform clock (.refreshMarketStats signer tokenInMint) = .ok d₂)
    : ∃ (stats : MarketStats), d₂.world.marketStats = some stats ∧
        AgreesWithViews clock d₂.world ⟨tokenInMint, d₂.world.state.onycMint⟩ stats := by
  rcases refreshMarketStats_inv hrefresh with
    ⟨offer, tokenIn, onycMint, snapshot, hoffer, hin, honyc, hkeyIn, hkeyOut, hsnapshot, rfl⟩
  refine ⟨_, rfl, .of_snapshot honyc (loadViewedOffer_of ?_ hin honyc ⟨hkeyIn, hkeyOut⟩) hsnapshot⟩
  have hkey := run_offersKeyed hkeyed hrun _ _ hoffer
  rw [hkeyIn, hkeyOut] at hkey
  rw [← hkey]
  exact hoffer

theorem run_views_launch
    : ∃ (d₁ d₂ : Deployment) (stats : MarketStats),
        Sample.deployment.run Sample.market = .ok d₁ ∧
        d₁.perform ⟨200000, 0⟩ (.refreshMarketStats Sample.user Sample.usdc) = .ok d₂ ∧
        d₂.world.marketStats = some stats ∧ 0 < stats.tvl ∧
        AgreesWithViews ⟨200000, 0⟩ d₂.world ⟨Sample.usdc, d₂.world.state.onycMint⟩ stats := by
  have hview : ((Sample.deployment.run Sample.market).toOption.bind fun d₁ =>
      (d₁.perform ⟨200000, 0⟩ (.refreshMarketStats Sample.user Sample.usdc)).toOption.bind fun d₂ =>
        d₂.world.marketStats.map fun stats => decide (0 < stats.tvl)) = some true := by
    decide +kernel
  rcases exists_ok_of_view hview with ⟨d₁, hrun, hview⟩
  rcases exists_ok_of_view hview with ⟨d₂, hrefresh, hstats⟩
  have hkeyed : Sample.deployment.world.OffersKeyed := by
    intro key offer hkey
    cases hkey
  rcases run_views hkeyed hrun hrefresh with ⟨stats, hstored, hagrees⟩
  rw [hstored, Option.map_some, Option.some.injEq, decide_eq_true_eq] at hstats
  exact ⟨d₁, d₂, stats, hrun, hrefresh, hstored, hstats, hagrees⟩

end Deployment

end Stored

end OnreApp
