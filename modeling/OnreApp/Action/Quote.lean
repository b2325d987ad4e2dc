import OnreApp.Action.Privileges
import OnreApp.PropAmm.Lemmas.BuyQuote

namespace OnreApp

open Checked TokenLedger

variable {clock clock' : Clock} {d d₁ d₂ : Deployment} {w w' : World} {key : Pubkey}
  {actions : List (Clock × Action)} {args : QuoteSwapArgs} {quote : SwapQuote}

section Settings

variable (h : w'.settings = w.settings)

include h

theorem mints_of_settings : w'.mints = w.mints := congrArg MarketSettings.mints h

theorem decimals_of_settings {mint mint' : MintAccount} (hmint : w.loadMint key = .ok mint)
    (hmint' : w'.loadMint key = .ok mint') : mint'.decimals = mint.decimals := by
  simp only [World.loadMint, bind_eq_ok, World.load_eq_ok, pure_eq_ok] at hmint hmint'
  rcases hmint with ⟨info, hinfo, rfl⟩
  rcases hmint' with ⟨info', hinfo', rfl⟩
  rw [mints_of_settings h, hinfo, Option.some.injEq] at hinfo'
  rw [hinfo']

theorem terms_of_settings {offer offer' : Offer} (hoffer : w.offers key = some offer)
    (hoffer' : w'.offers key = some offer') : offer'.terms = offer.terms := by
  have hterms := congrFun (congrArg MarketSettings.offers h) key
  simpa [World.settings, hoffer, hoffer'] using hterms

end Settings

theorem computeOfferCurrentPrice_terms {offer offer' : Offer} (h : offer'.terms = offer.terms)
    (time : Nat) : computeOfferCurrentPrice offer' time = computeOfferCurrentPrice offer time := by
  have hsame : computeOfferCurrentPrice offer'.terms time
      = computeOfferCurrentPrice offer.terms time :=
    by rw [h]
  exact hsame

theorem getNav_inv {view : ViewArgs} {nav : Nat} (h : getNav clock w view = .ok nav)
    : ∃ (offer : Offer), w.offers (.offer view.tokenInMint view.tokenOutMint) = some offer ∧
        computeOfferCurrentPrice offer clock.time = .ok nav := by
  simp only [getNav, loadViewedOffer, getOfferValuationSnapshot, bind_eq_ok, World.load_eq_ok,
    pure_eq_ok] at h
  rcases h with ⟨_, ⟨offer, hoffer, _, _, _, _, _, _, rfl⟩, _, ⟨priced, hpriced, _, _, rfl⟩, rfl⟩
  refine ⟨offer, hoffer, ?_⟩
  unfold computeOfferCurrentPrice
  rw [hpriced]
  rfl

theorem QuotedBuy.result_of_settings {offer offer' : Offer}
    {tokenInMint tokenOutMint tokenInMint' tokenOutMint' : MintAccount}
    {result result' : OfferProcessResult}
    (h : QuotedBuy clock w args quote offer tokenInMint tokenOutMint result)
    (hsettings : w'.settings = w.settings)
    (hnav : getNav clock' w ⟨args.tokenInMint, args.tokenOutMint⟩ = .ok quote.currentPrice)
    (hoffer : w'.offers (.offer args.tokenInMint args.tokenOutMint) = some offer')
    (hin : w'.loadMint args.tokenInMint = .ok tokenInMint')
    (hout : w'.loadMint args.tokenOutMint = .ok tokenOutMint')
    (hresult : processOfferCore clock' offer' args.tokenInAmount tokenInMint' tokenOutMint'
      offer'.feeBasisPointsPermissionless = .ok result') : result' = result := by
  have hterms := terms_of_settings hsettings h.offer_eq hoffer
  have hfee : offer'.terms.feeBasisPointsPermissionless
      = offer.terms.feeBasisPointsPermissionless :=
    by rw [hterms]
  change offer'.feeBasisPointsPermissionless = offer.feeBasisPointsPermissionless at hfee
  rcases getNav_inv hnav with ⟨offer₀, hoffer₀, hprice⟩
  rw [h.offer_eq, Option.some.injEq] at hoffer₀
  subst hoffer₀
  have hprice' := (processOfferCore_inv hresult).1
  rw [computeOfferCurrentPrice_terms hterms, hprice, Except.ok.injEq, h.price_eq] at hprice'
  rw [hfee] at hresult
  exact processOfferCore_of_price h.result_eq hresult (decimals_of_settings hsettings h.loadIn hin)
    (decimals_of_settings hsettings h.loadOut hout) hprice'.symm

namespace Sample

def funded : Deployment :=
  { deployment with
    world := { world with
      ledger := {
        balance := fun owner mint =>
          if (owner = user.key ∨ owner = heir.key) ∧ mint = usdc then 1000000000 else 0
        supply := fun mint => if mint = usdc then 2000000000 else 0
        log := []
      }
    }
  }

def opened : List (Clock × Action) := swaps.map fun call => (call.1, .instruction call.2)

def quoted : QuoteSwapArgs := ⟨offer, usdc, onyc, 30000000⟩

def interleaved : List (Clock × Action) := [
  (⟨1300, 0⟩, .instruction (.openSwapBuy ⟨user, usdc, onyc, 40000000, 0⟩)),
  (⟨1400, 0⟩, .instruction (.settleBuffer worker)),
  (⟨1500, 0⟩, .instruction (.openSwapSell ⟨user, onyc, usdc, 10000000000, 1⟩))
]

end Sample

namespace Deployment

section Failures

theorem getOrCreateConfigurableVaults_failsOnlyWith {e : StateError}
    {kinds : List ConfigurableVaultKind}
    : FailsOnlyWith (fun failure => failure = .state e)
        (getOrCreateConfigurableVaults d e kinds) := by
  induction kinds generalizing d with
  | nil => apply failsOnlyWith_pure
  | cons kind kinds ih =>
    unfold getOrCreateConfigurableVaults
    apply failsOnlyWith_bind
    . unfold getOrCreateConfigurableVault
      split
      . apply failsOnlyWith_pure
      . refine failsOnlyWith_bind (failsOnlyWith_require fun _ => rfl) ?_
        intros
        apply failsOnlyWith_pure
    . intro d₁ _
      exact ih

theorem perform_instruction_avoids {code : OnreError} {i : Instruction}
    (h : Avoids code (execute clock d.world i))
    : FailsOnlyWith (fun failure => failure ≠ .fault (.onre code))
        (d.perform clock (.instruction i)) := by
  unfold perform
  refine failsOnlyWith_bind (failsOnlyWith_require ?_) ?_
  . intro _
    simp
  intro _ _
  unfold act executeInstruction
  apply failsOnlyWith_bind
  . intro failure hfailure
    rw [getOrCreateConfigurableVaults_failsOnlyWith failure hfailure]
    simp
  intro d₁ hvaults
  rcases getOrCreateConfigurableVaults_inv hvaults with ⟨_, _, rfl⟩
  unfold inWorld
  apply failsOnlyWith_bind
  . intro failure hfailure
    cases hexecute : execute clock d.world i with
    | ok w' =>
      rw [hexecute] at hfailure
      cases hfailure
    | error fault =>
      rw [hexecute] at hfailure
      cases hfailure
      intro heq
      cases heq
      exact h _ hexecute rfl
  . intro _ _
    apply failsOnlyWith_pure

end Failures

theorem run_quote_buy (hopen : d.stateIsOpen = true)
    (hquote : quoteSwapBuy clock d.world args = .ok quote)
    (hactions : ∀ call ∈ actions, call.2.signer.key ≠ d.boss ∧
      call.2.signer.key ≠ d.governance.proposedBoss)
    (hrun : d.run actions = .ok d₁)
    (hnav : getNav clock' d.world ⟨args.tokenInMint, args.tokenOutMint⟩ = .ok quote.currentPrice)
    (user : Signer)
    : let buy : Action := .instruction (.openSwapBuy {
        user
        tokenInMint := args.tokenInMint
        tokenOutMint := args.tokenOutMint
        tokenInAmount := args.tokenInAmount
        minimumOut := quote.minimumOut
      })
      d₁.perform clock' buy ≠ .error (.fault (.onre .minimumOutNotMet)) ∧
      ∀ (d₂ : Deployment), d₁.perform clock' buy = .ok d₂ →
        d₂.world.ledger.balance user.key args.tokenOutMint
          = d₁.world.ledger.balance user.key args.tokenOutMint + quote.tokenOutAmount ∧
        d₂.world.ledger.balance user.key args.tokenInMint + args.tokenInAmount
          = d₁.world.ledger.balance user.key args.tokenInMint ∧
        d₂.world.ledger.balance (.configurableVault .propAmmBuyFee) args.tokenInMint
          = d₁.world.ledger.balance (.configurableVault .propAmmBuyFee) args.tokenInMint
            + quote.tokenInFeeAmount := by
  have hsettings : d₁.world.settings = d.world.settings :=
    congrArg Settings.market (run_settings hopen hactions hrun).1
  rcases quoteSwapBuy_inv hquote with ⟨offer, tokenInMint, tokenOutMint, result, hquoted⟩
  dsimp only
  constructor
  . intro herror
    refine perform_instruction_avoids (openSwapBuy_notSlippage ?_) _ herror rfl
    intro offer' tokenInMint' tokenOutMint' result' hoffer hin hout hresult
    rw [hquoted.result_of_settings hsettings hnav hoffer hin hout hresult, hquoted.minimumOut_eq,
      hquoted.tokenOutAmount_eq]
  . intro d₂ hbuy
    rcases openSwapBuy_routed hquoted.mints_ne (perform_instruction_inv hbuy) with
      ⟨offer', tokenInMint', tokenOutMint', result', _, _, hcompleted⟩
    have hresult := hquoted.result_of_settings hsettings hnav hcompleted.loadsOffer
      hcompleted.loadsTokenIn hcompleted.loadsTokenOut hcompleted.processed
    rw [hquoted.tokenOutAmount_eq, hquoted.fee_eq, ← hresult]
    exact ⟨hcompleted.routed.userOut, hcompleted.routed.userIn, hcompleted.routed.feeAccount⟩

theorem run_quote_buy_front_run
    : ∃ (d d₁ d₂ : Deployment) (quote : SwapQuote),
        quoteSwapBuy ⟨1200, 0⟩ d.world Sample.quoted = .ok quote ∧
        d.run Sample.interleaved = .ok d₁ ∧
        d₁.perform ⟨2000, 0⟩ (.instruction (.openSwapBuy
          ⟨Sample.heir, Sample.usdc, Sample.onyc, 30000000, quote.minimumOut⟩)) = .ok d₂ ∧
        d₁.world.ledger.supply Sample.onyc ≠ d.world.ledger.supply Sample.onyc ∧
        d₂.world.ledger.balance Sample.heir.key Sample.onyc
          = d₁.world.ledger.balance Sample.heir.key Sample.onyc + quote.tokenOutAmount := by
  have hview : ((Sample.funded.run (Sample.market ++ Sample.opened)).toOption.bind fun d =>
      (quoteSwapBuy ⟨1200, 0⟩ d.world Sample.quoted).toOption.bind fun quote =>
        (getNav ⟨2000, 0⟩ d.world ⟨Sample.usdc, Sample.onyc⟩).toOption.bind fun nav =>
          (d.run Sample.interleaved).toOption.bind fun d₁ =>
            (d₁.perform ⟨2000, 0⟩ (.instruction (.openSwapBuy
              ⟨Sample.heir, Sample.usdc, Sample.onyc, 30000000, quote.minimumOut⟩))).toOption.bind
                fun _ => some (d.stateIsOpen, d.boss, d.governance.proposedBoss,
                  decide (nav = quote.currentPrice),
                  decide (d₁.world.ledger.supply Sample.onyc = d.world.ledger.supply Sample.onyc))) =
      some (true, Sample.boss.key, .default, true, false) := by decide +kernel
  rcases exists_ok_of_view hview with ⟨d, _, hview⟩
  rcases exists_ok_of_view hview with ⟨quote, hquote, hview⟩
  rcases exists_ok_of_view hview with ⟨nav, hnav, hview⟩
  rcases exists_ok_of_view hview with ⟨d₁, hrun, hview⟩
  rcases exists_ok_of_view hview with ⟨d₂, hbuy, hfacts⟩
  simp only [Option.some.injEq, Prod.mk.injEq, decide_eq_true_eq, decide_eq_false_iff_not] at hfacts
  rcases hfacts with ⟨hopen, hboss, hproposed, rfl, hsupply⟩
  have hkept := (run_quote_buy hopen hquote (by rw [hboss, hproposed]; decide) hrun hnav
    Sample.heir).2 d₂ hbuy
  exact ⟨d, d₁, d₂, quote, hquote, hrun, hbuy, hsupply, hkept.1⟩

end Deployment

end OnreApp
