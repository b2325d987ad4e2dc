import OnreApp.Redemption.Impl.Requests
import OnreApp.Redemption.Lemmas.Pricing
import OnreApp.Redemption.Lemmas.RedemptionOps
import OnreApp.World.Lemmas

namespace OnreApp

open Checked TokenLedger

variable {clock : Clock} {w w' : World}

theorem loadRedemptionOfferBySeeds_inv {key : Pubkey} {redemptionOffer : RedemptionOffer}
    (h : loadRedemptionOfferBySeeds w key = .ok redemptionOffer)
    : w.redemptionOffers key = some redemptionOffer ∧
      key = .redemptionOffer redemptionOffer.tokenInMint redemptionOffer.tokenOutMint := by
  simp only [loadRedemptionOfferBySeeds, bind_eq_ok, require_eq_ok, World.load_eq_ok,
    pure_eq_ok] at h
  rcases h with ⟨_, hload, _, hkey, rfl⟩
  exact ⟨hload, hkey⟩

theorem RedemptionRequest.remaining_inv {request : RedemptionRequest} {remaining : Nat}
    (h : request.remaining = .ok remaining)
    : request.fulfilledAmount ≤ request.amount ∧
      remaining = request.amount - request.fulfilledAmount := by
  simp only [RedemptionRequest.remaining, okOr_eq_ok, checkedSub_eq_some] at h
  exact ⟨h.1, h.2.symm⟩

structure makeRedemptionOffer.Accepted (w : World) (args : MakeRedemptionOfferArgs) : Prop where
  boss_eq : args.boss.key = w.state.boss
  onyc : args.tokenInMint = w.state.onycMint
  mintExists : (w.mints args.tokenInMint).isSome = true
  free : w.redemptionOffers (.redemptionOffer args.tokenInMint args.tokenOutMint) = none
  fee_le : args.feeBasisPoints ≤ maxAllowedFeeBps
  sellFee_le : args.feeBasisPointsPropAmmSell ≤ maxAllowedFeeBps

theorem makeRedemptionOffer_inv {args : MakeRedemptionOfferArgs}
    (h : makeRedemptionOffer w args = .ok w')
    : makeRedemptionOffer.Accepted w args ∧
      w' = w.setRedemptionOffer (.redemptionOffer args.tokenInMint args.tokenOutMint) {
        offer := .offer args.tokenOutMint args.tokenInMint
        tokenInMint := args.tokenInMint
        tokenOutMint := args.tokenOutMint
        executedRedemptions := 0
        requestedRedemptions := 0
        feeBasisPoints := args.feeBasisPoints
        requestCounter := 0
        vaultTargetBps := 0
        disabled := false
        feeBasisPointsPropAmmSell := args.feeBasisPointsPropAmmSell
      } := by
  simp only [makeRedemptionOffer, bind_eq_ok, require_eq_ok, World.load_eq_ok, pure_eq_ok] at h
  rcases h with ⟨_, hboss, _, _, tokenInMint, hin, _, honyc, h⟩
  rcases h with ⟨_, _, tokenOutMint, hout, _, hfree, _, hfee, _, hsell, rfl⟩
  rw [(World.loadMint_inv hin).1, (World.loadMint_inv hout).1] at *
  exact ⟨⟨hboss, honyc, World.loadMint_isSome hin, hfree, hfee, hsell⟩, rfl⟩

theorem updateRedemptionOffer_inv {args : UpdateRedemptionOfferArgs} {bound : Nat}
    {outOfBounds : OnreError} {get : RedemptionOffer → Nat}
    {set : RedemptionOffer → Nat → RedemptionOffer}
    (h : updateRedemptionOffer w args bound outOfBounds get set = .ok w')
    : args.boss.key = w.state.boss ∧ args.newValue ≤ bound ∧
      ∃ (redemptionOffer : RedemptionOffer),
        w.redemptionOffers args.redemptionOffer = some redemptionOffer ∧
        w' = w.setRedemptionOffer args.redemptionOffer (set redemptionOffer args.newValue) := by
  simp only [updateRedemptionOffer, bind_eq_ok, require_eq_ok, pure_eq_ok] at h
  rcases h with ⟨redemptionOffer, hload, _, hboss, _, hbound, _, _, rfl⟩
  exact ⟨hboss, hbound, redemptionOffer, (loadRedemptionOfferBySeeds_inv hload).1, rfl⟩

structure createRedemptionRequest.Accepted (w : World) (args : CreateRedemptionRequestArgs)
    (offer : Offer) (redemptionOffer : RedemptionOffer) : Prop where
  tradesAt : TradesAt w args.offer offer
  load : w.redemptionOffers args.redemptionOffer = some redemptionOffer
  enabled : redemptionOffer.disabled = false
  free : w.redemptionRequests.lookup
    (.redemptionRequest args.redemptionOffer redemptionOffer.requestCounter) = none
  tokenInMint : args.tokenInMint = redemptionOffer.tokenInMint
  pos : 0 < args.amount
  counter_le : redemptionOffer.requestCounter + 1 ≤ u64Max

theorem createRedemptionRequest_inv {args : CreateRedemptionRequestArgs}
    (h : createRedemptionRequest w args = .ok w')
    : ∃ (offer : Offer) (redemptionOffer : RedemptionOffer) (l : Ledger),
        createRedemptionRequest.Accepted w args offer redemptionOffer ∧
        Performs u64Max w.ledger
          [.transfer redemptionOffer.tokenInMint args.redeemer.key .redemptionVaultAuthority
            args.amount] l ∧
        w' = ((({ w with ledger := l }.setRedemptionRequest
              (.redemptionRequest args.redemptionOffer redemptionOffer.requestCounter) {
                offer := args.redemptionOffer
                requestId := redemptionOffer.requestCounter
                redeemer := args.redeemer.key
                amount := args.amount
                fulfilledAmount := 0
              }).setRedemptionOffer args.redemptionOffer {
                redemptionOffer with
                requestedRedemptions := redemptionOffer.requestedRedemptions + args.amount
                requestCounter := redemptionOffer.requestCounter + 1
              }).emit (.requestCreated
                (.redemptionRequest args.redemptionOffer redemptionOffer.requestCounter)
                args.redemptionOffer args.redeemer.key args.amount
                redemptionOffer.requestCounter)) := by
  simp only [createRedemptionRequest, RedemptionOffer.recordRequest, World.requireNotKilled,
    RedemptionOffer.requireEnabled, Offer.requireEnabled, bind_eq_ok, require_eq_ok,
    World.load_eq_ok, okOr_eq_ok, checkedAdd_eq_some, pure_eq_ok] at h
  rcases h with ⟨_, hkilled, redemptionOffer, hload, offer, hoffer, _, hfree, h⟩
  rcases h with ⟨tokenInMint, hmint, _, hkey, _, _, _, hpos, _, _, _, _, _, _, h⟩
  rcases h with ⟨_, hredemptionEnabled, _, henabled, l, htransfer, h⟩
  rcases h with ⟨_, ⟨_, ⟨_, rfl⟩, _, ⟨hcounter, rfl⟩, rfl⟩, rfl⟩
  have hperforms := transferTokens_performs htransfer
  rw [hkey] at hperforms
  rw [(World.loadMint_inv hmint).1] at hkey
  refine ⟨offer, redemptionOffer, l, ?_, hperforms, rfl⟩
  exact {
    tradesAt := ⟨hoffer, hkilled, henabled⟩
    load := (loadRedemptionOfferBySeeds_inv hload).1
    enabled := hredemptionEnabled
    free := hfree
    tokenInMint := hkey
    pos := hpos
    counter_le := hcounter
  }

structure cancelRedemptionRequest.Accepted (w : World) (args : CancelRedemptionRequestArgs)
    (redemptionOffer : RedemptionOffer) (request : RedemptionRequest) : Prop where
  notKilled : w.state.isKilled = false
  load : w.redemptionOffers args.redemptionOffer = some redemptionOffer
  lookup : w.redemptionRequests.lookup args.redemptionRequest = some request
  offer : request.offer = args.redemptionOffer
  redeemer : args.redeemer = request.redeemer
  fulfilled_le : request.fulfilledAmount ≤ request.amount
  requested : request.amount - request.fulfilledAmount ≤ redemptionOffer.requestedRedemptions

theorem cancelRedemptionRequest_inv {args : CancelRedemptionRequestArgs}
    (h : cancelRedemptionRequest w args = .ok w')
    : ∃ (redemptionOffer : RedemptionOffer) (request : RedemptionRequest) (l : Ledger),
        cancelRedemptionRequest.Accepted w args redemptionOffer request ∧
        Performs u64Max w.ledger
          [.transfer redemptionOffer.tokenInMint .redemptionVaultAuthority args.redeemer
            (request.amount - request.fulfilledAmount)] l ∧
        w' = ((({ w with ledger := l }.closeRedemptionRequest
              args.redemptionRequest).setRedemptionOffer args.redemptionOffer {
                redemptionOffer with
                requestedRedemptions := redemptionOffer.requestedRedemptions -
                  (request.amount - request.fulfilledAmount)
              }).emit (.requestCancelled args.redemptionRequest args.redemptionOffer
                request.redeemer request.amount (request.amount - request.fulfilledAmount)
                args.signer.key)) := by
  simp only [cancelRedemptionRequest, RedemptionOffer.recordCancellation, World.requireNotKilled,
    bind_eq_ok, require_eq_ok, World.load_eq_ok, okOr_eq_ok, checkedSub_eq_some, pure_eq_ok] at h
  rcases h with ⟨_, hkilled, redemptionOffer, hload, request, hrequest, _, _, _, hoffer, h⟩
  rcases h with ⟨_, _, _, hredeemer, _, _, _, _, tokenInMint, hmint, _, hkey, h⟩
  rcases h with ⟨returned, hreturned, l, htransfer, _, ⟨_, ⟨hle, rfl⟩, rfl⟩, rfl⟩
  rcases RedemptionRequest.remaining_inv hreturned with ⟨hfulfilled, rfl⟩
  have hperforms := transferTokens_performs htransfer
  rw [hkey] at hperforms
  exact ⟨redemptionOffer, request, l, ⟨hkilled, (loadRedemptionOfferBySeeds_inv hload).1, hrequest,
    hoffer, hredeemer, hfulfilled, hle⟩, hperforms, rfl⟩

section Errors

theorem RedemptionOffer.recordCancellation_of_le {redemptionOffer : RedemptionOffer} {n : Nat}
    (h : n ≤ redemptionOffer.requestedRedemptions)
    : redemptionOffer.recordCancellation n = .ok { redemptionOffer with
        requestedRedemptions := redemptionOffer.requestedRedemptions - n } := by
  unfold recordCancellation
  rw [checkedSub_eq_some.mpr ⟨h, rfl⟩]
  rfl

theorem RedemptionRequest.remaining_failsOnlyWith {request : RedemptionRequest}
    : FailsOnlyWith (fun e => e = .onre .arithmeticUnderflow) request.remaining :=
  failsOnlyWith_okOr rfl

theorem RedemptionOffer.recordCancellation_failsOnlyWith {redemptionOffer : RedemptionOffer}
    {n : Nat}
    : FailsOnlyWith (fun e => e = .onre .arithmeticUnderflow)
        (redemptionOffer.recordCancellation n) := by
  unfold recordCancellation
  refine failsOnlyWith_bind (failsOnlyWith_okOr rfl) ?_
  intro _ _
  apply failsOnlyWith_pure

theorem RedemptionOffer.recordFulfillment_failsOnlyWith {redemptionOffer : RedemptionOffer}
    {n : Nat} (h : n ≤ redemptionOffer.requestedRedemptions)
    : FailsOnlyWith (fun e => e = .onre .arithmeticOverflow)
        (redemptionOffer.recordFulfillment n) := by
  unfold recordFulfillment
  refine failsOnlyWith_bind (failsOnlyWith_okOr rfl) ?_
  intro _ _
  rw [checkedSub_eq_some.mpr ⟨h, rfl⟩]
  exact failsOnlyWith_pure _

def Fault.isCheck : Fault → Bool
  | .onre .arithmeticUnderflow => false
  | .token _ => false
  | _ => true

theorem failsOnlyWith_loadMint {P : Fault → Prop} {key : Pubkey} (h : P .accountNotInitialized)
    : FailsOnlyWith P (w.loadMint key) := by
  refine failsOnlyWith_bind (failsOnlyWith_okOr h) ?_
  intro _ _
  apply failsOnlyWith_pure

theorem failsOnlyWith_loadRedemptionOfferBySeeds {P : Fault → Prop} {key : Pubkey}
    (hload : P .accountNotInitialized) (hseeds : P .constraint)
    : FailsOnlyWith P (loadRedemptionOfferBySeeds w key) := by
  refine failsOnlyWith_bind (failsOnlyWith_okOr hload) ?_
  intro _ _
  refine failsOnlyWith_bind (failsOnlyWith_require fun _ => hseeds) ?_
  intro _ _
  apply failsOnlyWith_pure

theorem cancelRedemptionRequest_failsOnlyWith {args : CancelRedemptionRequestArgs}
    : FailsOnlyWith (fun e => e.isCheck = true ∨
        ∃ (redemptionOffer : RedemptionOffer) (request : RedemptionRequest),
          w.redemptionOffers args.redemptionOffer = some redemptionOffer ∧
          w.redemptionRequests.lookup args.redemptionRequest = some request ∧
          request.offer = args.redemptionOffer ∧
          (request.remaining = .error e ∨
            ∃ (tokenInMint : MintAccount) (returnedAmount : Nat),
              tokenInMint.key = redemptionOffer.tokenInMint ∧
              request.remaining = .ok returnedAmount ∧
              (transferTokens w.ledger tokenInMint .redemptionVaultAuthority args.redeemer
                  returnedAmount = .error e ∨
                redemptionOffer.recordCancellation returnedAmount = .error e)))
        (cancelRedemptionRequest w args) := by
  unfold cancelRedemptionRequest
  refine failsOnlyWith_bind (failsOnlyWith_require fun _ => .inl rfl) ?_
  intro _ _
  refine failsOnlyWith_bind (failsOnlyWith_loadRedemptionOfferBySeeds (.inl rfl) (.inl rfl)) ?_
  intro redemptionOffer hload
  refine failsOnlyWith_bind (failsOnlyWith_okOr (.inl rfl)) ?_
  intro request hrequest
  refine failsOnlyWith_bind (failsOnlyWith_require fun _ => .inl rfl) ?_
  intro _ _
  refine failsOnlyWith_bind (failsOnlyWith_require fun _ => .inl rfl) ?_
  intro _ hoffer
  refine failsOnlyWith_bind (failsOnlyWith_require fun _ => .inl rfl) ?_
  intro _ _
  refine failsOnlyWith_bind (failsOnlyWith_require fun _ => .inl rfl) ?_
  intro _ _
  refine failsOnlyWith_bind (failsOnlyWith_require fun _ => .inl rfl) ?_
  intro _ _
  refine failsOnlyWith_bind (failsOnlyWith_require fun _ => .inl rfl) ?_
  intro _ _
  refine failsOnlyWith_bind (failsOnlyWith_loadMint (.inl rfl)) ?_
  intro tokenInMint _
  refine failsOnlyWith_bind (failsOnlyWith_require fun _ => .inl rfl) ?_
  intro _ hkey
  rw [require_eq_ok] at hoffer hkey
  rw [World.load_eq_ok] at hrequest
  have hredemptionOffer := (loadRedemptionOfferBySeeds_inv hload).1
  refine failsOnlyWith_bind ?_ ?_
  . intro e he
    exact .inr ⟨redemptionOffer, request, hredemptionOffer, hrequest, hoffer, .inl he⟩
  intro returnedAmount hreturned
  refine failsOnlyWith_bind ?_ ?_
  . intro e he
    exact .inr ⟨redemptionOffer, request, hredemptionOffer, hrequest, hoffer,
      .inr ⟨tokenInMint, returnedAmount, hkey, hreturned, .inl he⟩⟩
  intro l _
  refine failsOnlyWith_bind ?_ ?_
  . intro e he
    exact .inr ⟨redemptionOffer, request, hredemptionOffer, hrequest, hoffer,
      .inr ⟨tokenInMint, returnedAmount, hkey, hreturned, .inr he⟩⟩
  intro _ _
  apply failsOnlyWith_pure

end Errors

section StoreRequest

variable {key : Pubkey} {request : RedemptionRequest} {n : Nat}

namespace fulfillRedemptionRequest

@[simp]
theorem storeRequest_state : (storeRequest w key request n).state = w.state := by
  unfold storeRequest
  split <;> rfl

@[simp]
theorem storeRequest_ledger : (storeRequest w key request n).ledger = w.ledger := by
  unfold storeRequest
  split <;> rfl

@[simp]
theorem storeRequest_bufferState : (storeRequest w key request n).bufferState = w.bufferState := by
  unfold storeRequest
  split <;> rfl

theorem storeRequest_freshStats {clock : Clock} (h : w.FreshStats clock)
    : (storeRequest w key request n).FreshStats clock := by
  unfold storeRequest
  split <;> exact h

@[simp]
theorem storeRequest_redemptionOffers
    : (storeRequest w key request n).redemptionOffers = w.redemptionOffers := by
  unfold storeRequest
  split <;> rfl

end fulfillRedemptionRequest

end StoreRequest

section Fulfill

variable {args : FulfillRedemptionRequestArgs} {params : FulfillRedemptionRequestParams}

structure fulfillRedemptionRequest.Loaded (w : World) (args : FulfillRedemptionRequestArgs)
    (params : FulfillRedemptionRequestParams) : Prop where
  notKilled : w.state.isKilled = false
  offer : w.offers args.offer = some params.offer
  request : w.redemptionRequests.lookup args.redemptionRequest = some params.request
  mintIn : w.loadMint args.tokenInMint = .ok params.tokenInMint
  mintOut : w.loadMint args.tokenOutMint = .ok params.tokenOutMint
  request_offer : params.request.offer = args.redemptionOffer
  redeemer : args.redeemer = params.request.redeemer
  redemptionOffer : w.redemptionOffers args.redemptionOffer = some params.redemptionOffer
  enabled : params.redemptionOffer.disabled = false
  tokenInMint : args.tokenInMint = params.redemptionOffer.tokenInMint
  tokenOutMint : args.tokenOutMint = params.redemptionOffer.tokenOutMint

theorem fulfillRedemptionRequest.loadParams_inv (h : loadParams w args = .ok params)
    : Loaded w args params := by
  simp only [loadParams, loadRedemptionOffer, World.requireNotKilled,
    RedemptionOffer.requireEnabled, bind_eq_ok, require_eq_ok, World.load_eq_ok, okOr_eq_ok,
    pure_eq_ok] at h
  rcases h with ⟨_, hkilled, offer, hoffer, request, hrequest, h⟩
  rcases h with ⟨tokenInMint, hin, tokenOutMint, hout, _, _, _, hrequestOffer, h⟩
  rcases h with ⟨_, hredeemer, _, _, _, ⟨redemptionOffer, hload, _, _, _, _, hloaded⟩, rfl⟩
  rcases hloaded with ⟨_, hinKey, _, houtKey, _, henabled, rfl⟩
  rw [(World.loadMint_inv hin).1] at hinKey
  rw [(World.loadMint_inv hout).1] at houtKey
  exact ⟨hkilled, hoffer, hrequest, hin, hout, hrequestOffer, hredeemer, hload, henabled, hinKey,
    houtKey⟩

/-- `w₂` is the world once the tokens have moved, before the counters and the request are stored. -/
structure Fulfillment (clock : Clock) (w w₁ w₂ : World) (args : FulfillRedemptionRequestArgs)
    (params : FulfillRedemptionRequestParams) (result : RedemptionProcessResult)
    (accrual : Option BufferAccrualResult) : Prop where
  pos : 0 < args.amount
  le : params.request.fulfilledAmount + args.amount ≤ params.request.amount
  requested : args.amount ≤ params.redemptionOffer.requestedRedemptions
  enabled : params.offer.disabled = false
  result_eq : processRedemptionCore clock params.offer args.amount params.tokenInMint
    params.tokenOutMint params.redemptionOffer.feeBasisPoints 0 = .ok result
  accrual_isSome : accrual.isSome = (decide (params.tokenInMint.key = w.state.onycMint) &&
    programControlsMint params.tokenInMint && w.bufferState.isSome)
  step : SupplyStep clock w w₁ w₂ params.tokenInMint accrual
    (redemptionOps (fulfillRedemptionRequest.opsParams args params result)) 0
    result.tokenInNetAmount
  marketOnly : MarketOnly w w₂
  keeps : w.Keeps w₂
  fresh : w.loadMint w.state.onycMint = .ok params.tokenInMint →
    programControlsMint params.tokenInMint = true → w₂.FreshStats clock

theorem fulfillRedemptionRequest_inv (h : fulfillRedemptionRequest clock w args = .ok w')
    : ∃ (params : FulfillRedemptionRequestParams) (result : RedemptionProcessResult)
        (accrual : Option BufferAccrualResult) (w₁ w₂ : World),
        fulfillRedemptionRequest.loadParams w args = .ok params ∧
        fulfillRedemptionRequest.Loaded w args params ∧
        Fulfillment clock w w₁ w₂ args params result accrual ∧
        w' = fulfillRedemptionRequest.storeRequest
          ((w₂.emit (.requestFulfilled args.redemptionRequest args.redemptionOffer args.redeemer
            result.tokenInNetAmount result.tokenInFeeAmount result.tokenOutAmount result.price
            args.amount (params.request.fulfilledAmount + args.amount)
            (params.request.fulfilledAmount + args.amount = params.request.amount))
            ).setRedemptionOffer args.redemptionOffer {
              params.redemptionOffer with
              executedRedemptions := params.redemptionOffer.executedRedemptions + args.amount
              requestedRedemptions := params.redemptionOffer.requestedRedemptions - args.amount
            }) args.redemptionRequest params.request
            (params.request.fulfilledAmount + args.amount) := by
  simp only [fulfillRedemptionRequest, executeFulfillRedemptionRequest,
    RedemptionOffer.recordFulfillment, Offer.requireEnabled, bind_eq_ok, require_eq_ok, okOr_eq_ok,
    checkedAdd_eq_some, checkedSub_eq_some, pure_eq_ok] at h
  rcases h with ⟨params, hparams, _, hpos, remaining, hremaining, _, hle, _, henabled, h⟩
  rcases h with ⟨result, hresult, mainOffer, hmain, ⟨accrual, w₁⟩, haccrue, l, hops, w₂, hstore, h⟩
  rcases h with ⟨w₃, hrefresh, _, ⟨_, rfl⟩, _, ⟨_, ⟨_, rfl⟩, _, ⟨hrequested, rfl⟩, rfl⟩, rfl⟩
  dsimp only at hops hstore
  rcases RedemptionRequest.remaining_inv hremaining with ⟨_, rfl⟩
  have honyc : (decide (params.tokenInMint.key = w.state.onycMint) &&
      programControlsMint params.tokenInMint && w.bufferState.isSome) = true →
      params.tokenInMint.key = w.state.onycMint := by
    intro hshould
    simp only [Bool.and_eq_true, decide_eq_true_eq] at hshould
    exact hshould.1.1
  rcases accrueIf_inv haccrue (loadMainOfferIf_inv hmain) honyc with ⟨hstep, hsome⟩
  rcases SupplyStep.finish hstep (storePostBurn_inv hstore) .of_update rfl
    (executeRedemptionOperations_performs hops) (refreshMarketStatsIf_inv hrefresh)
    (by simp)
    (fun _ => by rw [minted_redemptionOps]; exact Nat.zero_le _)
    mintedTo_redemptionOps with ⟨hsupplyStep, hmarket⟩
  have hkeeps := hmarket.keeps (SupplyStep.finish_terms hstep (storePostBurn_inv hstore) rfl
    (refreshMarketStatsIf_inv hrefresh))
  refine ⟨params, result, accrual, w₁, w₃, hparams,
    fulfillRedemptionRequest.loadParams_inv hparams, ⟨hpos, by omega, hrequested, henabled, hresult,
      hsome, hsupplyStep, hmarket, hkeeps, ?_⟩, rfl⟩
  intro hload hcontrols
  have hmarket₂ : MarketOnly w w₂ :=
    hstep.marketOnly.trans (MarketOnly.of_update.trans (storePostBurn_inv hstore).marketOnly)
  apply refreshMarketStatsIf_fresh _ _ _ hrefresh
  . simp [(World.loadMint_inv hload).1, hcontrols]
  . rw [hmarket₂.offers, hmarket₂.state]
    exact loadMainOfferIf_inv hmain
  . rw [hmarket₂.state]
    exact World.loadMint_reload hload hmarket₂.mints

end Fulfill

end OnreApp
