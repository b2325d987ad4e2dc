import OnreApp.Program.Lemmas
import OnreApp.Redemption.Lemmas.Book

namespace OnreApp

open Checked TokenLedger

variable {clock : Clock} {w w' : World} {key : Pubkey}

def RedemptionOffer.counters (redemptionOffer : RedemptionOffer) : Counters where
  requested := redemptionOffer.requestedRedemptions
  executed := redemptionOffer.executedRedemptions
  created := redemptionOffer.requestCounter

def World.book (w : World) : Book where
  counters := fun key => (w.redemptionOffers key).map RedemptionOffer.counters
  requests := w.redemptionRequests
  events := w.events

section Book

theorem World.book_counters {redemptionOffer : RedemptionOffer}
    (hkey : w.redemptionOffers key = some redemptionOffer)
    : w.book.counters key = some redemptionOffer.counters := by
  simp [World.book, hkey]

@[simp]
theorem World.book_emit {event : RedemptionEvent}
    : (w.emit event).book = { w.book with events := event :: w.events } := rfl

theorem fulfillRedemptionRequest.book_storeRequest {request : RedemptionRequest} {n : Nat}
    : (storeRequest w key request n).book
        =
      { w.book with requests := w.book.storeRequest key request n } := by
  unfold storeRequest Book.storeRequest
  split <;> rfl

theorem fulfillRedemptionRequest.storeRequest_redemptionRequests {request : RedemptionRequest}
    {n : Nat} (h : w'.redemptionRequests = w.redemptionRequests)
    : (storeRequest w' key request n).redemptionRequests = w.book.storeRequest key request n := by
  unfold storeRequest Book.storeRequest World.closeRedemptionRequest World.setRedemptionRequest
  rw [h]
  split <;> rfl

@[simp]
theorem World.book_setRedemptionOffer {redemptionOffer : RedemptionOffer}
    : (w.setRedemptionOffer key redemptionOffer).book
        =
      w.book.setCounters key redemptionOffer.counters := by
  unfold World.book World.setRedemptionOffer Book.setCounters
  congr
  funext k
  dsimp only
  by_cases heq : k = key
  . subst heq
    simp
  . simp [Function.update_of_ne heq]

theorem MarketOnly.book (h : MarketOnly w w') : w'.book = w.book := by
  unfold World.book
  rw [h.redemptionOffers, h.redemptionRequests, h.events]

theorem MarketEffect.book_step {ops : List LedgerOp} (h : MarketEffect w w' ops)
    : Book.Step w.book w'.book := by
  have hbook : w'.book = w.book := by
    unfold World.book
    rw [h.redemptionOffers, h.redemptionRequests, h.events]
  rw [hbook]
  exact .idle

theorem makeRedemptionOffer_book {args : MakeRedemptionOfferArgs}
    (h : makeRedemptionOffer w args = .ok w') : Book.Step w.book w'.book := by
  rcases makeRedemptionOffer_inv h with ⟨haccepted, rfl⟩
  rw [World.book_setRedemptionOffer]
  apply Book.Step.make
  simp [World.book, haccepted.free]

theorem createRedemptionRequest_book {args : CreateRedemptionRequestArgs}
    (h : createRedemptionRequest w args = .ok w') : Book.Step w.book w'.book := by
  rcases createRedemptionRequest_inv h with ⟨_, redemptionOffer, l, haccepted, _, rfl⟩
  rw [World.book_emit, World.book_setRedemptionOffer]
  exact .create (World.book_counters haccepted.load) haccepted.pos

theorem cancelRedemptionRequest_book {args : CancelRedemptionRequestArgs}
    (h : cancelRedemptionRequest w args = .ok w') : Book.Step w.book w'.book := by
  rcases cancelRedemptionRequest_inv h with ⟨redemptionOffer, request, l, haccepted, _, rfl⟩
  have hkey := haccepted.load
  rw [World.book_emit, World.book_setRedemptionOffer]
  rw [← haccepted.offer] at hkey ⊢
  exact .cancel haccepted.lookup (World.book_counters hkey)

theorem fulfillRedemptionRequest_book {args : FulfillRedemptionRequestArgs}
    (h : fulfillRedemptionRequest clock w args = .ok w') : Book.Step w.book w'.book := by
  rcases fulfillRedemptionRequest_inv h with
    ⟨params, result, accrual, w₁, w₂, _, hloaded, hfulfillment, rfl⟩
  have hmarket := hfulfillment.marketOnly
  have hrequest := hloaded.request
  have hkey := hloaded.redemptionOffer
  rw [← hmarket.redemptionRequests] at hrequest
  rw [← hmarket.redemptionOffers, ← hloaded.request_offer] at hkey
  rw [fulfillRedemptionRequest.book_storeRequest, World.book_setRedemptionOffer, ← hmarket.book,
    ← hloaded.request_offer]
  exact .fulfill hrequest (World.book_counters hkey) hfulfillment.pos hfulfillment.le

theorem execute_book {instruction : Instruction} (h : execute clock w instruction = .ok w')
    : Book.Step w.book w'.book := by
  cases execute_effect h with
  | market effect => apply effect.book_step
  | withdraw effect => apply effect.book_step
  | make h => apply makeRedemptionOffer_book h
  | update hkey =>
    -- a change of a setting is not a change of the book
    have hbook := Book.setCounters_eq_self (World.book_counters hkey)
    rw [World.book_setRedemptionOffer]
    exact hbook.symm ▸ .idle
  | create h => apply createRedemptionRequest_book h
  | cancel h => apply cancelRedemptionRequest_book h
  | fulfill h => apply fulfillRedemptionRequest_book h

end Book

structure Accounting (w : World) (key : Pubkey) (redemptionOffer : RedemptionOffer) : Prop where
  requested : redemptionOffer.requestedRedemptions
    = Table.total (RedemptionRequest.openAmount key) w.redemptionRequests
  executed : redemptionOffer.executedRedemptions = executedFor key w.events
  open_lt : ∀ (k : Pubkey) (request : RedemptionRequest),
    w.redemptionRequests.lookup k = some request → request.offer = key →
      request.fulfilledAmount < request.amount
  ids_nodup : (createdIds key w.events).Nodup
  ids_lt : ∀ id ∈ createdIds key w.events, id < redemptionOffer.requestCounter
  fulfilled_le : ∀ (request redeemer : Pubkey) (amount id : Nat),
    .requestCreated request key redeemer amount id ∈ w.events →
      fulfilledFor request w.events ≤ amount

structure NoUnderflow (w : World) : Prop where
  cancel : ∀ (args : CancelRedemptionRequestArgs),
    cancelRedemptionRequest w args ≠ .error (.onre .arithmeticUnderflow)
  fulfill : ∀ (args : FulfillRedemptionRequestArgs) (params : FulfillRedemptionRequestParams),
    fulfillRedemptionRequest.loadParams w args = .ok params →
      ∃ (remaining : Nat), params.request.remaining = .ok remaining ∧
        ∀ (amount : Nat), amount ≤ remaining →
          params.redemptionOffer.recordFulfillment amount ≠ .error (.onre .arithmeticUnderflow)

section Consistent

variable (h : w.book.Consistent)

include h

theorem Book.Consistent.accounting {redemptionOffer : RedemptionOffer}
    (hkey : w.redemptionOffers key = some redemptionOffer) : Accounting w key redemptionOffer where
  requested := h.requested key _ (World.book_counters hkey)
  executed := h.executed key _ (World.book_counters hkey)
  open_lt := fun k request hrequest _ => h.open_lt k request hrequest
  ids_nodup := h.ids_nodup key
  ids_lt := by
    intro id hid
    rcases mem_createdIds hid with ⟨request, redeemer, amount, he⟩
    rcases h.events_known _ he with ⟨_, c, hc, hlt⟩
    rw [World.book_counters hkey, Option.some.injEq] at hc
    rw [← hc] at hlt
    exact hlt
  fulfilled_le := fun request redeemer amount id he => h.fulfilled_le request key redeemer amount id he

theorem Book.Consistent.remaining {redemptionOffer : RedemptionOffer} {request : RedemptionRequest}
    {k : Pubkey} (hrequest : w.redemptionRequests.lookup k = some request)
    (hkey : w.redemptionOffers request.offer = some redemptionOffer)
    : request.remaining = .ok (request.amount - request.fulfilledAmount) ∧
      request.amount - request.fulfilledAmount ≤ redemptionOffer.requestedRedemptions := by
  constructor
  . simp only [RedemptionRequest.remaining, okOr_eq_ok, checkedSub_eq_some, and_true]
    apply Nat.le_of_lt (h.open_lt k request hrequest)
  . have hle := Table.le_total_of_lookup (f := RedemptionRequest.openAmount request.offer) hrequest
    rw [(h.accounting hkey).requested]
    simpa [RedemptionRequest.openAmount] using hle

theorem Book.Consistent.noUnderflow : NoUnderflow w where
  cancel := by
    intro args he
    rcases cancelRedemptionRequest_failsOnlyWith _ he with
      hcheck | ⟨redemptionOffer, request, hkey, hrequest, hoffer, hfails⟩
    . cases hcheck
    . rw [← hoffer] at hkey
      rcases h.remaining hrequest hkey with ⟨hremaining, hle⟩
      rcases hfails with hfails | ⟨_, returnedAmount, _, hreturned, hfails | hfails⟩
      . rw [hremaining] at hfails
        cases hfails
      . rcases tokenCall_eq_error hfails with ⟨_, htoken, _⟩
        cases htoken
      . rw [hremaining, Except.ok.injEq] at hreturned
        subst hreturned
        rw [RedemptionOffer.recordCancellation_of_le hle] at hfails
        cases hfails
  fulfill := by
    intro args params hparams
    have hloaded := fulfillRedemptionRequest.loadParams_inv hparams
    have hkey := hloaded.redemptionOffer
    rw [← hloaded.request_offer] at hkey
    rcases h.remaining hloaded.request hkey with ⟨hremaining, hle⟩
    refine ⟨_, hremaining, ?_⟩
    intro amount hamount hfails
    cases RedemptionOffer.recordFulfillment_failsOnlyWith (Nat.le_trans hamount hle) _ hfails

end Consistent

/--
From a world without redemption offers on, whatever instructions are executed in whatever order, the
counters of every redemption offer add up, and no redemption instruction underflows.
-/
theorem run_accounting {w₀ : World} {calls : List Call}
    (hoffers : ∀ (key : Pubkey), w₀.redemptionOffers key = none)
    (hrequests : w₀.redemptionRequests = ∅) (hevents : w₀.events = [])
    (hrun : runCalls w₀ calls = .ok w)
    : (∀ (key : Pubkey) (redemptionOffer : RedemptionOffer),
        w.redemptionOffers key = some redemptionOffer → Accounting w key redemptionOffer) ∧
      NoUnderflow w := by
  have hinit : w₀.book.Consistent := by
    apply Book.consistent_of_empty
    . intro key
      simp [World.book, hoffers key]
    . exact hrequests
    . exact hevents
  have hbook : w.book.Consistent := by
    apply Run.run_inv (fun w => w.book.Consistent) (fun _ => True) _ (fun _ _ => trivial) hinit hrun
    intro w w' call _ h hstep
    exact h.step (execute_book hstep)
  exact ⟨fun _ _ hkey => hbook.accounting hkey, hbook.noUnderflow⟩

theorem run_accounting_partial_fulfillment
    : ∃ (w : World) (redemptionOffer : RedemptionOffer),
        runCalls Sample.world (Sample.launch ++ Sample.redemptions) = .ok w ∧
        w.redemptionOffers Sample.redemptionOffer = some redemptionOffer ∧
        redemptionOffer.requestedRedemptions = 30000000000 ∧
        redemptionOffer.executedRedemptions = 20000000000 ∧
        redemptionOffer.requestCounter = 2 ∧
        Accounting w Sample.redemptionOffer redemptionOffer ∧ NoUnderflow w := by
  have hview : (runCalls Sample.world (Sample.launch ++ Sample.redemptions)).toOption.bind
      (fun w => w.redemptionOffers Sample.redemptionOffer) = some {
        offer := Sample.offer
        tokenInMint := Sample.onyc
        tokenOutMint := Sample.usdc
        executedRedemptions := 20000000000
        requestedRedemptions := 30000000000
        feeBasisPoints := 100
        requestCounter := 2
        vaultTargetBps := 0
        disabled := false
        feeBasisPointsPropAmmSell := 0
      } := by decide +kernel
  rcases exists_ok_of_view hview with ⟨w, hrun, hoffer⟩
  rcases run_accounting (fun _ => rfl) rfl rfl hrun with ⟨haccounting, hunderflow⟩
  exact ⟨w, _, hrun, hoffer, rfl, rfl, rfl, haccounting _ _ hoffer, hunderflow⟩

end OnreApp
