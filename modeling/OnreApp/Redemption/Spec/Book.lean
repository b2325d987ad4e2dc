import OnreApp.Lib.Table
import OnreApp.Redemption.Impl.RedemptionOfferState

/-!
This module contains the purpose of the redemption side of the program, without tokens, prices or
accounts: a book that counts, for every redemption offer, what has been requested and what has been
executed. `Step` is everything that can happen to the book.
-/

namespace OnreApp

namespace RedemptionRequest

def openAmount (key : Pubkey) (request : RedemptionRequest) : Nat :=
  if request.offer = key then request.amount - request.fulfilledAmount else 0

variable {key : Pubkey} {request : RedemptionRequest} {n : Nat}

theorem openAmount_fulfill (hle : request.fulfilledAmount + n ≤ request.amount) :
    openAmount request.offer
        { request with fulfilledAmount := request.fulfilledAmount + n } + n
      =
    openAmount request.offer request := by
  simp only [openAmount, ↓reduceIte]
  omega

theorem openAmount_of_ne (hne : key ≠ request.offer) :
    openAmount key { request with fulfilledAmount := n } + 0 = openAmount key request := by
  simp [openAmount, hne.symm]

theorem openAmount_closed (h : n = request.amount) :
    openAmount key { request with fulfilledAmount := n } = 0 := by
  simp [openAmount, h]

end RedemptionRequest

namespace RedemptionEvent

def executed (key : Pubkey) : RedemptionEvent → Nat
  | .requestFulfilled _ redemptionOffer _ _ _ _ _ fulfilledAmount _ _ =>
    if redemptionOffer = key then fulfilledAmount else 0
  | _ => 0

def fulfilled (key : Pubkey) : RedemptionEvent → Nat
  | .requestFulfilled request _ _ _ _ _ _ fulfilledAmount _ _ =>
    if request = key then fulfilledAmount else 0
  | _ => 0

def createdId (key : Pubkey) : RedemptionEvent → Option Nat
  | .requestCreated _ redemptionOffer _ _ id => if redemptionOffer = key then some id else none
  | _ => none

end RedemptionEvent

def executedFor (key : Pubkey) (events : List RedemptionEvent) : Nat :=
  (events.map (RedemptionEvent.executed key)).sum

def fulfilledFor (key : Pubkey) (events : List RedemptionEvent) : Nat :=
  (events.map (RedemptionEvent.fulfilled key)).sum

def createdIds (key : Pubkey) (events : List RedemptionEvent) : List Nat :=
  events.filterMap (RedemptionEvent.createdId key)

section Events

variable {key : Pubkey} {event : RedemptionEvent} {events : List RedemptionEvent}

@[simp]
theorem executedFor_cons :
    executedFor key (event :: events) = event.executed key + executedFor key events := by
  simp [executedFor]

@[simp]
theorem fulfilledFor_cons :
    fulfilledFor key (event :: events) = event.fulfilled key + fulfilledFor key events := by
  simp [fulfilledFor]

theorem executedFor_eq_zero (h : ∀ e ∈ events, e.executed key = 0) : executedFor key events = 0 := by
  unfold executedFor
  rw [List.sum_eq_zero_iff_forall_eq_nat]
  simpa using h

theorem fulfilledFor_eq_zero (h : ∀ e ∈ events, e.fulfilled key = 0)
    : fulfilledFor key events = 0 := by
  unfold fulfilledFor
  rw [List.sum_eq_zero_iff_forall_eq_nat]
  simpa using h

theorem mem_createdIds {id : Nat} (h : id ∈ createdIds key events)
    : ∃ (request redeemer : Pubkey) (amount : Nat),
        .requestCreated request key redeemer amount id ∈ events := by
  rcases List.mem_filterMap.mp h with ⟨e, hmem, he⟩
  cases e with
  | requestCreated request redemptionOffer redeemer amount id' =>
    simp only [RedemptionEvent.createdId, Option.ite_none_right_eq_some, Option.some.injEq] at he
    rcases he with ⟨rfl, rfl⟩
    exact ⟨request, redeemer, amount, hmem⟩
  | requestFulfilled => cases he
  | requestCancelled => cases he

end Events

structure Counters where
  requested : Nat
  executed : Nat
  created : Nat

structure Book where
  counters : Pubkey → Option Counters
  requests : AList fun _ : Pubkey => RedemptionRequest
  -- newest first
  events : List RedemptionEvent

namespace Book

def setCounters (b : Book) (key : Pubkey) (c : Counters) : Book :=
  { b with counters := Function.update b.counters key (some c) }

def storeRequest (b : Book) (key : Pubkey) (request : RedemptionRequest) (newFulfilledAmount : Nat)
    : AList fun _ : Pubkey => RedemptionRequest :=
  if newFulfilledAmount = request.amount then
    b.requests.erase key
  else
    b.requests.insert key { request with fulfilledAmount := newFulfilledAmount }

inductive Step (b : Book) : Book → Prop where
  | idle : Step b b
  | make {key : Pubkey} (hfree : b.counters key = none) : Step b (b.setCounters key ⟨0, 0, 0⟩)
  | create {key redeemer : Pubkey} {amount : Nat} {c : Counters} (hc : b.counters key = some c)
      (hpos : 0 < amount)
      : Step b {
          counters := Function.update b.counters key
            (some ⟨c.requested + amount, c.executed, c.created + 1⟩)
          requests := b.requests.insert (.redemptionRequest key c.created)
            ⟨key, c.created, redeemer, amount, 0⟩
          events := .requestCreated (.redemptionRequest key c.created) key redeemer amount
            c.created :: b.events
        }
  | fulfill {key redeemer : Pubkey} {request : RedemptionRequest} {c : Counters}
      {net fee out price amount : Nat} {closed : Bool}
      (hrequest : b.requests.lookup key = some request) (hc : b.counters request.offer = some c)
      (hpos : 0 < amount) (hle : request.fulfilledAmount + amount ≤ request.amount)
      : Step b {
          counters := Function.update b.counters request.offer
            (some ⟨c.requested - amount, c.executed + amount, c.created⟩)
          requests := b.storeRequest key request (request.fulfilledAmount + amount)
          events := .requestFulfilled key request.offer redeemer net fee out price amount
            (request.fulfilledAmount + amount) closed :: b.events
        }
  | cancel {key redeemer cancelledBy : Pubkey} {request : RedemptionRequest} {c : Counters}
      (hrequest : b.requests.lookup key = some request) (hc : b.counters request.offer = some c)
      : Step b {
          counters := Function.update b.counters request.offer
            (some ⟨c.requested - (request.amount - request.fulfilledAmount), c.executed, c.created⟩)
          requests := b.requests.erase key
          events := .requestCancelled key request.offer redeemer request.amount
            (request.amount - request.fulfilledAmount) cancelledBy :: b.events
        }

def Known (b : Book) (key : Pubkey) (id : Nat) : Prop :=
  ∃ (c : Counters), b.counters key = some c ∧ id < c.created

def KnownEvent (b : Book) : RedemptionEvent → Prop
  | .requestCreated request key _ _ id => request = .redemptionRequest key id ∧ b.Known key id
  | .requestFulfilled request key _ _ _ _ _ _ _ _ =>
    ∃ (id : Nat), request = .redemptionRequest key id ∧ b.Known key id
  | .requestCancelled _ _ _ _ _ _ => True

structure Consistent (b : Book) : Prop where
  requested : ∀ (key : Pubkey) (c : Counters), b.counters key = some c →
    c.requested = Table.total (RedemptionRequest.openAmount key) b.requests
  executed : ∀ (key : Pubkey) (c : Counters), b.counters key = some c →
    c.executed = executedFor key b.events
  events_known : ∀ e ∈ b.events, b.KnownEvent e
  ids_nodup : ∀ (key : Pubkey), (createdIds key b.events).Nodup
  fulfilled_le : ∀ (request key redeemer : Pubkey) (amount id : Nat),
    .requestCreated request key redeemer amount id ∈ b.events →
      fulfilledFor request b.events ≤ amount
  open_known : ∀ (key : Pubkey) (request : RedemptionRequest),
    b.requests.lookup key = some request →
      key = .redemptionRequest request.offer request.requestId ∧
      b.Known request.offer request.requestId
  open_lt : ∀ (key : Pubkey) (request : RedemptionRequest),
    b.requests.lookup key = some request → request.fulfilledAmount < request.amount
  open_fulfilled : ∀ (key : Pubkey) (request : RedemptionRequest),
    b.requests.lookup key = some request → fulfilledFor key b.events = request.fulfilledAmount
  open_amount : ∀ (key : Pubkey) (request : RedemptionRequest),
    b.requests.lookup key = some request →
      ∀ (offer redeemer : Pubkey) (amount id : Nat),
        .requestCreated key offer redeemer amount id ∈ b.events → amount = request.amount

end Book

end OnreApp
