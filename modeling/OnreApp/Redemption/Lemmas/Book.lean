import OnreApp.Redemption.Spec.Book

namespace OnreApp

namespace Book

variable {b b' : Book} {key : Pubkey} {request : RedemptionRequest} {c c' : Counters}

theorem counters_update {k : Pubkey} (h : Function.update b.counters key (some c') k = some c)
    : k = key ∧ c = c' ∨ k ≠ key ∧ b.counters k = some c := by
  by_cases heq : k = key
  . subst heq
    rw [Function.update_self, Option.some.injEq] at h
    exact .inl ⟨rfl, h.symm⟩
  . rw [Function.update_of_ne heq] at h
    exact .inr ⟨heq, h⟩

theorem setCounters_eq_self (h : b.counters key = some c) : b.setCounters key c = b := by
  unfold setCounters
  rw [← h, Function.update_eq_self]

section Known

theorem Known.update (hc : ∀ (c : Counters), b.counters key = some c → c.created ≤ c'.created)
    (hcounters : b'.counters = Function.update b.counters key (some c')) {k : Pubkey} {id : Nat}
    (h : b.Known k id) : b'.Known k id := by
  rcases h with ⟨c, hk, hlt⟩
  unfold Known
  rw [hcounters]
  by_cases heq : k = key
  . subst heq
    rw [Function.update_self]
    exact ⟨c', rfl, Nat.lt_of_lt_of_le hlt (hc c hk)⟩
  . rw [Function.update_of_ne heq]
    exact ⟨c, hk, hlt⟩

theorem KnownEvent.mono (hknown : ∀ {k : Pubkey} {id : Nat}, b.Known k id → b'.Known k id)
    {e : RedemptionEvent} (h : b.KnownEvent e) : b'.KnownEvent e := by
  cases e with
  | requestCreated => exact ⟨h.1, hknown h.2⟩
  | requestFulfilled =>
    rcases h with ⟨id, hrequest, h⟩
    exact ⟨id, hrequest, hknown h⟩
  | requestCancelled => trivial

theorem KnownEvent.ne_next (hc : b.counters key = some c) {e : RedemptionEvent}
    (h : b.KnownEvent e) :
    e.fulfilled (.redemptionRequest key c.created) = 0 ∧
    ∀ (offer redeemer : Pubkey) (amount id : Nat),
      e ≠ .requestCreated (.redemptionRequest key c.created) offer redeemer amount id := by
  -- the id that comes next has not been given out
  have hnot : ¬ b.Known key c.created := by
    rintro ⟨c', hc', hlt⟩
    rw [hc, Option.some.injEq] at hc'
    rw [hc'] at hlt
    apply Nat.lt_irrefl _ hlt
  constructor
  . cases e with
    | requestFulfilled =>
      rcases h with ⟨id, rfl, h⟩
      simp only [RedemptionEvent.fulfilled]
      rw [if_neg]
      rintro ⟨⟩
      exact hnot h
    | requestCreated => rfl
    | requestCancelled => rfl
  . rintro offer redeemer amount id rfl
    rcases h with ⟨hrequest, h⟩
    cases hrequest
    exact hnot h

end Known

section StoreRequest

theorem lookup_storeRequest {n : Nat} (k : Pubkey) :
    (b.storeRequest key request n).lookup k
      =
    if k = key then
      if n = request.amount then none else some { request with fulfilledAmount := n }
    else b.requests.lookup k := by
  unfold storeRequest
  split
  . rw [Table.lookup_erase_eq]
  . rw [Table.lookup_insert_eq]

theorem lookup_storeRequest_eq_some {request' : RedemptionRequest} {n : Nat} {k : Pubkey}
    (hle : n ≤ request.amount) (h : (b.storeRequest key request n).lookup k = some request')
    : k = key ∧ n < request.amount ∧ request' = { request with fulfilledAmount := n } ∨
      k ≠ key ∧ b.requests.lookup k = some request' := by
  rw [lookup_storeRequest] at h
  split at h
  . next heq =>
    rw [Option.ite_none_left_eq_some, Option.some.injEq] at h
    exact .inl ⟨heq, by omega, h.2.symm⟩
  . next hne => exact .inr ⟨hne, h⟩

theorem total_storeRequest (hrequest : b.requests.lookup key = some request)
    {f : RedemptionRequest → Nat} {n d : Nat}
    (hf : f { request with fulfilledAmount := n } + d = f request)
    (hclosed : n = request.amount → f { request with fulfilledAmount := n } = 0) :
    Table.total f (b.storeRequest key request n) + d = Table.total f b.requests := by
  rw [Table.total_eq_of_lookup hrequest]
  unfold storeRequest
  split
  . next heq =>
    have := hclosed heq
    omega
  . rw [Table.total_insert]
    omega

end StoreRequest

theorem consistent_of_empty (hcounters : ∀ (key : Pubkey), b.counters key = none)
    (hrequests : b.requests = ∅) (hevents : b.events = []) : b.Consistent := by
  rcases b with ⟨counters, requests, events⟩
  dsimp only at hcounters hrequests hevents
  subst hrequests hevents
  constructor <;> simp [hcounters, createdIds]

namespace Consistent

variable (h : b.Consistent)

include h

theorem make (hfree : b.counters key = none) : (b.setCounters key ⟨0, 0, 0⟩).Consistent := by
  have hmono : ∀ {k : Pubkey} {id : Nat}, b.Known k id →
      (b.setCounters key ⟨0, 0, 0⟩).Known k id :=
    Known.update (by simp [hfree]) rfl
  have hunknown : ∀ (id : Nat), ¬ b.Known key id := by
    rintro id ⟨c, hc, _⟩
    rw [hfree] at hc
    cases hc
  exact {
    requested := by
      intro k c hc
      rcases counters_update hc with ⟨rfl, rfl⟩ | ⟨_, hc⟩
      . rw [Table.total_eq_zero]
        intro k' request hrequest
        apply if_neg
        rintro rfl
        exact hunknown _ (h.open_known k' request hrequest).2
      . exact h.requested k c hc
    executed := by
      intro k c hc
      rcases counters_update hc with ⟨rfl, rfl⟩ | ⟨_, hc⟩
      . rw [executedFor_eq_zero]
        intro e he
        have hknown := h.events_known e he
        cases e with
        | requestFulfilled =>
          rcases hknown with ⟨id, _, hknown⟩
          apply if_neg
          rintro rfl
          exact hunknown id hknown
        | requestCreated => rfl
        | requestCancelled => rfl
      . exact h.executed k c hc
    events_known := fun e he => (h.events_known e he).mono hmono
    ids_nodup := h.ids_nodup
    fulfilled_le := h.fulfilled_le
    open_known := fun k request hrequest =>
      ⟨(h.open_known k request hrequest).1, hmono (h.open_known k request hrequest).2⟩
    open_lt := h.open_lt
    open_fulfilled := h.open_fulfilled
    open_amount := h.open_amount
  }

section Next

variable (hc : b.counters key = some c)

include hc

theorem next_free : b.requests.lookup (.redemptionRequest key c.created) = none := by
  rw [Option.eq_none_iff_forall_not_mem]
  intro request hrequest
  rcases h.open_known _ request hrequest with ⟨hkey, c', hc', hlt⟩
  rw [Pubkey.redemptionRequest.injEq] at hkey
  rw [← hkey.1, hc, Option.some.injEq] at hc'
  rw [← hkey.2, hc'] at hlt
  apply Nat.lt_irrefl _ hlt

theorem next_unfulfilled : fulfilledFor (.redemptionRequest key c.created) b.events = 0 := by
  apply fulfilledFor_eq_zero
  intro e he
  exact ((h.events_known e he).ne_next hc).1

theorem next_not_created {offer redeemer : Pubkey} {amount id : Nat}
    : .requestCreated (.redemptionRequest key c.created) offer redeemer amount id ∉ b.events := by
  intro he
  exact ((h.events_known _ he).ne_next hc).2 _ _ _ _ rfl

theorem next_ids_nodup (redeemer : Pubkey) (amount : Nat) (k : Pubkey)
    : (createdIds k (.requestCreated (.redemptionRequest key c.created) key redeemer amount c.created
        :: b.events)).Nodup := by
  unfold createdIds
  rw [List.filterMap_cons]
  simp only [RedemptionEvent.createdId]
  split
  . next hnone => apply h.ids_nodup k
  . next id hid =>
    rw [Option.ite_none_right_eq_some, Option.some.injEq] at hid
    rcases hid with ⟨rfl, rfl⟩
    rw [List.nodup_cons]
    refine ⟨?_, h.ids_nodup key⟩
    intro hmem
    rcases mem_createdIds hmem with ⟨request, redeemer', amount', he⟩
    rcases h.events_known _ he with ⟨rfl, _⟩
    exact h.next_not_created hc he

end Next

theorem create (hc : b.counters key = some c) {redeemer : Pubkey} {amount : Nat}
    (hpos : 0 < amount) :
    Consistent {
      counters := Function.update b.counters key
        (some ⟨c.requested + amount, c.executed, c.created + 1⟩)
      requests := b.requests.insert (.redemptionRequest key c.created)
        ⟨key, c.created, redeemer, amount, 0⟩
      events := .requestCreated (.redemptionRequest key c.created) key redeemer amount
        c.created :: b.events
    } := by
  generalize hb' : Book.mk _ _ _ = b'
  have hcounters : b'.counters = Function.update b.counters key
      (some ⟨c.requested + amount, c.executed, c.created + 1⟩) := by rw [← hb']
  have hmono : ∀ {k : Pubkey} {id : Nat}, b.Known k id → b'.Known k id := by
    intro k id hk
    apply Known.update _ hcounters hk
    intro c' hc'
    rw [hc, Option.some.injEq] at hc'
    rw [← hc']
    apply Nat.le_succ _
  have hnew : b'.Known key c.created := by
    unfold Known
    rw [hcounters, Function.update_self]
    exact ⟨_, rfl, Nat.lt_succ_self _⟩
  subst hb'
  exact {
    requested := by
      intro k c' hc'
      dsimp only
      rw [Table.total_insert_of_lookup_eq_none (h.next_free hc)]
      rcases counters_update hc' with ⟨rfl, rfl⟩ | ⟨hne, hc'⟩
      . rw [← h.requested k c hc]
        simp only [RedemptionRequest.openAmount, ↓reduceIte]
        omega
      . rw [← h.requested k c' hc']
        simp [RedemptionRequest.openAmount, hne.symm]
    executed := by
      intro k c' hc'
      rw [executedFor_cons]
      rcases counters_update hc' with ⟨rfl, rfl⟩ | ⟨_, hc'⟩
      . simp [RedemptionEvent.executed, h.executed k c hc]
      . simp [RedemptionEvent.executed, h.executed k c' hc']
    events_known := by
      intro e he
      rcases List.mem_cons.mp he with rfl | he
      . exact ⟨rfl, hnew⟩
      . exact (h.events_known e he).mono hmono
    ids_nodup := h.next_ids_nodup hc redeemer amount
    fulfilled_le := by
      intro request k redeemer' amount' id he
      rw [fulfilledFor_cons]
      simp only [RedemptionEvent.fulfilled, Nat.zero_add]
      rcases List.mem_cons.mp he with heq | he
      . cases heq
        rw [h.next_unfulfilled hc]
        apply Nat.zero_le _
      . apply h.fulfilled_le request k redeemer' amount' id he
    open_known := by
      intro k request hrequest
      rw [Table.lookup_insert_eq] at hrequest
      split at hrequest
      . next heq =>
        cases hrequest
        exact ⟨heq, hnew⟩
      . rcases h.open_known k request hrequest with ⟨hkey, hknown⟩
        exact ⟨hkey, hmono hknown⟩
    open_lt := by
      intro k request hrequest
      rw [Table.lookup_insert_eq] at hrequest
      split at hrequest
      . cases hrequest
        exact hpos
      . apply h.open_lt k request hrequest
    open_fulfilled := by
      intro k request hrequest
      rw [fulfilledFor_cons]
      simp only [RedemptionEvent.fulfilled, Nat.zero_add]
      rw [Table.lookup_insert_eq] at hrequest
      split at hrequest
      . next heq =>
        cases hrequest
        rw [heq, h.next_unfulfilled hc]
      . apply h.open_fulfilled k request hrequest
    open_amount := by
      intro k request hrequest offer redeemer' amount' id he
      rw [Table.lookup_insert_eq] at hrequest
      split at hrequest
      . next heq =>
        subst heq
        cases hrequest
        rcases List.mem_cons.mp he with heq | he
        . cases heq
          rfl
        . exact absurd he (h.next_not_created hc)
      . next hne =>
        rcases List.mem_cons.mp he with heq | he
        . cases heq
          exact absurd rfl hne
        . apply h.open_amount k request hrequest offer redeemer' amount' id he
  }

theorem fulfill (hrequest : b.requests.lookup key = some request)
    (hc : b.counters request.offer = some c) {redeemer : Pubkey}
    {net fee out price amount : Nat} {closed : Bool}
    (hle : request.fulfilledAmount + amount ≤ request.amount) :
    Consistent {
      counters := Function.update b.counters request.offer
        (some ⟨c.requested - amount, c.executed + amount, c.created⟩)
      requests := b.storeRequest key request (request.fulfilledAmount + amount)
      events := .requestFulfilled key request.offer redeemer net fee out price amount
        (request.fulfilledAmount + amount) closed :: b.events
    } := by
  generalize hb' : Book.mk _ _ _ = b'
  have hmono : ∀ {k : Pubkey} {id : Nat}, b.Known k id → b'.Known k id := by
    intro k id hk
    rw [← hb']
    exact hk.update (by simp [hc]) rfl
  have hcases : ∀ (k : Pubkey) (request' : RedemptionRequest), b'.requests.lookup k = some request' →
      k = key ∧ request.fulfilledAmount + amount < request.amount ∧
        request' = { request with fulfilledAmount := request.fulfilledAmount + amount } ∨
      k ≠ key ∧ b.requests.lookup k = some request' := by
    intro k request' hrequest'
    rw [← hb'] at hrequest'
    exact lookup_storeRequest_eq_some hle hrequest'
  have hevent : ∀ (k offer redeemer : Pubkey) (amount id : Nat),
      .requestCreated k offer redeemer amount id ∈ b'.events →
      .requestCreated k offer redeemer amount id ∈ b.events := by
    intro k offer redeemer amount id he
    rw [← hb'] at he
    simpa using he
  have hfulfilled : ∀ (k : Pubkey), fulfilledFor k b'.events =
      (if key = k then amount else 0) + fulfilledFor k b.events := by
    intro k
    rw [← hb', fulfilledFor_cons]
    rfl
  exact {
    requested := by
      intro k c' hc'
      rw [← hb'] at hc' ⊢
      dsimp only at hc' ⊢
      rcases counters_update hc' with ⟨rfl, rfl⟩ | ⟨hne, hc'⟩
      . have htotal := h.requested request.offer c hc
        rw [← total_storeRequest hrequest (RedemptionRequest.openAmount_fulfill hle)
          RedemptionRequest.openAmount_closed] at htotal
        dsimp only
        omega
      . have htotal := h.requested k c' hc'
        rw [← total_storeRequest hrequest (RedemptionRequest.openAmount_of_ne hne)
          RedemptionRequest.openAmount_closed] at htotal
        exact htotal
    executed := by
      intro k c' hc'
      rw [← hb'] at hc' ⊢
      dsimp only at hc' ⊢
      rw [executedFor_cons]
      rcases counters_update hc' with ⟨rfl, rfl⟩ | ⟨hne, hc'⟩
      . simp [RedemptionEvent.executed, h.executed request.offer c hc, Nat.add_comm]
      . simp [RedemptionEvent.executed, h.executed k c' hc', hne.symm]
    events_known := by
      intro e he
      rw [← hb'] at he
      rcases List.mem_cons.mp he with rfl | he
      . rcases h.open_known key request hrequest with ⟨hkey, hknown⟩
        exact ⟨request.requestId, hkey, hmono hknown⟩
      . exact (h.events_known e he).mono hmono
    ids_nodup := by
      intro k
      rw [← hb']
      apply h.ids_nodup k
    fulfilled_le := by
      intro k offer redeemer' amount' id he
      have hold := h.fulfilled_le k offer redeemer' amount' id (hevent _ _ _ _ _ he)
      rw [hfulfilled]
      split
      . next heq =>
        subst heq
        rw [h.open_fulfilled key request hrequest,
          h.open_amount key request hrequest _ _ _ _ (hevent _ _ _ _ _ he)]
        omega
      . omega
    open_known := by
      intro k request' hrequest'
      rcases hcases k request' hrequest' with ⟨rfl, _, rfl⟩ | ⟨_, hold⟩
      . exact ⟨(h.open_known k request hrequest).1, hmono (h.open_known k request hrequest).2⟩
      . exact ⟨(h.open_known k request' hold).1, hmono (h.open_known k request' hold).2⟩
    open_lt := by
      intro k request' hrequest'
      rcases hcases k request' hrequest' with ⟨_, hlt, rfl⟩ | ⟨_, hold⟩
      . exact hlt
      . apply h.open_lt k request' hold
    open_fulfilled := by
      intro k request' hrequest'
      rw [hfulfilled]
      rcases hcases k request' hrequest' with ⟨rfl, _, rfl⟩ | ⟨hne, hold⟩
      . rw [if_pos rfl, h.open_fulfilled k request hrequest]
        dsimp only
        omega
      . rw [if_neg hne.symm, h.open_fulfilled k request' hold, Nat.zero_add]
    open_amount := by
      intro k request' hrequest' offer redeemer' amount' id he
      rcases hcases k request' hrequest' with ⟨rfl, _, rfl⟩ | ⟨_, hold⟩
      . apply h.open_amount k request hrequest _ _ _ _ (hevent _ _ _ _ _ he)
      . apply h.open_amount k request' hold _ _ _ _ (hevent _ _ _ _ _ he)
  }

theorem cancel (hrequest : b.requests.lookup key = some request)
    (hc : b.counters request.offer = some c) {redeemer cancelledBy : Pubkey} :
    Consistent {
      counters := Function.update b.counters request.offer
        (some ⟨c.requested - (request.amount - request.fulfilledAmount), c.executed, c.created⟩)
      requests := b.requests.erase key
      events := .requestCancelled key request.offer redeemer request.amount
        (request.amount - request.fulfilledAmount) cancelledBy :: b.events
    } := by
  generalize hb' : Book.mk _ _ _ = b'
  have hmono : ∀ {k : Pubkey} {id : Nat}, b.Known k id → b'.Known k id := by
    intro k id hk
    rw [← hb']
    exact hk.update (by simp [hc]) rfl
  have hopen : ∀ (k : Pubkey) (request' : RedemptionRequest),
      b'.requests.lookup k = some request' → b.requests.lookup k = some request' := by
    intro k request' hrequest'
    rw [← hb', Table.lookup_erase_eq] at hrequest'
    split at hrequest'
    . cases hrequest'
    . exact hrequest'
  have hevent : ∀ (k offer redeemer : Pubkey) (amount id : Nat),
      .requestCreated k offer redeemer amount id ∈ b'.events →
      .requestCreated k offer redeemer amount id ∈ b.events := by
    intro k offer redeemer amount id he
    rw [← hb'] at he
    simpa using he
  have hfulfilled : ∀ (k : Pubkey), fulfilledFor k b'.events = fulfilledFor k b.events := by
    intro k
    rw [← hb', fulfilledFor_cons]
    apply Nat.zero_add _
  exact {
    requested := by
      intro k c' hc'
      rw [← hb'] at hc' ⊢
      dsimp only at hc' ⊢
      rcases counters_update hc' with ⟨rfl, rfl⟩ | ⟨hne, hc'⟩
      . have htotal := h.requested request.offer c hc
        rw [Table.total_eq_of_lookup hrequest, RedemptionRequest.openAmount, if_pos rfl] at htotal
        dsimp only
        omega
      . have htotal := h.requested k c' hc'
        rw [Table.total_eq_of_lookup hrequest, RedemptionRequest.openAmount, if_neg hne.symm,
          Nat.zero_add] at htotal
        exact htotal
    executed := by
      intro k c' hc'
      rw [← hb'] at hc' ⊢
      dsimp only at hc' ⊢
      rw [executedFor_cons]
      rcases counters_update hc' with ⟨rfl, rfl⟩ | ⟨_, hc'⟩
      . simp [RedemptionEvent.executed, h.executed request.offer c hc]
      . simp [RedemptionEvent.executed, h.executed k c' hc']
    events_known := by
      intro e he
      rw [← hb'] at he
      rcases List.mem_cons.mp he with rfl | he
      . trivial
      . exact (h.events_known e he).mono hmono
    ids_nodup := by
      intro k
      rw [← hb']
      apply h.ids_nodup k
    fulfilled_le := by
      intro k offer redeemer' amount' id he
      rw [hfulfilled]
      apply h.fulfilled_le k offer redeemer' amount' id (hevent _ _ _ _ _ he)
    open_known := by
      intro k request' hrequest'
      rcases h.open_known k request' (hopen k request' hrequest') with ⟨hkey, hknown⟩
      exact ⟨hkey, hmono hknown⟩
    open_lt := fun k request' hrequest' => h.open_lt k request' (hopen k request' hrequest')
    open_fulfilled := by
      intro k request' hrequest'
      rw [hfulfilled]
      apply h.open_fulfilled k request' (hopen k request' hrequest')
    open_amount := by
      intro k request' hrequest' offer redeemer' amount' id he
      apply h.open_amount k request' (hopen k request' hrequest') _ _ _ _ (hevent _ _ _ _ _ he)
  }

theorem step (hstep : Step b b') : b'.Consistent := by
  cases hstep with
  | idle => exact h
  | make hfree => exact h.make hfree
  | create hc hpos => exact h.create hc hpos
  | fulfill hrequest hc _ hle => exact h.fulfill hrequest hc hle
  | cancel hrequest hc => exact h.cancel hrequest hc

end Consistent

end Book

end OnreApp
