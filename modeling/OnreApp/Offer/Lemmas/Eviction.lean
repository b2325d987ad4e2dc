import OnreApp.Lib.Run
import OnreApp.Offer.Lemmas.Vectors

/-!
`Tracked` runs an offer beside a history that forgets nothing but what is deleted. The two price
alike from the last call on: whatever has been evicted is superseded by two vectors that are still
stored.
-/

namespace OnreApp

open Checked MaxByKey Run

structure Tracked where
  offer : Offer
  history : List OfferVector
  clock : Nat
  deriving DecidableEq

namespace Tracked

def recordCall (history : List OfferVector) (now : Nat) : VectorCall → List OfferVector
  | .add args => history ++ [args.vector now]
  | .delete vectorStartTime => history.filter fun vector => vector.startTime ≠ vectorStartTime
  | .deleteAll => []

def step (s : Tracked) (input : Nat × VectorCall) : Result Tracked := do
  -- the clock shows positive times and never goes back
  constraint (0 < input.1 ∧ s.clock ≤ input.1)
  let offer ← s.offer.call input.1 input.2
  return { offer, history := recordCall s.history input.1 input.2, clock := input.1 }

structure Inv (s : Tracked) : Prop where
  distinct : s.offer.DistinctStartTimes
  recorded : ∀ v, s.offer.Stored v → v ∈ s.history
  nonzero : ∀ v ∈ s.history, v.startTime ≠ 0
  unique : ∀ v ∈ s.history, ∀ w ∈ s.history, v.startTime = w.startTime → v = w
  evicted : ∀ v ∈ s.history, s.offer.Stored v ∨ s.offer.Superseded s.clock v

variable {s s' : Tracked} {offer' : Offer} {now : Nat}

theorem Inv.lt_of_mem (hinv : s.Inv) {newStartTime : Nat}
    (hlatest : ∀ v, s.offer.Stored v → v.startTime < newStartTime) :
    ∀ v ∈ s.history, v.startTime < newStartTime := by
  intro v hv
  cases hinv.evicted v hv with
  | inl hstored => exact hlatest v hstored
  | inr hsuperseded =>
    rcases hsuperseded with ⟨prev, active, hprev, _, hlt, _⟩
    have := hlatest prev hprev
    omega

theorem Inv.add {newVector : OfferVector} (hinv : s.Inv) (hclock : s.clock ≤ now)
    (h : s.offer.VectorAdded newVector now offer') :
    Inv { offer := offer', history := s.history ++ [newVector], clock := now } := by
  have hlatest := hinv.lt_of_mem h.latest
  constructor
  case distinct => exact h.distinct hinv.distinct
  case recorded =>
    intro v hv
    rw [List.mem_append, List.mem_singleton]
    apply (h.stored_of v hv).symm.imp _ id
    apply hinv.recorded
  case nonzero =>
    intro v hv
    rw [List.mem_append, List.mem_singleton] at hv
    cases hv with
    | inl hold => exact hinv.nonzero v hold
    | inr hnew =>
      rw [hnew]
      exact h.stored.1
  case unique =>
    intro v hv w hw heq
    rw [List.mem_append, List.mem_singleton] at hv hw
    cases hv with
    | inl hv =>
      cases hw with
      | inl hw => exact hinv.unique v hv w hw heq
      | inr hw =>
        have := hlatest v hv
        rw [← hw] at this
        omega
    | inr hv =>
      cases hw with
      | inl hw =>
        have := hlatest w hw
        rw [← hv] at this
        omega
      | inr hw => rw [hv, hw]
  case evicted =>
    intro v hv
    rw [List.mem_append, List.mem_singleton] at hv
    cases hv with
    | inr hnew =>
      rw [hnew]
      exact .inl h.stored
    | inl hold =>
      cases hinv.evicted v hold with
      | inl hstored => exact h.kept v hstored
      | inr hsuperseded =>
        -- the two vectors above `v` are kept, or superseded in turn by two that are
        rcases hsuperseded with ⟨prev, active, hprev, hactive, hltPrev, hltActive, hstarted⟩
        right
        cases h.kept prev hprev with
        | inr hagain =>
          rcases hagain with ⟨prev', active', hprev', hactive', hlt, hrest⟩
          exact ⟨prev', active', hprev', hactive', by omega, hrest⟩
        | inl hprev' =>
          cases h.kept active hactive with
          | inr hagain =>
            rcases hagain with ⟨prev', active', hprev', hactive', hlt, hrest⟩
            exact ⟨prev', active', hprev', hactive', by omega, hrest⟩
          | inl hactive' =>
            exact ⟨prev, active, hprev', hactive', hltPrev, hltActive, hstarted.trans hclock⟩

theorem Inv.delete {vectorStartTime : Nat} (hinv : s.Inv) (hclock : s.clock ≤ now)
    (h : deleteOfferVector s.offer vectorStartTime now = .ok offer') :
    Inv {
      offer := offer'
      history := s.history.filter fun vector => vector.startTime ≠ vectorStartTime
      clock := now
    } := by
  rcases deleteOfferVector_inv hinv.distinct h with ⟨hfuture, hdistinct, hstored⟩
  have hmem : ∀ v,
      v ∈ s.history.filter (fun vector => vector.startTime ≠ vectorStartTime) ↔
        v ∈ s.history ∧ v.startTime ≠ vectorStartTime := by
    intro v
    simp
  constructor
  case distinct => exact hdistinct
  case recorded =>
    intro v hv
    rw [hmem]
    apply ((hstored v).mp hv).imp_left
    apply hinv.recorded
  case nonzero =>
    intro v hv
    exact hinv.nonzero v ((hmem v).mp hv).1
  case unique =>
    intro v hv w hw
    exact hinv.unique v ((hmem v).mp hv).1 w ((hmem w).mp hw).1
  case evicted =>
    intro v hv
    rw [hmem] at hv
    cases hinv.evicted v hv.1 with
    | inl hold => exact .inl ((hstored v).mpr ⟨hold, hv.2⟩)
    | inr hsuperseded =>
      -- only a vector that has not started can be deleted
      rcases hsuperseded with ⟨prev, active, hprev, hactive, hltPrev, hltActive, hstarted⟩
      refine .inr ⟨prev, active, ?_, ?_, hltPrev, hltActive, hstarted.trans hclock⟩
      . exact (hstored prev).mpr ⟨hprev, by omega⟩
      . exact (hstored active).mpr ⟨hactive, by omega⟩

theorem Inv.deleteAll (s : Tracked) (now : Nat) :
    Inv { offer := deleteAllOfferVectors s.offer, history := [], clock := now } := by
  constructor
  case distinct => apply deleteAllOfferVectors_distinct s.offer
  case recorded =>
    intro v hv
    exact absurd hv (deleteAllOfferVectors_stored s.offer v)
  all_goals
    intro v hv
    cases hv

theorem step_inv {input : Nat × VectorCall} (hinv : s.Inv) (h : s.step input = .ok s') :
    s'.Inv := by
  rcases input with ⟨now, call⟩
  unfold step at h
  simp only [bind_eq_ok, require_eq_ok, pure_eq_ok] at h
  rcases h with ⟨_, ⟨_, hclock⟩, offer', hcall, rfl⟩
  cases call with
  | add args => exact hinv.add hclock (addOfferVector_inv hcall)
  | delete vectorStartTime => exact hinv.delete hclock hcall
  | deleteAll =>
    rw [← pure_eq_ok.mp hcall]
    exact .deleteAll s now

theorem run_inv {fresh : Offer} {inputs : List (Nat × VectorCall)}
    (hfresh : ∀ v, ¬fresh.Stored v)
    (h : run step { offer := fresh, history := [], clock := 0 } inputs = .ok s) : s.Inv := by
  apply Run.run_inv Inv (fun _ => True) _ _ _ h
  . intro s s' input _ hinv hstep
    apply step_inv hinv hstep
  . intros
    trivial
  . constructor
    case distinct =>
      intro i _ hne
      exact absurd ⟨hne, i, rfl⟩ (hfresh _)
    case recorded =>
      intro v hv
      exact absurd hv (hfresh v)
    all_goals
      intro v hv
      cases hv

theorem Inv.latest_eq (hinv : s.Inv) {p : OfferVector → Prop} [DecidablePred p]
    (hp : ∀ v prev active, p v → s.offer.Stored prev → s.offer.Stored active →
      v.startTime < prev.startTime → prev.startTime < active.startTime →
      active.startTime ≤ s.clock → p prev ∨ p active) :
    maxByKey OfferVector.startTime
        (s.offer.vectors.toList.filter fun v => v.startTime ≠ 0 ∧ p v)
      =
    maxByKey OfferVector.startTime (s.history.filter fun v => v.startTime ≠ 0 ∧ p v) := by
  apply maxByKey_eq_of_dominated
  . intro v hv w hw
    exact hinv.unique v (List.mem_filter.mp hv).1 w (List.mem_filter.mp hw).1
  . intro v hv
    rw [Offer.mem_filter_nonzero] at hv
    rw [List.mem_filter]
    exact ⟨hinv.recorded v hv.1, by simpa using ⟨hv.1.1, hv.2⟩⟩
  . intro v hv hnot
    rw [Offer.mem_filter_nonzero] at hnot
    simp only [List.mem_filter, decide_eq_true_eq] at hv
    cases hinv.evicted v hv.1 with
    | inl hstored => exact absurd ⟨hstored, hv.2.2⟩ hnot
    | inr hsuperseded =>
      rcases hsuperseded with ⟨prev, active, hprev, hactive, hltPrev, hltActive, hstarted⟩
      cases hp v prev active hv.2.2 hprev hactive hltPrev hltActive hstarted with
      | inl hpprev => exact ⟨prev, Offer.mem_filter_nonzero.mpr ⟨hprev, hpprev⟩, hltPrev⟩
      | inr hpactive =>
        exact ⟨active, Offer.mem_filter_nonzero.mpr ⟨hactive, hpactive⟩, by omega⟩

theorem Inv.findActive_eq (hinv : s.Inv) {time : Nat} (htime : s.clock ≤ time) :
    OfferVector.findActive s.offer.vectors.toList time
      =
    OfferVector.findActive s.history time := by
  apply hinv.latest_eq
  intros
  omega

theorem Inv.findPrevious_eq (hinv : s.Inv) {time : Nat} (htime : s.clock ≤ time)
    {active : OfferVector}
    (hactive : OfferVector.findActive s.offer.vectors.toList time = some active) :
    OfferVector.findPrevious s.offer.vectors.toList active.startTime
      =
    OfferVector.findPrevious s.history active.startTime := by
  apply hinv.latest_eq
  intro v prev next _ _ hnext _ _ hstarted
  have hle := (Offer.findActive_inv hactive).2.2 next hnext (by omega)
  omega

end Tracked

theorem deleteOfferVector_findActive {offer offer' : Offer} {vectorStartTime now : Nat}
    (hdistinct : offer.DistinctStartTimes)
    (h : deleteOfferVector offer vectorStartTime now = .ok offer') {time : Nat}
    (htime : time < vectorStartTime) :
    OfferVector.findActive offer'.vectors.toList time
      =
    OfferVector.findActive offer.vectors.toList time := by
  rcases deleteOfferVector_inv hdistinct h with ⟨_, _, hstored⟩
  have hmem : ∀ v,
      v ∈ offer'.vectors.toList.filter
          (fun v => v.startTime ≠ 0 ∧ v.startTime ≤ time) ↔
        v ∈ offer.vectors.toList.filter
          (fun v => v.startTime ≠ 0 ∧ v.startTime ≤ time) := by
    intro v
    rw [Offer.mem_filter_nonzero, Offer.mem_filter_nonzero, hstored]
    constructor
    . rintro ⟨⟨hv, _⟩, hle⟩
      exact ⟨hv, hle⟩
    . rintro ⟨hv, hle⟩
      exact ⟨⟨hv, by omega⟩, hle⟩
  unfold OfferVector.findActive
  apply maxByKey_eq_of_dominated
  . intro v hv w hw
    exact hdistinct.eq (Offer.mem_filter_nonzero.mp hv).1 (Offer.mem_filter_nonzero.mp hw).1
  . intro v hv
    exact (hmem v).mp hv
  . intro v hv hnot
    exact absurd ((hmem v).mpr hv) hnot

/--
Over every run of calls on a fresh offer: the stored vectors and the full history agree on the
active vector and on the one before it at every time from the last call on.
-/
theorem Tracked.pricing_unchanged_by_eviction {tokenInMint tokenOutMint : Pubkey}
    {feeBasisPoints : Nat} {needsApproval allowPermissionless : Bool} {fresh : Offer}
    {inputs : List (Nat × VectorCall)} {s : Tracked}
    (hfresh : makeOffer tokenInMint tokenOutMint feeBasisPoints needsApproval
      allowPermissionless = .ok fresh)
    (hrun : run step { offer := fresh, history := [], clock := 0 } inputs = .ok s) :
    (∀ (time : Nat), s.clock ≤ time →
      findActiveVectorAt s.offer time
        = okOr (OfferVector.findActive s.history time) .noActiveVector ∧
      ∀ (active : OfferVector), findActiveVectorAt s.offer time = .ok active →
        findPreviousVector s.offer active.startTime
          = OfferVector.findPrevious s.history active.startTime) ∧
    s.offer.DistinctStartTimes ∧
    (∀ (vectorStartTime now time : Nat) (offer' : Offer),
      deleteOfferVector s.offer vectorStartTime now = .ok offer' → time < vectorStartTime →
      findActiveVectorAt offer' time = findActiveVectorAt s.offer time) := by
  have hinv := run_inv (makeOffer_stored hfresh) hrun
  refine ⟨?_, hinv.distinct, ?_⟩
  . intro time htime
    constructor
    . unfold findActiveVectorAt
      rw [hinv.findActive_eq htime]
    . intro active hactive
      apply hinv.findPrevious_eq htime
      apply okOr_eq_ok.mp hactive
  . intro vectorStartTime now time offer' hdelete htime
    unfold findActiveVectorAt
    rw [deleteOfferVector_findActive hinv.distinct hdelete htime]

theorem Tracked.pricing_unchanged_by_eviction_third :
    let vector (time : Nat) : OfferVector := {
      startTime := time
      baseTime := time
      basePrice := 1000000000
      apr := 0
      priceFixDuration := 60
    }
    let add (time : Nat) : Nat × VectorCall := (time, .add { vector time with startTimeOpt := none })
    let fresh : Offer := {
      tokenInMint := .default
      tokenOutMint := .default
      vectors := Vector.replicate maxVectors OfferVector.default
      feeBasisPoints := 0
      needsApproval := false
      allowPermissionless := false
      disabled := false
      feeBasisPointsPermissionless := 0
    }
    let s : Tracked := {
      offer := { fresh with vectors := (fresh.vectors.set 0 (vector 300)).set 1 (vector 200) }
      history := [vector 100, vector 200, vector 300]
      clock := 300
    }
    run step { offer := fresh, history := [], clock := 0 } [add 100, add 200, add 300] = .ok s ∧
    findActiveVectorAt s.offer 350
      = okOr (OfferVector.findActive s.history 350) .noActiveVector := by
  intro vector add fresh s
  have hfresh : makeOffer .default .default 0 false false = .ok fresh := by decide
  have hrun : run step { offer := fresh, history := [], clock := 0 } [add 100, add 200, add 300]
      = .ok s := by decide +kernel
  refine ⟨hrun, ?_⟩
  apply ((Tracked.pricing_unchanged_by_eviction hfresh hrun).1 350 (by decide)).1

end OnreApp
