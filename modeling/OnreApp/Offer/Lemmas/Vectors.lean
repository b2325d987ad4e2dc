import OnreApp.Offer.Impl.Vectors

namespace OnreApp

open Checked MaxByKey

namespace Offer

def Stored (offer : Offer) (vector : OfferVector) : Prop :=
  vector.startTime ≠ 0 ∧ ∃ i : Fin maxVectors, offer.vectors.get i = vector

def DistinctStartTimes (offer : Offer) : Prop :=
  ∀ (i j : Fin maxVectors), (offer.vectors.get i).startTime ≠ 0 →
    (offer.vectors.get i).startTime = (offer.vectors.get j).startTime → i = j

variable {offer offer' : Offer} {v w : OfferVector}

theorem mem_vectors_iff : v ∈ offer.vectors.toList ↔ ∃ i : Fin maxVectors, offer.vectors.get i = v := by
  rw [Vector.mem_toList_iff, Vector.mem_iff_getElem]
  constructor
  . rintro ⟨i, hi, h⟩
    exact ⟨⟨i, hi⟩, h⟩
  . rintro ⟨i, h⟩
    exact ⟨i.val, i.isLt, h⟩

theorem mem_filter_nonzero {p : OfferVector → Prop} [DecidablePred p] :
    v ∈ offer.vectors.toList.filter (fun w => w.startTime ≠ 0 ∧ p w) ↔ offer.Stored v ∧ p v := by
  rw [List.mem_filter, mem_vectors_iff]
  unfold Stored
  simp only [decide_eq_true_eq]
  tauto

theorem DistinctStartTimes.eq (hdistinct : offer.DistinctStartTimes) (hv : offer.Stored v)
    (hw : offer.Stored w) (h : v.startTime = w.startTime) : v = w := by
  rcases hv with ⟨hne, i, rfl⟩
  rcases hw with ⟨_, j, rfl⟩
  rw [hdistinct i j hne h]

theorem findActive_inv {time : Nat}
    (h : OfferVector.findActive offer.vectors.toList time = some v) :
    offer.Stored v ∧ v.startTime ≤ time ∧
      ∀ w, offer.Stored w → w.startTime ≤ time → w.startTime ≤ v.startTime := by
  unfold OfferVector.findActive at h
  rcases mem_filter_nonzero.mp (mem_of_maxByKey h) with ⟨hstored, hle⟩
  refine ⟨hstored, hle, ?_⟩
  intro w hw hwle
  apply le_of_maxByKey h w (mem_filter_nonzero.mpr ⟨hw, hwle⟩)

theorem findActive_none {time : Nat}
    (h : OfferVector.findActive offer.vectors.toList time = none) :
    ∀ w, offer.Stored w → time < w.startTime := by
  unfold OfferVector.findActive at h
  rw [maxByKey_eq_none] at h
  intro w hw
  by_contra hle
  have hmem : w ∈ offer.vectors.toList.filter
      (fun w => w.startTime ≠ 0 ∧ w.startTime ≤ time) :=
    mem_filter_nonzero.mpr ⟨hw, by omega⟩
  rw [h] at hmem
  cases hmem

section Evict

variable {active prev : Nat}

theorem evict_get (i : Fin maxVectors) :
    (offer.evict active prev).vectors.get i =
      if (offer.vectors.get i).startTime ≠ 0 ∧ (offer.vectors.get i).startTime ≠ active ∧
          (offer.vectors.get i).startTime ≠ prev ∧ (offer.vectors.get i).startTime < active then
        OfferVector.default
      else
        offer.vectors.get i := by
  unfold evict
  apply Vector.getElem_map

theorem evict_stored :
    (offer.evict active prev).Stored v ↔
      offer.Stored v ∧ (v.startTime < active → v.startTime = prev) := by
  unfold Stored
  constructor
  . rintro ⟨hne, i, hi⟩
    rw [evict_get] at hi
    split at hi
    . rw [← hi] at hne
      exact absurd rfl hne
    . next hkeep =>
      refine ⟨⟨hne, i, hi⟩, ?_⟩
      rw [hi] at hkeep
      omega
  . rintro ⟨⟨hne, i, hi⟩, hkeep⟩
    refine ⟨hne, i, ?_⟩
    rw [evict_get, hi]
    rw [if_neg]
    omega

theorem DistinctStartTimes.evict (hdistinct : offer.DistinctStartTimes) :
    (offer.evict active prev).DistinctStartTimes := by
  intro i j
  rw [evict_get, evict_get]
  split
  . intro hne
    exact absurd rfl hne
  . split
    . intro hne heq
      exact absurd heq hne
    . exact hdistinct i j

end Evict

section Set

variable {i : Fin maxVectors}

theorem set_get (j : Fin maxVectors) :
    ({ offer with vectors := offer.vectors.set i v i.isLt } : Offer).vectors.get j =
      if i = j then v else offer.vectors.get j := by
  show (offer.vectors.set i.val v)[j.val] = _
  rw [Vector.getElem_set]
  split
  . next h =>
    rw [if_pos (Fin.ext h)]
  . next h =>
    rw [if_neg (fun heq => h (congrArg Fin.val heq))]
    rfl

theorem set_stored_of_empty (hslot : (offer.vectors.get i).startTime = 0) (hv : v.startTime ≠ 0) :
    ({ offer with vectors := offer.vectors.set i v i.isLt } : Offer).Stored w ↔
      w = v ∨ offer.Stored w := by
  unfold Stored
  constructor
  . rintro ⟨hne, j, hj⟩
    rw [set_get] at hj
    split at hj
    . exact .inl hj.symm
    . exact .inr ⟨hne, j, hj⟩
  . intro h
    cases h with
    | inl h =>
      subst h
      refine ⟨hv, i, ?_⟩
      rw [set_get, if_pos rfl]
    | inr h =>
      rcases h with ⟨hne, j, hj⟩
      refine ⟨hne, j, ?_⟩
      rw [set_get, if_neg]
      . exact hj
      . intro heq
        rw [heq, hj] at hslot
        exact hne hslot

theorem DistinctStartTimes.set (hdistinct : offer.DistinctStartTimes)
    (hnew : ∀ j : Fin maxVectors, v.startTime ≠ 0 → v.startTime ≠ (offer.vectors.get j).startTime) :
    ({ offer with vectors := offer.vectors.set i v i.isLt } : Offer).DistinctStartTimes := by
  intro j k
  rw [set_get, set_get]
  split
  . next hj =>
    split
    . next hk =>
      intros
      rw [← hj, ← hk]
    . intro hne heq
      exact absurd heq (hnew k hne)
  . split
    . intro hne heq
      rw [heq] at hne
      exact absurd heq.symm (hnew j hne)
    . exact hdistinct j k

end Set

end Offer

section Calls

variable {offer offer' : Offer} {args : VectorArgs} {now vectorStartTime : Nat}

theorem findVectorIndexByStartTime_inv {startTime : Nat} {i : Fin maxVectors}
    (h : findVectorIndexByStartTime offer startTime = some i) :
    (offer.vectors.get i).startTime = startTime := by
  unfold findVectorIndexByStartTime at h
  have hfound := List.find?_some h
  exact of_decide_eq_true hfound

theorem validateInputs_inv {startTime baseTime basePrice priceFixDuration : Nat}
    (h : validateInputs startTime baseTime basePrice priceFixDuration now offer = .ok ()) :
    now ≤ startTime ∧ 0 < baseTime ∧ 0 < basePrice ∧ 0 < priceFixDuration ∧
      ∀ v, offer.Stored v → v.startTime < startTime := by
  unfold validateInputs at h
  simp only [bind_eq_ok, require_eq_ok] at h
  rcases h with ⟨_, hnow, _, hbase, _, hprice, _, hduration, _, _, h⟩
  refine ⟨hnow, hbase, hprice, hduration, ?_⟩
  intro v hv
  have hmem : v.startTime ∈ offer.existingStartTimes := by
    unfold Offer.existingStartTimes
    apply List.mem_map_of_mem
    rw [List.mem_filter, Offer.mem_vectors_iff]
    simpa using And.comm.mp hv
  split at h
  . next latest hlatest =>
    rw [require_eq_ok] at h
    have := List.le_max?_getD_of_mem (k := 0) hmem
    rw [hlatest] at this
    simp only [Option.getD_some] at this
    omega
  . next hlatest =>
    rw [List.max?_eq_none_iff] at hlatest
    rw [hlatest] at hmem
    cases hmem

def Offer.Superseded (offer : Offer) (now : Nat) (v : OfferVector) : Prop :=
  ∃ prev active, offer.Stored prev ∧ offer.Stored active ∧ v.startTime < prev.startTime ∧
    prev.startTime < active.startTime ∧ active.startTime ≤ now

theorem cleanOldVectors_inv {newVector : OfferVector}
    (h : cleanOldVectors offer newVector now = .ok offer') :
    offer' = offer ∨
      ∃ active prevStartTime, offer' = offer.evict active.startTime prevStartTime ∧
        active.startTime ≤ now ∧ (active = newVector ∨ offer.Stored active) ∧
        ∀ v, offer.Stored v → v.startTime < active.startTime →
          ∃ prev, offer.Stored prev ∧ prev.startTime = prevStartTime ∧
            v.startTime ≤ prev.startTime ∧ prev.startTime < active.startTime := by
  unfold cleanOldVectors at h
  dsimp only at h
  split at h
  . exact .inl (pure_eq_ok.mp h).symm
  . next active hactive =>
    right
    simp only [bind_eq_ok, okOr_eq_ok, checkedSub_eq_some, pure_eq_ok] at h
    rcases h with ⟨before, ⟨hpos, hbefore⟩, h⟩
    refine ⟨active, _, h.symm, ?_⟩
    have hstarted : active.startTime ≤ now ∧ (active = newVector ∨ offer.Stored active) := by
      split at hactive
      . next hnow =>
        cases hactive
        exact ⟨Nat.le_of_eq hnow, .inl rfl⟩
      . have hfound := Offer.findActive_inv hactive
        exact ⟨hfound.2.1, .inr hfound.1⟩
    refine ⟨hstarted.1, hstarted.2, ?_⟩
    intro v hv hlt
    split
    . next prev hprev =>
      have hfound := Offer.findActive_inv hprev
      refine ⟨prev, hfound.1, rfl, hfound.2.2 v hv (by omega), by omega⟩
    . next hprev =>
      have := Offer.findActive_none hprev v hv
      omega

theorem cleanOldVectors_stored {newVector v : OfferVector}
    (h : cleanOldVectors offer newVector now = .ok offer') (hv : offer'.Stored v) :
    offer.Stored v := by
  cases cleanOldVectors_inv h with
  | inl hsame =>
    rw [← hsame]
    exact hv
  | inr hevict =>
    rcases hevict with ⟨active, prevStartTime, rfl, _⟩
    exact (Offer.evict_stored.mp hv).1

theorem cleanOldVectors_distinct {newVector : OfferVector}
    (h : cleanOldVectors offer newVector now = .ok offer')
    (hdistinct : offer.DistinctStartTimes) : offer'.DistinctStartTimes := by
  cases cleanOldVectors_inv h with
  | inl hsame =>
    rw [hsame]
    exact hdistinct
  | inr hevict =>
    rcases hevict with ⟨active, prevStartTime, rfl, _⟩
    exact hdistinct.evict

theorem cleanOldVectors_kept {newVector v : OfferVector}
    (h : cleanOldVectors offer newVector now = .ok offer') (hv : offer.Stored v) :
    offer'.Stored v ∨
      ∃ prev active, offer'.Stored prev ∧ (active = newVector ∨ offer'.Stored active) ∧
        v.startTime < prev.startTime ∧ prev.startTime < active.startTime ∧
        active.startTime ≤ now := by
  cases cleanOldVectors_inv h with
  | inl hsame =>
    rw [hsame]
    exact .inl hv
  | inr hevict =>
    rcases hevict with ⟨active, prevStartTime, rfl, hstarted, hactive, hprev⟩
    by_cases hlt : v.startTime < active.startTime
    . rcases hprev v hv hlt with ⟨prev, hstored, rfl, hle, hltActive⟩
      cases Nat.lt_or_eq_of_le hle with
      | inr heq => exact .inl (Offer.evict_stored.mpr ⟨hv, fun _ => heq⟩)
      | inl hltPrev =>
        refine .inr ⟨prev, active, ?_, ?_, hltPrev, hltActive, hstarted⟩
        . apply Offer.evict_stored.mpr ⟨hstored, fun _ => rfl⟩
        . apply hactive.imp id
          intro hstored
          apply Offer.evict_stored.mpr ⟨hstored, _⟩
          omega
    . apply Or.inl
      apply Offer.evict_stored.mpr ⟨hv, _⟩
      omega

structure Offer.VectorAdded (offer : Offer) (newVector : OfferVector) (now : Nat) (offer' : Offer)
    : Prop where
  notPast : now ≤ newVector.startTime
  priceFixDuration_pos : 0 < newVector.priceFixDuration
  latest : ∀ v, offer.Stored v → v.startTime < newVector.startTime
  stored : offer'.Stored newVector
  stored_of : ∀ v, offer'.Stored v → v = newVector ∨ offer.Stored v
  kept : ∀ v, offer.Stored v → offer'.Stored v ∨ offer'.Superseded now v
  distinct : offer.DistinctStartTimes → offer'.DistinctStartTimes

theorem cleanOldVectors_startTime_ne_zero {newVector : OfferVector}
    (hstart : now ≤ newVector.startTime) (h : cleanOldVectors offer newVector now = .ok offer') :
    newVector.startTime ≠ 0 := by
  -- a vector that starts at 0 would start now, and there is no time before it
  intro hzero
  unfold cleanOldVectors at h
  rw [if_pos (by omega)] at h
  simp only [bind_eq_ok, okOr_eq_ok, checkedSub_eq_some] at h
  rcases h with ⟨_, ⟨hpos, _⟩, _⟩
  omega

theorem addOfferVector_inv (h : addOfferVector offer args now = .ok offer') :
    offer.VectorAdded (args.vector now) now offer' := by
  unfold addOfferVector at h
  dsimp only at h
  simp only [bind_eq_ok, okOr_eq_ok, pure_eq_ok] at h
  rcases h with ⟨_, hvalid, cleaned, hcleaned, slot, hslot, rfl⟩
  rcases validateInputs_inv hvalid with ⟨hstart, _, _, hduration, hlatest⟩
  have hslot := findVectorIndexByStartTime_inv hslot
  have hne := cleanOldVectors_startTime_ne_zero hstart hcleaned
  constructor
  case notPast => exact hstart
  case priceFixDuration_pos => exact hduration
  case latest => exact hlatest
  case stored => exact (Offer.set_stored_of_empty hslot hne).mpr (.inl rfl)
  case stored_of =>
    intro v hv
    apply ((Offer.set_stored_of_empty hslot hne).mp hv).imp id
    apply cleanOldVectors_stored hcleaned
  case kept =>
    intro v hv
    cases cleanOldVectors_kept hcleaned hv with
    | inl hkept => exact .inl ((Offer.set_stored_of_empty hslot hne).mpr (.inr hkept))
    | inr hevicted =>
      rcases hevicted with ⟨prev, active, hprev, hactive, hlt⟩
      refine .inr ⟨prev, active, ?_, ?_, hlt⟩
      . exact (Offer.set_stored_of_empty hslot hne).mpr (.inr hprev)
      . exact (Offer.set_stored_of_empty hslot hne).mpr hactive
  case distinct =>
    intro hdistinct
    apply (cleanOldVectors_distinct hcleaned hdistinct).set
    intro i _ heq
    have hlt := hlatest (cleaned.vectors.get i)
      (cleanOldVectors_stored hcleaned ⟨by rw [← heq]; exact hne, i, rfl⟩)
    rw [← heq] at hlt
    apply Nat.lt_irrefl _ hlt

theorem deleteOfferVector_stored {v : OfferVector}
    (h : deleteOfferVector offer vectorStartTime now = .ok offer') (hv : offer'.Stored v) :
    offer.Stored v := by
  unfold deleteOfferVector at h
  simp only [bind_eq_ok, require_eq_ok, okOr_eq_ok, pure_eq_ok] at h
  rcases h with ⟨_, _, slot, _, rfl⟩
  rcases hv with ⟨hne, i, hi⟩
  rw [Offer.set_get] at hi
  split at hi
  . rw [← hi] at hne
    exact absurd rfl hne
  . exact ⟨hne, i, hi⟩

theorem deleteOfferVector_inv (hdistinct : offer.DistinctStartTimes)
    (h : deleteOfferVector offer vectorStartTime now = .ok offer') :
    now < vectorStartTime ∧ offer'.DistinctStartTimes ∧
      ∀ v, offer'.Stored v ↔ offer.Stored v ∧ v.startTime ≠ vectorStartTime := by
  unfold deleteOfferVector at h
  simp only [bind_eq_ok, require_eq_ok, okOr_eq_ok, pure_eq_ok] at h
  rcases h with ⟨_, hpast, slot, hslot, rfl⟩
  have hslot := findVectorIndexByStartTime_inv hslot
  refine ⟨hpast, ?_, ?_⟩
  . apply hdistinct.set
    intro i hne
    exact absurd rfl hne
  . intro v
    unfold Offer.Stored
    constructor
    . rintro ⟨hne, i, hi⟩
      rw [Offer.set_get] at hi
      split at hi
      . rw [← hi] at hne
        exact absurd rfl hne
      . next hother =>
        refine ⟨⟨hne, i, hi⟩, ?_⟩
        intro heq
        apply hother
        apply hdistinct slot i
        . omega
        . rw [hslot, hi, heq]
    . rintro ⟨⟨hne, i, hi⟩, hother⟩
      refine ⟨hne, i, ?_⟩
      rw [Offer.set_get, if_neg]
      . exact hi
      . intro heq
        rw [heq, hi] at hslot
        exact hother hslot

theorem deleteAllOfferVectors_stored (offer : Offer) (v : OfferVector) :
    ¬(deleteAllOfferVectors offer).Stored v := by
  rintro ⟨hne, i, hi⟩
  unfold deleteAllOfferVectors at hi
  replace hi := (Vector.getElem_map _ i.isLt).symm.trans hi
  split at hi
  . rw [← hi] at hne
    exact hne rfl
  . next hzero =>
    rw [hi] at hzero
    exact hzero hne

theorem deleteAllOfferVectors_distinct (offer : Offer) :
    (deleteAllOfferVectors offer).DistinctStartTimes := by
  intro i _ hne
  exact absurd ⟨hne, i, rfl⟩ (deleteAllOfferVectors_stored offer _)

theorem Offer.call_frame {call : VectorCall} (h : offer.call now call = .ok offer')
    : ∃ (vectors : Vector OfferVector maxVectors), offer' = { offer with vectors } := by
  cases call with
  | add args =>
    simp only [Offer.call, addOfferVector, cleanOldVectors, bind_eq_ok, pure_eq_ok] at h
    rcases h with ⟨_, _, cleaned, hclean, _, _, rfl⟩
    split at hclean
    . cases hclean
      exact ⟨_, rfl⟩
    . simp only [bind_eq_ok, pure_eq_ok] at hclean
      rcases hclean with ⟨_, _, rfl⟩
      exact ⟨_, rfl⟩
  | delete vectorStartTime =>
    simp only [Offer.call, deleteOfferVector, bind_eq_ok, pure_eq_ok] at h
    rcases h with ⟨_, _, _, _, rfl⟩
    exact ⟨_, rfl⟩
  | deleteAll =>
    cases h
    exact ⟨_, rfl⟩

variable {tokenInMint tokenOutMint : Pubkey} {feeBasisPoints : Nat}
  {needsApproval allowPermissionless : Bool}

theorem makeOffer_inv
    (h : makeOffer tokenInMint tokenOutMint feeBasisPoints needsApproval allowPermissionless
      = .ok offer)
    : feeBasisPoints ≤ maxAllowedFeeBps ∧ offer = {
        tokenInMint
        tokenOutMint
        vectors := Vector.replicate maxVectors OfferVector.default
        feeBasisPoints
        needsApproval
        allowPermissionless
        disabled := false
        feeBasisPointsPermissionless := 0
      } := by
  simp only [makeOffer, bind_eq_ok, require_eq_ok, pure_eq_ok] at h
  rcases h with ⟨_, hfee, rfl⟩
  exact ⟨hfee, rfl⟩

theorem makeOffer_stored
    (h : makeOffer tokenInMint tokenOutMint feeBasisPoints needsApproval allowPermissionless
      = .ok offer) (v : OfferVector) : ¬offer.Stored v := by
  rcases makeOffer_inv h with ⟨_, rfl⟩
  rintro ⟨hne, i, hi⟩
  replace hi := (Vector.getElem_replicate i.isLt).symm.trans hi
  rw [← hi] at hne
  exact hne rfl

end Calls

end OnreApp
