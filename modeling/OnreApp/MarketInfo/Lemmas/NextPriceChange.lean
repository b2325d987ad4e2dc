import OnreApp.MarketInfo.Impl.Valuation
import OnreApp.Offer.Impl.Vectors
import OnreApp.Offer.Lemmas.VectorPrice

namespace OnreApp

open Checked MaxByKey

variable {offer : Offer} {now t : Nat}

theorem lt_of_findNextVectorAfter {vector : OfferVector}
    (h : findNextVectorAfter offer now = some vector) : now < vector.startTime := by
  have hmem := mem_of_minByKey h
  rw [List.mem_filter] at hmem
  simpa using hmem.2

theorem findNextVectorAfter_none (h : findNextVectorAfter offer now = none)
    : ∀ v ∈ offer.vectors.toList, v.startTime ≤ now := by
  intro v hv
  rw [findNextVectorAfter, OfferVector.findNext, minByKey_eq_none] at h
  rw [List.filter_eq_nil_iff] at h
  simpa using h v hv

theorem findNextVectorAfter_le {vector : OfferVector}
    (h : findNextVectorAfter offer now = some vector)
    : ∀ v ∈ offer.vectors.toList, now < v.startTime → vector.startTime ≤ v.startTime := by
  intro v hv hlater
  apply le_of_minByKey h
  rw [List.mem_filter]
  exact ⟨hv, decide_eq_true hlater⟩

theorem findActiveVectorAt_congr (hle : now ≤ t)
    (hnone : ∀ v ∈ offer.vectors.toList, v.startTime ≤ now ∨ t < v.startTime)
    : findActiveVectorAt offer t = findActiveVectorAt offer now := by
  unfold findActiveVectorAt OfferVector.findActive
  congr 2
  apply List.filter_congr
  intro v hv
  have := hnone v hv
  rw [decide_eq_decide]
  omega

section Step

variable {apr basePrice baseTime priceFixDuration : Nat}

theorem lt_stepEnd (hduration : 0 < priceFixDuration) (hbase : baseTime ≤ now)
    : now < baseTime + stepEnd baseTime priceFixDuration now := by
  unfold stepEnd
  have := Nat.lt_mul_div_succ (now - baseTime) hduration
  rw [Nat.mul_comm] at this
  omega

theorem step_eq_of_lt (hduration : 0 < priceFixDuration) (hle : now ≤ t)
    (hlt : t < baseTime + stepEnd baseTime priceFixDuration now)
    : (t - baseTime) / priceFixDuration = (now - baseTime) / priceFixDuration := by
  unfold stepEnd at hlt
  apply Nat.le_antisymm
  . rw [← Nat.lt_succ_iff, Nat.div_lt_iff_lt_mul hduration, Nat.succ_eq_add_one]
    have := Nat.mul_pos (Nat.add_one_pos ((now - baseTime) / priceFixDuration)) hduration
    omega
  . apply Nat.div_le_div_right
    omega

theorem calculateStepPriceAt_congr (hbase : baseTime ≤ now) (hle : now ≤ t)
    (hstep : (t - baseTime) / priceFixDuration = (now - baseTime) / priceFixDuration)
    : calculateStepPriceAt apr basePrice baseTime priceFixDuration t
        =
      calculateStepPriceAt apr basePrice baseTime priceFixDuration now := by
  unfold calculateStepPriceAt checkedDiv
  rw [require_of hbase, require_of (Nat.le_trans hbase hle)]
  dsimp only
  rw [hstep]

theorem calculateStepPriceAt_base {price : Nat}
    (h : calculateStepPriceAt apr basePrice baseTime priceFixDuration now = .ok price)
    : baseTime ≤ now ∧ 0 < priceFixDuration := by
  simp only [calculateStepPriceAt, bind_eq_ok, require_eq_ok, okOr_eq_ok, checkedDiv_eq_some] at h
  rcases h with ⟨_, hbase, _, ⟨hduration, _⟩, _⟩
  exact ⟨hbase, Nat.pos_of_ne_zero hduration⟩

end Step

theorem computeNextPriceChangeTimestamp_inv {active : OfferVector} {next : Nat}
    (hend : now < active.baseTime + stepEnd active.baseTime active.priceFixDuration now)
    (h : computeNextPriceChangeTimestamp offer active now = .ok next)
    : now < next ∧
      next ≤ active.baseTime + stepEnd active.baseTime active.priceFixDuration now ∧
      ∀ v ∈ offer.vectors.toList, now < v.startTime → next ≤ v.startTime := by
  simp only [computeNextPriceChangeTimestamp, bind_eq_ok, okOr_eq_ok, checkedDiv_eq_some,
    checkedAdd_eq_some, checkedMul_eq_some] at h
  rcases h with ⟨_, ⟨_, rfl⟩, _, ⟨_, rfl⟩, _, ⟨_, rfl⟩, _, ⟨_, rfl⟩, h⟩
  cases hfind : findNextVectorAfter offer now with
  | none =>
    rw [hfind] at h
    cases h
    refine ⟨hend, Nat.le_refl _, ?_⟩
    intro v hv hlater
    have := findNextVectorAfter_none hfind v hv
    omega
  | some vector =>
    rw [hfind] at h
    cases h
    refine ⟨?_, Nat.min_le_left _ _, ?_⟩
    . rw [Nat.lt_min]
      exact ⟨hend, lt_of_findNextVectorAfter hfind⟩
    . intro v hv hlater
      apply Nat.le_trans (Nat.min_le_right _ _)
      apply findNextVectorAfter_le hfind v hv hlater

theorem getOfferValuationSnapshot_valid {s : OfferValuationSnapshot}
    (h : getOfferValuationSnapshot offer now = .ok s)
    : now < s.nextPriceChangeTimestamp ∧
      ∀ (t : Nat), now ≤ t → t < s.nextPriceChangeTimestamp →
        findActiveVectorAt offer t = .ok s.activeVector ∧
        computeOfferCurrentPrice offer t = .ok s.currentPrice := by
  simp only [getOfferValuationSnapshot, getActiveVectorAndCurrentPrice, bind_eq_ok, pure_eq_ok,
    Prod.exists, Prod.mk.injEq] at h
  rcases h with ⟨_, _, ⟨active, hactive, price, hprice, rfl, rfl⟩, next, hnext, rfl⟩
  rcases calculateStepPriceAt_base hprice with ⟨hbase, hduration⟩
  rcases computeNextPriceChangeTimestamp_inv (lt_stepEnd hduration hbase) hnext
    with ⟨hahead, hstep, hlater⟩
  refine ⟨hahead, ?_⟩
  intro t hle hlt
  dsimp only at hlt
  have hnone : ∀ v ∈ offer.vectors.toList, v.startTime ≤ now ∨ t < v.startTime := by
    intro v hv
    have := hlater v hv
    omega
  have hsame := findActiveVectorAt_congr hle hnone
  rw [hactive] at hsame
  refine ⟨hsame, ?_⟩
  have hsameStep := step_eq_of_lt hduration hle (Nat.lt_of_lt_of_le hlt hstep)
  unfold computeOfferCurrentPrice getActiveVectorAndCurrentPrice
  rw [hsame, ok_bind]
  rw [calculateStepPriceAt_congr hbase hle hsameStep, hprice]
  rfl

-- the next vector starts before the first price step of this one ends
def twoVectors : Result Offer := do
  let offer ← makeOffer .default .default 0 false false
  let offer ← addOfferVector offer ⟨none, 1000, 1000000000, 36500, 86400⟩ 1000
  addOfferVector offer ⟨some 50000, 50000, 1000000000, 0, 3600⟩ 1000

theorem getOfferValuationSnapshot_valid_two_vectors
    : ∃ (offer : Offer) (s : OfferValuationSnapshot),
        twoVectors = .ok offer ∧
        getOfferValuationSnapshot offer 1000 = .ok s ∧
        s.nextPriceChangeTimestamp = 50000 ∧
        computeOfferCurrentPrice offer 49999 = .ok s.currentPrice := by
  have hview : twoVectors.toOption.bind
      (fun offer => (getOfferValuationSnapshot offer 1000).toOption.map
        OfferValuationSnapshot.nextPriceChangeTimestamp) = some 50000 := by decide +kernel
  rcases exists_ok_of_view hview with ⟨offer, hoffer, hsnapshot⟩
  rw [Option.map_eq_some_iff] at hsnapshot
  rcases hsnapshot with ⟨s, hs, hnext⟩
  rw [toOption_eq_some] at hs
  have hvalid := (getOfferValuationSnapshot_valid hs).2 49999 (by decide) (by omega)
  exact ⟨offer, s, hoffer, hs, hnext, hvalid.2⟩

end OnreApp
