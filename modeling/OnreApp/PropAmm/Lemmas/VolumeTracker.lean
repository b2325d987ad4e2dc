import OnreApp.PropAmm.Impl.Pricing

namespace OnreApp

open Checked

def PropAmmPairState.restart (pair : PropAmmPairState) (now : Int) (prevNet : Nat)
    : PropAmmPairState :=
  { pair with
    epochStart := now
    prevNetSellValueStable := prevNet
    currSellValueStable := 0
    currBuyValueStable := 0
    currSellTradeCount := 0
  }

variable {pair rolled : PropAmmPairState} {now : Int}

theorem le_saturatingMulInt_two (pair : PropAmmPairState) (hd : 0 < pair.epochDurationSeconds) :
    pair.epochDurationSeconds ≤ saturatingMulInt i64Min i64Max pair.epochDurationSeconds 2 := by
  have := pair.epochDurationSeconds_le
  unfold saturatingMulInt
  unfold i64Max at *
  omega

theorem rollPropAmmVolumeTracker_isOk (hd : 0 < pair.epochDurationSeconds)
    (hstart : 0 ≤ pair.epochStart) (hnow : now ≤ i64Max) :
    ∃ rolled, rollPropAmmVolumeTracker pair now = .ok rolled := by
  unfold rollPropAmmVolumeTracker
  dsimp only
  rw [require_of hd, ok_bind]
  split
  . exact ⟨_, rfl⟩
  . have hsub :
        checkedSubInt i64Min i64Max now pair.epochStart = some (now - pair.epochStart) := by
      rw [checkedSubInt_eq_some]
      unfold i64Min
      omega
    rw [hsub, okOr_some, ok_bind]
    split
    . exact ⟨_, rfl⟩
    . split
      . exact ⟨_, rfl⟩
      . exact ⟨_, rfl⟩

theorem rollPropAmmVolumeTracker_cases (h : rollPropAmmVolumeTracker pair now = .ok rolled) :
    0 < pair.epochDurationSeconds ∧
      ((∃ prevNet, rolled = pair.restart now prevNet ∧
          previewVolumes pair now = .ok (prevNet, 0, 0) ∧
          previewCurrentSellTradeCount pair now = .ok 0) ∨
        (rolled = pair ∧
          previewCurrentSellTradeCount pair now = .ok pair.currSellTradeCount)) := by
  unfold rollPropAmmVolumeTracker at h
  rw [bind_eq_ok] at h
  rcases h with ⟨_, hd, h⟩
  rw [require_eq_ok] at hd
  refine ⟨hd, ?_⟩
  have htwice := le_saturatingMulInt_two pair hd
  unfold previewVolumes previewCurrentSellTradeCount
  dsimp only at h ⊢
  rw [require_of hd, ok_bind]
  split at h
  . next hfresh =>
    rw [if_pos hfresh, if_pos hfresh]
    exact .inl ⟨0, (pure_eq_ok.mp h).symm, rfl, rfl⟩
  . next hfresh =>
    rw [bind_eq_ok] at h
    rcases h with ⟨elapsed, helapsed, h⟩
    rw [if_neg hfresh, if_neg hfresh]
    rw [helapsed, ok_bind, ok_bind]
    split at h
    . next htwo =>
      rw [if_pos htwo, if_pos (by omega)]
      exact .inl ⟨0, (pure_eq_ok.mp h).symm, rfl, rfl⟩
    . next htwo =>
      rw [if_neg htwo]
      split at h
      . next hone =>
        rw [if_pos hone, if_pos hone]
        exact .inl ⟨_, (pure_eq_ok.mp h).symm, rfl, rfl⟩
      . next hone =>
        rw [if_neg hone, if_neg hone]
        exact .inr ⟨(pure_eq_ok.mp h).symm, rfl⟩

section Restart

variable (hd : 0 < pair.epochDurationSeconds) (hnow : 0 < now) (prevNet : Nat)

theorem checkedSubInt_self (now : Int) : checkedSubInt i64Min i64Max now now = some 0 := by
  rw [checkedSubInt_eq_some]
  unfold i64Min i64Max
  omega

include hd

theorem previewCurrentSellTradeCount_restart :
    previewCurrentSellTradeCount (pair.restart now prevNet) now = .ok 0 := by
  unfold previewCurrentSellTradeCount PropAmmPairState.restart
  dsimp only
  rw [require_of hd, ok_bind]
  rw [checkedSubInt_self, okOr_some, ok_bind]
  split
  . rfl
  . split <;> rfl

include hnow

theorem previewVolumes_restart :
    previewVolumes (pair.restart now prevNet) now = .ok (prevNet, 0, 0) := by
  have htwice := le_saturatingMulInt_two pair hd
  unfold previewVolumes PropAmmPairState.restart
  dsimp only
  rw [if_neg (by omega)]
  rw [checkedSubInt_self, okOr_some, ok_bind]
  rw [if_neg (by omega), if_neg (by omega)]
  rfl

theorem rollPropAmmVolumeTracker_restart :
    rollPropAmmVolumeTracker (pair.restart now prevNet) now = .ok (pair.restart now prevNet) := by
  have htwice := le_saturatingMulInt_two pair hd
  unfold rollPropAmmVolumeTracker PropAmmPairState.restart
  dsimp only
  rw [require_of hd, ok_bind]
  rw [if_neg (by omega)]
  rw [checkedSubInt_self, okOr_some, ok_bind]
  rw [if_neg (by omega), if_neg (by omega)]
  rfl

end Restart

theorem applyHardWallLiquidityFactorAtTime_restart {prevNet : Nat}
    (hvolumes : previewVolumes pair now = previewVolumes (pair.restart now prevNet) now)
    (hcount :
      previewCurrentSellTradeCount pair now
        =
      previewCurrentSellTradeCount (pair.restart now prevNet) now) (x actual reserve : Nat) :
    applyHardWallLiquidityFactorAtTime x actual reserve pair now
      =
    applyHardWallLiquidityFactorAtTime x actual reserve (pair.restart now prevNet) now := by
  unfold applyHardWallLiquidityFactorAtTime sellHaircutScaled dynamicWallLiquidityAtTime
    previewEffectiveSellVolume cadenceWaveYForQuoteScaled
  rw [hvolumes, hcount]
  rfl

theorem rollPropAmmVolumeTracker_preview (pair : PropAmmPairState) (now : Int)
    (hd : 0 < pair.epochDurationSeconds) (hstart : 0 ≤ pair.epochStart) (hnow : 0 < now)
    (hnow' : now ≤ i64Max) :
    ∃ rolled, rollPropAmmVolumeTracker pair now = .ok rolled ∧
      (∀ (x : Nat),
        previewEffectiveSellVolume pair x now = previewEffectiveSellVolume rolled x now) ∧
      previewCurrentSellTradeCount pair now = previewCurrentSellTradeCount rolled now ∧
      previewCurrentSellTradeCount rolled now = .ok rolled.currSellTradeCount ∧
      (∀ (x actual reserve : Nat),
        applyHardWallLiquidityFactorAtTime x actual reserve pair now
          =
        applyHardWallLiquidityFactorAtTime x actual reserve rolled now) ∧
      rollPropAmmVolumeTracker rolled now = .ok rolled := by
  rcases rollPropAmmVolumeTracker_isOk hd hstart hnow' with ⟨rolled, hroll⟩
  refine ⟨rolled, hroll, ?_⟩
  rcases rollPropAmmVolumeTracker_cases hroll with ⟨_, hcases⟩
  cases hcases with
  | inl hrestart =>
    rcases hrestart with ⟨prevNet, rfl, hvolumes, hcount⟩
    rw [← previewVolumes_restart hd hnow prevNet] at hvolumes
    have hcount' := @previewCurrentSellTradeCount_restart pair now hd prevNet
    refine ⟨?_, ?_, hcount', ?_, rollPropAmmVolumeTracker_restart hd hnow prevNet⟩
    . intro x
      unfold previewEffectiveSellVolume
      rw [hvolumes]
      rfl
    . rw [hcount, hcount']
    . apply applyHardWallLiquidityFactorAtTime_restart hvolumes
      rw [hcount, hcount']
  | inr hsame =>
    rcases hsame with ⟨rfl, hcount⟩
    exact ⟨fun _ => rfl, rfl, hcount, fun _ _ _ => rfl, hroll⟩

theorem rollPropAmmVolumeTracker_preview_default :
    let pair := { PropAmmPairState.default with epochStart := 1000, currSellValueStable := 70 }
    ∃ rolled, rollPropAmmVolumeTracker pair 90000 = .ok rolled ∧
      previewEffectiveSellVolume pair 5 90000 = previewEffectiveSellVolume rolled 5 90000 := by
  intro pair
  obtain ⟨rolled, hroll, hvolume, _⟩ := rollPropAmmVolumeTracker_preview pair 90000 (by decide)
    (by decide) (by decide) (by decide)
  exact ⟨rolled, hroll, hvolume 5⟩

end OnreApp
