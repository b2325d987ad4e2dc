import OnreApp.PropAmm.Lemmas.SellPressure
import OnreApp.PropAmm.Lemmas.FlaggedCurve

namespace OnreApp

open Checked

namespace PropAmmPairState

def toConfig (pair : PropAmmPairState) : PropAmmConfig where
  enabled := pair.enabled
  curvePegHaircutBps := pair.curvePegHaircutBps
  curveExponentScaled := pair.curveExponentScaled
  cadenceThreshold := pair.cadenceThreshold
  cadenceWaveScaled := pair.cadenceWaveScaled
  epochDurationSeconds := pair.epochDurationSeconds
  wallSensitivityScaled := pair.wallSensitivityScaled
  minimumSellHaircutOnyc := pair.minimumSellHaircutOnyc
  epochDurationSeconds_le := pair.epochDurationSeconds_le

/-- What the integer types of the account promise of the fields the curve reads. -/
structure FitsWords (pair : PropAmmPairState) : Prop where
  cadenceThreshold : pair.cadenceThreshold ≤ u32Max
  wallSensitivityScaled : pair.wallSensitivityScaled ≤ u32Max
  currSellValueStable : pair.currSellValueStable ≤ u64Max
  currBuyValueStable : pair.currBuyValueStable ≤ u64Max
  prevNetSellValueStable : pair.prevNetSellValueStable ≤ u64Max
  currSellTradeCount : pair.currSellTradeCount ≤ u32Max
  epochStart : pair.epochStart ≤ i64Max

structure Configured (pair : PropAmmPairState) : Prop where
  curvePegHaircutBps : pair.curvePegHaircutBps ≤ maxBasisPoints
  curveExponentScaled : pair.curveExponentScaled ≤ 100000
  curveExponentStep : pair.curveExponentScaled % curveExponentStep = 0
  cadenceThreshold : 0 < pair.cadenceThreshold
  cadenceWaveScaled : pair.cadenceWaveScaled ≤ maxCadenceWaveScaled
  cadenceWaveStep : pair.cadenceWaveScaled % cadenceWaveStep = 0
  epochDurationSeconds : 0 < pair.epochDurationSeconds
  wallSensitivityScaled : 0 < pair.wallSensitivityScaled

def effectiveSellVolume (pair : PropAmmPairState) (x : Nat) (now : Int) : Nat :=
  if pair.epochStart = 0 ∨ now < pair.epochStart then x else pair.pressure now + x

end PropAmmPairState

section

variable {pair : PropAmmPairState} {now : Int} {x actual reserve : Nat}

theorem configured_of_validate (h : pair.toConfig.validate = .ok ()) : pair.Configured := by
  simp only [PropAmmConfig.validate, bind_eq_ok, require_eq_ok] at h
  rcases h with ⟨_, hpeg, _, hexponent, _, hstep, _, hthreshold, _, hwave, _, hwaveStep, _, hepoch,
    hsensitivity⟩
  exact ⟨hpeg, hexponent.2, hstep, hthreshold, hwave, hwaveStep, hepoch, hsensitivity⟩

section Volume

theorem previewVolumes_fresh (h : pair.epochStart = 0 ∨ now < pair.epochStart)
    : previewVolumes pair now = .ok (0, 0, 0) := by
  unfold previewVolumes
  dsimp only
  rw [if_pos h]
  rfl

theorem previewEffectiveSellVolume_fresh (hd : 0 < pair.epochDurationSeconds)
    (h : pair.epochStart = 0 ∨ now < pair.epochStart) (hx : x ≤ u64Max)
    : previewEffectiveSellVolume pair x now = .ok x := by
  have hbound := pair.epochDurationSeconds_le
  have hsub : checkedSubInt i64Min i64Max pair.epochDurationSeconds 0
      = some pair.epochDurationSeconds := by
    rw [checkedSubInt_eq_some]
    unfold i64Min
    omega
  have hmul : checkedMul u128Max 0 pair.epochDurationSeconds.toNat = some 0 := by
    rw [checkedMul_eq_some]
    simp
  have hdiv : checkedDiv 0 pair.epochDurationSeconds.toNat = some 0 := by
    rw [checkedDiv_eq_some]
    exact ⟨by omega, Nat.zero_div _⟩
  have hadd : checkedAdd u128Max 0 x = some x := by
    rw [checkedAdd_eq_some, Nat.zero_add]
    exact ⟨Nat.le_trans hx (by decide), rfl⟩
  unfold previewEffectiveSellVolume
  dsimp only
  rw [require_of hd, ok_bind, previewVolumes_fresh h, ok_bind]
  dsimp only
  rw [hsub, okOr_some, ok_bind, hmul, okOr_some, ok_bind, hdiv, okOr_some, ok_bind]
  rw [show checkedAdd u128Max 0 0 = some 0 by rfl, okOr_some, ok_bind, hadd, okOr_some, ok_bind]
  rw [require_of hx]
  rfl

theorem previewEffectiveSellVolume_eq (hconfig : pair.Configured) (hwords : pair.FitsWords)
    (hstart : 0 ≤ pair.epochStart) (hnow : now ≤ i64Max) (hx : x ≤ u64Max)
    : previewEffectiveSellVolume pair x now
        =
      if pair.effectiveSellVolume x now ≤ u64Max then
        .ok (pair.effectiveSellVolume x now)
      else
        .error (.onre .mathOverflow) := by
  unfold PropAmmPairState.effectiveSellVolume
  by_cases hfresh : pair.epochStart = 0 ∨ now < pair.epochStart
  . rw [if_pos hfresh, if_pos hx]
    exact previewEffectiveSellVolume_fresh hconfig.epochDurationSeconds hfresh hx
  . rw [if_neg hfresh]
    have hrunning : pair.Running now := by
      refine ⟨hconfig.epochDurationSeconds, ?_, ?_, hnow⟩
      . omega
      . omega
    have hnet : pair.currentNet ≤ u64Max :=
      Nat.le_trans (Nat.sub_le _ _) hwords.currSellValueStable
    exact hrunning.preview_add_eq hwords.prevNetSellValueStable hnet hx

theorem previewCurrentSellTradeCount_isOk (hd : 0 < pair.epochDurationSeconds)
    (hstart : 0 ≤ pair.epochStart) (hnow : now ≤ i64Max)
    : ∃ count, previewCurrentSellTradeCount pair now = .ok count
        ∧ count ≤ pair.currSellTradeCount := by
  unfold previewCurrentSellTradeCount
  dsimp only
  rw [require_of hd, ok_bind]
  split
  . exact ⟨0, rfl, Nat.zero_le _⟩
  . have hsub :
        checkedSubInt i64Min i64Max now pair.epochStart = some (now - pair.epochStart) := by
      rw [checkedSubInt_eq_some]
      unfold i64Min
      omega
    rw [hsub, okOr_some, ok_bind]
    split
    . exact ⟨0, rfl, Nat.zero_le _⟩
    . exact ⟨_, rfl, Nat.le_refl _⟩

end Volume

section Wall

variable {volume sensitivity : Nat}

theorem wallPosition_le_actual (volume sensitivity : Nat) (hactual : 0 < actual)
    : wallPosition actual volume sensitivity ≤ actual := by
  have hle := wallPosition_le hactual (Nat.le_refl actual) (Nat.zero_le volume)
    (Nat.zero_le sensitivity)
  rw [wallPosition_eq_actual hactual (.inl rfl)] at hle
  exact hle

theorem dynamicWallPosition_eq (hactual : 0 < actual) (hactual' : actual ≤ u64Max)
    (hvolume : volume ≤ u64Max) (hsensitivity : sensitivity ≤ u32Max)
    : dynamicWallPosition actual volume sensitivity
        =
      .ok (wallPosition actual volume sensitivity) := by
  have hmul : checkedMul u128Max sensitivity volume = some (sensitivity * volume) := by
    rw [checkedMul_eq_some]
    refine ⟨?_, rfl⟩
    apply Nat.le_trans (Nat.mul_le_mul hsensitivity hvolume)
    decide
  have hcomponent : sensitivity * volume / actual ≤ u32Max * u64Max := by
    apply Nat.le_trans (Nat.div_le_self _ _)
    apply Nat.mul_le_mul hsensitivity hvolume
  have hdiv : checkedDiv (sensitivity * volume) actual = some (sensitivity * volume / actual) := by
    rw [checkedDiv_eq_some]
    exact ⟨by omega, rfl⟩
  have hadd : checkedAdd u128Max wallSensitivityScale (sensitivity * volume / actual)
      = some (wallSensitivityScale + sensitivity * volume / actual) := by
    rw [checkedAdd_eq_some]
    refine ⟨?_, rfl⟩
    apply Nat.le_trans (Nat.add_le_add_left hcomponent _)
    decide
  have hnumerator : checkedMul u128Max actual wallSensitivityScale
      = some (actual * wallSensitivityScale) := by
    rw [checkedMul_eq_some]
    refine ⟨?_, rfl⟩
    apply Nat.le_trans (Nat.mul_le_mul_right _ hactual')
    decide
  have hquotient : checkedDiv (actual * wallSensitivityScale)
      (wallSensitivityScale + sensitivity * volume / actual)
      = some (actual * wallSensitivityScale
          / (wallSensitivityScale + sensitivity * volume / actual)) := by
    rw [checkedDiv_eq_some]
    exact ⟨Nat.ne_of_gt (Nat.add_pos_left (by decide) _), rfl⟩
  have hwall : actual * wallSensitivityScale
      / (wallSensitivityScale + sensitivity * volume / actual) ≤ u64Max := by
    have hle := wallPosition_le_actual volume sensitivity hactual
    apply Nat.le_trans _ hactual'
    apply Nat.le_trans _ hle
    apply Nat.le_max_left
  unfold dynamicWallPosition
  rw [require_of hactual, ok_bind]
  split
  . next hzero =>
    rw [wallPosition_eq_actual hactual (.inr hzero)]
    rfl
  . rw [hmul, okOr_some, ok_bind, hdiv, okOr_some, ok_bind, hadd, okOr_some, ok_bind]
    rw [hnumerator, okOr_some, ok_bind, hquotient, okOr_some, ok_bind, require_of hwall, ok_bind]
    rfl

theorem dynamicWallLiquidityAtTime_eq (reserve : Nat) (hactual : 0 < actual) (hactual' : actual ≤ u64Max)
    (hsensitivity : 0 < pair.wallSensitivityScaled) (hwords : pair.FitsWords)
    (hpreview : previewEffectiveSellVolume pair x now = .ok volume) (hvolume : volume ≤ u64Max)
    : dynamicWallLiquidityAtTime x actual reserve pair now
        =
      .ok (min (wallPosition actual volume pair.wallSensitivityScaled) reserve) := by
  unfold dynamicWallLiquidityAtTime
  rw [if_neg (by omega), hpreview, ok_bind]
  split
  . next hzero =>
    rw [require_of hactual, ok_bind, wallPosition_eq_actual hactual (.inr hzero)]
    rfl
  . rw [dynamicWallPosition_eq hactual hactual' hvolume hwords.wallSensitivityScaled, ok_bind]
    rfl

theorem utilizationScaled_eq {liquidity : Nat} (hliquidity : 0 < liquidity) (hx : x ≤ u64Max)
    : utilizationScaled x liquidity = .ok (x * hardWallScale / liquidity) := by
  have hmul : checkedMul u128Max x hardWallScale = some (x * hardWallScale) := by
    rw [checkedMul_eq_some]
    refine ⟨?_, rfl⟩
    apply Nat.le_trans (Nat.mul_le_mul_right _ hx)
    decide
  have hdiv : checkedDiv (x * hardWallScale) liquidity = some (x * hardWallScale / liquidity) := by
    rw [checkedDiv_eq_some]
    exact ⟨by omega, rfl⟩
  unfold utilizationScaled
  split
  . next hzero =>
    rw [hzero, Nat.zero_mul, Nat.zero_div]
    rfl
  . split
    . next heq =>
      rw [heq, Nat.mul_div_cancel_left _ hliquidity]
      rfl
    . rw [hmul, okOr_some, ok_bind, hdiv, okOr_some]

end Wall

section Haircut

variable {u : Nat}

theorem bpsToHardWallScale_eq {bps : Nat} (h : bps ≤ maxBasisPoints)
    : bpsToHardWallScale bps = .ok (hardWallScale * bps / maxBasisPoints) := by
  have hmul : checkedMul u128Max hardWallScale bps = some (hardWallScale * bps) := by
    rw [checkedMul_eq_some]
    refine ⟨?_, rfl⟩
    apply Nat.le_trans (Nat.mul_le_mul_left _ h)
    decide
  unfold bpsToHardWallScale
  rw [hmul, okOr_some, ok_bind]
  rfl

theorem validateCurveExponentScaled_of_configured (h : pair.Configured)
    : validateCurveExponentScaled pair.curveExponentScaled = .ok () := by
  simp only [validateCurveExponentScaled, bind_eq_ok, require_eq_ok]
  exact ⟨(), h.curveExponentScaled, h.curveExponentStep⟩

theorem redemptionHaircutScaled_isOk (h : pair.Configured) (hu : u ≤ u128Max)
    : ∃ haircut, redemptionHaircutScaled u pair.curvePegHaircutBps pair.curveExponentScaled
        = .ok haircut := by
  unfold redemptionHaircutScaled
  rw [bpsToHardWallScale_eq h.curvePegHaircutBps, ok_bind]
  split
  . rw [validateCurveExponentScaled_of_configured h, ok_bind]
    exact ⟨0, rfl⟩
  . rw [utilizationPowerScaled_eq hu h.curveExponentScaled h.curveExponentStep, ok_bind]
    exact ⟨_, rfl⟩

theorem cadenceRamp_isOk {threshold count : Nat} (hthreshold : 0 < threshold)
    (hcount : count ≤ u32Max)
    : ∃ ramp, cadenceRamp threshold count = .ok ramp ∧ ramp ≤ cadenceWaveScale := by
  have hmul : checkedMul u128Max count cadenceWaveScale = some (count * cadenceWaveScale) := by
    rw [checkedMul_eq_some]
    refine ⟨?_, rfl⟩
    apply Nat.le_trans (Nat.mul_le_mul_right _ hcount)
    decide
  have hdiv : checkedDiv (count * cadenceWaveScale) threshold
      = some (count * cadenceWaveScale / threshold) := by
    rw [checkedDiv_eq_some]
    exact ⟨by omega, rfl⟩
  unfold cadenceRamp
  split
  . exact ⟨_, rfl, Nat.le_refl _⟩
  . rw [hmul, okOr_some, ok_bind, hdiv]
    refine ⟨_, rfl, ?_⟩
    apply Nat.div_le_of_le_mul
    apply Nat.mul_le_mul_right
    omega

theorem cadenceWaveYForQuoteScaled_isOk (h : pair.Configured) (hwords : pair.FitsWords)
    (hstart : 0 ≤ pair.epochStart) (hnow : now ≤ i64Max)
    : ∃ y, cadenceWaveYForQuoteScaled pair now = .ok y := by
  rcases previewCurrentSellTradeCount_isOk h.epochDurationSeconds hstart hnow
    with ⟨count, hcount, hcountLe⟩
  rcases cadenceRamp_isOk h.cadenceThreshold (Nat.le_trans hcountLe hwords.currSellTradeCount)
    with ⟨ramp, hramp, hrampLe⟩
  have hmul : checkedMul u128Max pair.cadenceWaveScaled ramp
      = some (pair.cadenceWaveScaled * ramp) := by
    rw [checkedMul_eq_some]
    refine ⟨?_, rfl⟩
    apply Nat.le_trans (Nat.mul_le_mul h.cadenceWaveScaled hrampLe)
    decide
  unfold cadenceWaveYForQuoteScaled
  dsimp only
  rw [require_of h.cadenceThreshold, ok_bind, require_of h.cadenceWaveScaled, ok_bind]
  rw [require_of h.cadenceWaveStep, ok_bind]
  split
  . exact ⟨0, rfl⟩
  . rw [hcount, ok_bind]
    split
    . exact ⟨0, rfl⟩
    . rw [hramp, ok_bind, hmul, okOr_some, ok_bind]
      exact ⟨_, rfl⟩

theorem cadenceWaveTargetHaircutScaled_isOk (u y : Nat)
    : ∃ target, cadenceWaveTargetHaircutScaled u y = .ok target := by
  have hn : min u hardWallScale ≤ hardWallScale := Nat.min_le_right _ _
  have heased := FlaggedCurve.mul_le_u128Max hn (Nat.le_refl cadenceWaveEase) (by decide)
  have hadd : checkedAdd u128Max (min u hardWallScale * cadenceWaveEase)
        (hardWallScale - min u hardWallScale)
      =
      some (min u hardWallScale * cadenceWaveEase + (hardWallScale - min u hardWallScale)) := by
    rw [checkedAdd_eq_some]
    refine ⟨?_, rfl⟩
    apply Nat.le_trans (Nat.add_le_add (Nat.mul_le_mul_right _ hn) (Nat.sub_le _ _))
    decide
  unfold cadenceWaveTargetHaircutScaled
  dsimp only
  rw [FlaggedCurve.saturatingMul_eq heased]
  split
  . exact ⟨0, rfl⟩
  . split
    . exact ⟨0, rfl⟩
    . next hne =>
      have hden : min u hardWallScale * cadenceWaveEase + (hardWallScale - min u hardWallScale)
          ≠ 0 := by
        apply Nat.ne_of_gt
        apply Nat.add_pos_left
        apply Nat.mul_pos (Nat.pos_of_ne_zero hne) (by decide)
      rw [hadd, okOr_some, ok_bind, checkedDiv, if_neg hden, okOr_some, ok_bind]
      exact ⟨_, rfl⟩

theorem sellHaircutScaled_isOk {wall : Nat} (h : pair.Configured) (hwords : pair.FitsWords)
    (hstart : 0 ≤ pair.epochStart) (hnow : now ≤ i64Max) (hx : x ≤ u64Max) (hpos : 0 < wall)
    (hwall : dynamicWallLiquidityAtTime x actual reserve pair now = .ok wall)
    : ∃ haircut, sellHaircutScaled x actual reserve pair now = .ok haircut := by
  have hutilization := utilizationScaled_eq hpos hx
  have hbound := (utilizationScaled_inv hpos hutilization).2
  rcases redemptionHaircutScaled_isOk h hbound with ⟨base, hbase⟩
  rcases cadenceWaveYForQuoteScaled_isOk h hwords hstart hnow with ⟨y, hy⟩
  rcases cadenceWaveTargetHaircutScaled_isOk (x * hardWallScale / wall) y with ⟨target, htarget⟩
  unfold sellHaircutScaled
  rw [hwall, ok_bind, hutilization, ok_bind, hbase, ok_bind, hy, ok_bind, htarget, ok_bind]
  exact ⟨_, rfl⟩

end Haircut

section Output

theorem applyHardWallLiquidityFactorAtTime_eq {haircut : Nat} (hactual : 0 < actual)
    (hreserve : 0 < reserve) (hx : x ≤ actual) (hactual' : actual ≤ u64Max)
    (hhaircut : sellHaircutScaled x actual reserve pair now = .ok haircut)
    : applyHardWallLiquidityFactorAtTime x actual reserve pair now
        =
      .ok (x * (hardWallScale - haircut) / hardWallScale) := by
  have hmul : checkedMul u128Max x (hardWallScale - haircut)
      = some (x * (hardWallScale - haircut)) := by
    rw [checkedMul_eq_some]
    refine ⟨?_, rfl⟩
    apply Nat.le_trans (Nat.mul_le_mul (Nat.le_trans hx hactual') (Nat.sub_le _ _))
    decide
  have hdiv : checkedDiv (x * (hardWallScale - haircut)) hardWallScale
      = some (x * (hardWallScale - haircut) / hardWallScale) := by
    rw [checkedDiv_eq_some]
    exact ⟨by decide, rfl⟩
  have hle : x * (hardWallScale - haircut) / hardWallScale ≤ u64Max := by
    apply Nat.le_trans _ (Nat.le_trans hx hactual')
    apply Nat.div_le_of_le_mul
    rw [Nat.mul_comm]
    apply Nat.mul_le_mul_right _ (Nat.sub_le _ _)
  unfold applyHardWallLiquidityFactorAtTime
  rw [require_of hactual, ok_bind, require_of hreserve, ok_bind, require_of hx, ok_bind]
  rw [hhaircut, ok_bind]
  dsimp only
  rw [hmul, okOr_some, ok_bind, hdiv, okOr_some, ok_bind, require_of hle, ok_bind]
  rfl

theorem dynamicWallLiquidityAtTime_error (actual reserve : Nat)
    (hsensitivity : 0 < pair.wallSensitivityScaled)
    {e : Fault} (hpreview : previewEffectiveSellVolume pair x now = .error e)
    : dynamicWallLiquidityAtTime x actual reserve pair now = .error e := by
  unfold dynamicWallLiquidityAtTime
  rw [if_neg (by omega), hpreview]
  rfl

theorem applyHardWallLiquidityFactorAtTime_error (hactual : 0 < actual) (hreserve : 0 < reserve)
    (hx : x ≤ actual) {e : Fault}
    (hwall : dynamicWallLiquidityAtTime x actual reserve pair now = .error e)
    : applyHardWallLiquidityFactorAtTime x actual reserve pair now = .error e := by
  unfold applyHardWallLiquidityFactorAtTime sellHaircutScaled
  rw [require_of hactual, ok_bind, require_of hreserve, ok_bind, require_of hx, ok_bind, hwall]
  rfl

theorem applyHardWallLiquidityFactorAtTime_netBuy
    (h : pair.currSellValueStable ≤ pair.currBuyValueStable)
    : applyHardWallLiquidityFactorAtTime x actual reserve pair now
        =
      applyHardWallLiquidityFactorAtTime x actual reserve
        { pair with currSellValueStable := pair.currBuyValueStable } now := by
  have hvolumes : previewVolumes pair now
      = previewVolumes { pair with currSellValueStable := pair.currBuyValueStable } now := by
    unfold previewVolumes
    dsimp only
    rw [Nat.sub_eq_zero_of_le h, Nat.sub_self]
  have hpreview : previewEffectiveSellVolume pair x now
      = previewEffectiveSellVolume { pair with currSellValueStable := pair.currBuyValueStable } x
          now := by
    unfold previewEffectiveSellVolume
    rw [hvolumes]
  have hwall : dynamicWallLiquidityAtTime x actual reserve pair now
      = dynamicWallLiquidityAtTime x actual reserve
          { pair with currSellValueStable := pair.currBuyValueStable } now := by
    unfold dynamicWallLiquidityAtTime
    rw [hpreview]
  unfold applyHardWallLiquidityFactorAtTime sellHaircutScaled
  rw [hwall]
  rfl

theorem applyHardWallLiquidityFactorAtTime_total_solvent
    (hconfig : pair.toConfig.validate = .ok ()) (hwords : pair.FitsWords)
    (hstart : 0 ≤ pair.epochStart) (hnow : now ≤ i64Max) (hactual : 0 < actual)
    (hactual' : actual ≤ u64Max) (hreserve : 0 < reserve)
    (hx : x ≤ actual)
    : (pair.effectiveSellVolume x now ≤ u64Max →
        ∃ wall haircut out,
          dynamicWallLiquidityAtTime x actual reserve pair now = .ok wall ∧
          1 ≤ wall ∧ wall ≤ min actual reserve ∧
          FlaggedCurve.sellHaircutScaled x actual reserve pair now = .ok haircut ∧
          sellHaircutScaled x actual reserve pair now = .ok haircut.value ∧
          applyHardWallLiquidityFactorAtTime x actual reserve pair now = .ok out ∧
          out ≤ x ∧ x ≤ actual ∧
          ((FlaggedCurve.liquidityFactor haircut).saturated = true →
            hardWallScale ≤ haircut.value ∧ out = 0)) ∧
      (u64Max < pair.effectiveSellVolume x now →
        dynamicWallLiquidityAtTime x actual reserve pair now = .error (.onre .mathOverflow) ∧
        applyHardWallLiquidityFactorAtTime x actual reserve pair now
          = .error (.onre .mathOverflow)) ∧
      (pair.currSellValueStable < pair.currBuyValueStable →
        applyHardWallLiquidityFactorAtTime x actual reserve pair now
          =
        applyHardWallLiquidityFactorAtTime x actual reserve
          { pair with currSellValueStable := pair.currBuyValueStable } now) := by
  have hpair := configured_of_validate hconfig
  have hx' := Nat.le_trans hx hactual'
  have hpreview := previewEffectiveSellVolume_eq hpair hwords hstart hnow hx'
  refine ⟨?_, ?_, ?_⟩
  . intro hvolume
    rw [if_pos hvolume] at hpreview
    have hwall := dynamicWallLiquidityAtTime_eq reserve hactual hactual'
      hpair.wallSensitivityScaled hwords hpreview hvolume
    have hpos := dynamicWallLiquidityAtTime_pos hactual hreserve hwall
    rcases sellHaircutScaled_isOk hpair hwords hstart hnow hx' hpos hwall with ⟨haircut, hhaircut⟩
    have hout := applyHardWallLiquidityFactorAtTime_eq hactual hreserve hx hactual' hhaircut
    have hmap := FlaggedCurve.map_sellHaircutScaled x actual reserve pair now
    rw [hhaircut] at hmap
    rcases map_eq_ok hmap with ⟨flagged, hflagged, rfl⟩
    refine ⟨_, flagged, _, hwall, hpos, ?_, hflagged, hhaircut, hout, ?_, hx, ?_⟩
    . apply min_le_min_right
      apply wallPosition_le_actual _ _ hactual
    . exact applyHardWallLiquidityFactorAtTime_le_raw hout
    . intro hsaturated
      have hle := FlaggedCurve.liquidityFactor_saturated hactual hreserve hflagged hsaturated
      refine ⟨hle, ?_⟩
      rw [Nat.sub_eq_zero_of_le hle, Nat.mul_zero, Nat.zero_div]
  . intro hvolume
    rw [if_neg (Nat.not_le.mpr hvolume)] at hpreview
    have hwall := dynamicWallLiquidityAtTime_error actual reserve
      hpair.wallSensitivityScaled hpreview
    exact ⟨hwall, applyHardWallLiquidityFactorAtTime_error hactual hreserve hx hwall⟩
  . intro hnet
    exact applyHardWallLiquidityFactorAtTime_netBuy (Nat.le_of_lt hnet)

-- with one bought and nothing sold the net volume saturates, and the sell still pays
theorem applyHardWallLiquidityFactorAtTime_netBuy_pays
    : let pair := { PropAmmPairState.default with epochStart := 1000, currBuyValueStable := 1 }
      pair.toConfig.validate = .ok () ∧
      pair.currSellValueStable < pair.currBuyValueStable ∧
      sellHaircutScaled 1000000000 2000000000 2000000000 pair 2000 = .ok 70000000000 ∧
      70000000000 < hardWallScale ∧
      applyHardWallLiquidityFactorAtTime 1000000000 2000000000 2000000000 pair 2000
        = .ok 930000000 := by
  refine ⟨by decide, by decide, by decide +kernel, by decide, by decide +kernel⟩

theorem applyHardWallLiquidityFactorAtTime_total_solvent_steepest
    : let pair := { PropAmmPairState.default with
        epochStart := 1000, curveExponentScaled := 100000, wallSensitivityScaled := 4294967295 }
      applyHardWallLiquidityFactorAtTime 1000000000000000000 1000000000000000000 1 pair 2000
        = .ok 0 := by
  intro pair
  have hconfig : pair.toConfig.validate = .ok () := by decide
  have hwords : pair.FitsWords := by
    constructor <;> decide
  have htotal := @applyHardWallLiquidityFactorAtTime_total_solvent pair 2000 1000000000000000000
    1000000000000000000 1 hconfig hwords (by decide) (by decide) (by decide) (by decide) (by decide)
    (by decide)
  rcases htotal.1 (by decide) with ⟨wall, haircut, out, _, _, _, hflagged, _, hout, _, _, hzero⟩
  have hsaturated : (FlaggedCurve.liquidityFactor haircut).saturated = true := by
    have hflag : (FlaggedCurve.sellHaircutScaled 1000000000000000000 1000000000000000000 1 pair
        2000).map (fun haircut => (FlaggedCurve.liquidityFactor haircut).saturated) = .ok true := by
      decide
    rw [hflagged] at hflag
    exact Except.ok.inj hflag
  rw [hout, (hzero hsaturated).2]

end Output

end

end OnreApp
