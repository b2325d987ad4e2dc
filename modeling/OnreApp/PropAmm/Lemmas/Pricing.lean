import OnreApp.PropAmm.Impl.Pricing
import OnreApp.PropAmm.Lemmas.HardWallMath

namespace OnreApp

open Checked

namespace PropAmmPairState

structure Harsher (pair pair' : PropAmmPairState) : Prop where
  epochStart : pair.epochStart = pair'.epochStart
  epochDurationSeconds : pair.epochDurationSeconds = pair'.epochDurationSeconds
  cadenceThreshold : pair.cadenceThreshold = pair'.cadenceThreshold
  curveExponentScaled : pair.curveExponentScaled = pair'.curveExponentScaled
  currSellValueStable : pair.currSellValueStable ≤ pair'.currSellValueStable
  currBuyValueStable : pair'.currBuyValueStable ≤ pair.currBuyValueStable
  prevNetSellValueStable : pair.prevNetSellValueStable ≤ pair'.prevNetSellValueStable
  currSellTradeCount : pair.currSellTradeCount ≤ pair'.currSellTradeCount
  curvePegHaircutBps : pair.curvePegHaircutBps ≤ pair'.curvePegHaircutBps
  cadenceWaveScaled : pair.cadenceWaveScaled ≤ pair'.cadenceWaveScaled
  wallSensitivityScaled : pair.wallSensitivityScaled ≤ pair'.wallSensitivityScaled

theorem Harsher.refl (pair : PropAmmPairState) : Harsher pair pair := by
  constructor <;> simp

end PropAmmPairState

variable {pair pair' : PropAmmPairState} {now : Int}

section Volume

variable {x x' volume volume' count count' : Nat}

theorem previewVolumes_le {volumes volumes' : Nat × Nat × Int} (hpair : pair.Harsher pair')
    (h : previewVolumes pair now = .ok volumes) (h' : previewVolumes pair' now = .ok volumes') :
    volumes.1 ≤ volumes'.1 ∧ volumes.2.1 ≤ volumes'.2.1 ∧ volumes.2.2 = volumes'.2.2 := by
  have hsell := hpair.currSellValueStable
  have hbuy := hpair.currBuyValueStable
  have hprev := hpair.prevNetSellValueStable
  unfold previewVolumes at h h'
  dsimp only at h h'
  rw [← hpair.epochStart, ← hpair.epochDurationSeconds] at h'
  split at h
  . next hfresh =>
    rw [if_pos hfresh] at h'
    rw [← pure_eq_ok.mp h, ← pure_eq_ok.mp h']
    simp
  . next hfresh =>
    rw [if_neg hfresh] at h'
    rw [bind_eq_ok] at h h'
    rcases h with ⟨elapsed, helapsed, h⟩
    rcases h' with ⟨elapsed', helapsed', h'⟩
    rw [helapsed] at helapsed'
    cases helapsed'
    split at h
    . next htwo =>
      rw [if_pos htwo] at h'
      rw [← pure_eq_ok.mp h, ← pure_eq_ok.mp h']
      simp
    . next htwo =>
      rw [if_neg htwo] at h'
      split at h
      . next hone =>
        rw [if_pos hone] at h'
        rw [← pure_eq_ok.mp h, ← pure_eq_ok.mp h']
        dsimp only
        omega
      . next hone =>
        rw [if_neg hone] at h'
        rw [← pure_eq_ok.mp h, ← pure_eq_ok.mp h']
        dsimp only
        omega

theorem previewEffectiveSellVolume_inv (h : previewEffectiveSellVolume pair x now = .ok volume) :
    ∃ prevNet currNet elapsed, previewVolumes pair now = .ok (prevNet, currNet, elapsed) ∧
      volume =
        prevNet * (pair.epochDurationSeconds - elapsed).toNat / pair.epochDurationSeconds.toNat
          + currNet + x := by
  unfold previewEffectiveSellVolume at h
  simp only [bind_eq_ok, require_eq_ok, okOr_eq_ok, checkedSubInt_eq_some, checkedMul_eq_some,
    checkedDiv_eq_some, checkedAdd_eq_some, pure_eq_ok] at h
  rcases h with ⟨_, _, ⟨prevNet, currNet, elapsed⟩, hvolumes, _, ⟨_, rfl⟩, _, ⟨_, rfl⟩, _, ⟨_, rfl⟩,
    _, ⟨_, rfl⟩, _, ⟨_, rfl⟩, _, _, rfl⟩
  exact ⟨prevNet, currNet, elapsed, hvolumes, rfl⟩

theorem previewEffectiveSellVolume_le (hpair : pair.Harsher pair') (hx : x ≤ x')
    (h : previewEffectiveSellVolume pair x now = .ok volume)
    (h' : previewEffectiveSellVolume pair' x' now = .ok volume') : volume ≤ volume' := by
  rcases previewEffectiveSellVolume_inv h with ⟨prevNet, currNet, elapsed, hvolumes, rfl⟩
  rcases previewEffectiveSellVolume_inv h' with ⟨prevNet', currNet', elapsed', hvolumes', rfl⟩
  rcases previewVolumes_le hpair hvolumes hvolumes' with ⟨hprev, hcurr, helapsed⟩
  dsimp only at hprev hcurr helapsed
  rw [← hpair.epochDurationSeconds, ← helapsed]
  have hdecayed :
      prevNet * (pair.epochDurationSeconds - elapsed).toNat / pair.epochDurationSeconds.toNat
        ≤
      prevNet' * (pair.epochDurationSeconds - elapsed).toNat
        / pair.epochDurationSeconds.toNat := by
    apply Nat.div_le_div_right
    apply Nat.mul_le_mul_right _ hprev
  omega

theorem previewCurrentSellTradeCount_le (hpair : pair.Harsher pair')
    (h : previewCurrentSellTradeCount pair now = .ok count)
    (h' : previewCurrentSellTradeCount pair' now = .ok count') : count ≤ count' := by
  unfold previewCurrentSellTradeCount at h h'
  dsimp only at h h'
  rw [← hpair.epochStart, ← hpair.epochDurationSeconds] at h'
  rw [bind_eq_ok] at h h'
  rcases h with ⟨_, _, h⟩
  rcases h' with ⟨_, _, h'⟩
  split at h
  . rw [← pure_eq_ok.mp h]
    apply Nat.zero_le _
  . next hfresh =>
    rw [if_neg hfresh] at h'
    rw [bind_eq_ok] at h h'
    rcases h with ⟨elapsed, helapsed, h⟩
    rcases h' with ⟨elapsed', helapsed', h'⟩
    rw [helapsed] at helapsed'
    cases helapsed'
    split at h
    . rw [← pure_eq_ok.mp h]
      apply Nat.zero_le _
    . next hone =>
      rw [if_neg hone] at h'
      rw [← pure_eq_ok.mp h, ← pure_eq_ok.mp h']
      exact hpair.currSellTradeCount

end Volume

section Wall

variable {x x' volume volume' actual actual' reserve reserve' sensitivity sensitivity' : Nat}
variable {wall wall' : Nat}

def wallPosition (actual volume sensitivity : Nat) : Nat :=
  max (actual * wallSensitivityScale / (wallSensitivityScale + sensitivity * volume / actual)) 1

theorem wallPosition_eq_actual (hactual : 0 < actual) (h : sensitivity = 0 ∨ volume = 0) :
    wallPosition actual volume sensitivity = actual := by
  have hzero : sensitivity * volume = 0 := Nat.mul_eq_zero.mpr h
  unfold wallPosition
  rw [hzero]
  rw [Nat.zero_div, Nat.add_zero]
  rw [Nat.mul_div_cancel _ (by decide)]
  omega

theorem wallPosition_le (hactual' : 0 < actual') (hactual : actual' ≤ actual)
    (hvolume : volume ≤ volume') (hsensitivity : sensitivity ≤ sensitivity') :
    wallPosition actual' volume' sensitivity' ≤ wallPosition actual volume sensitivity := by
  have hcomponent : sensitivity * volume / actual ≤ sensitivity' * volume' / actual' := by
    apply Nat.div_le_div _ hactual (by omega)
    apply Nat.mul_le_mul hsensitivity hvolume
  have hscale : 0 < wallSensitivityScale := by decide
  unfold wallPosition
  apply max_le_max_right
  apply Nat.div_le_div
  . apply Nat.mul_le_mul_right _ hactual
  . apply Nat.add_le_add_left hcomponent _
  . apply Nat.ne_of_gt (Nat.add_pos_left hscale _)

theorem dynamicWallPosition_inv
    (h : dynamicWallPosition actual volume sensitivity = .ok wall) :
    wall = wallPosition actual volume sensitivity := by
  unfold dynamicWallPosition at h
  rw [bind_eq_ok] at h
  rcases h with ⟨_, hactual, h⟩
  rw [require_eq_ok] at hactual
  split at h
  . next hvolume =>
    rw [wallPosition_eq_actual hactual (.inr hvolume)]
    exact (pure_eq_ok.mp h).symm
  . simp only [bind_eq_ok, okOr_eq_ok, checkedMul_eq_some, checkedDiv_eq_some, checkedAdd_eq_some,
      require_eq_ok, pure_eq_ok] at h
    rcases h with ⟨_, ⟨_, rfl⟩, _, ⟨_, rfl⟩, _, ⟨_, rfl⟩, _, ⟨_, rfl⟩, _, ⟨_, rfl⟩, _, _, rfl⟩
    rfl

theorem dynamicWallLiquidityAtTime_inv (hactual : 0 < actual)
    (h : dynamicWallLiquidityAtTime x actual reserve pair now = .ok wall) :
    ∃ volume,
      (pair.wallSensitivityScaled ≠ 0 → previewEffectiveSellVolume pair x now = .ok volume) ∧
      wall = min (wallPosition actual volume pair.wallSensitivityScaled) reserve := by
  unfold dynamicWallLiquidityAtTime at h
  split at h
  . next hzero =>
    refine ⟨0, fun hne => absurd hzero hne, ?_⟩
    rw [wallPosition_eq_actual hactual (.inr rfl)]
    exact (pure_eq_ok.mp h).symm
  . rw [bind_eq_ok] at h
    rcases h with ⟨volume, hvolume, h⟩
    refine ⟨volume, fun _ => hvolume, ?_⟩
    split at h
    . next hzero =>
      rw [wallPosition_eq_actual hactual (.inr hzero)]
      rw [bind_eq_ok] at h
      rcases h with ⟨_, _, h⟩
      exact (pure_eq_ok.mp h).symm
    . rw [bind_eq_ok] at h
      rcases h with ⟨position, hposition, h⟩
      rw [← dynamicWallPosition_inv hposition]
      exact (pure_eq_ok.mp h).symm

theorem dynamicWallLiquidityAtTime_pos (hactual : 0 < actual) (hreserve : 0 < reserve)
    (h : dynamicWallLiquidityAtTime x actual reserve pair now = .ok wall) : 0 < wall := by
  rcases dynamicWallLiquidityAtTime_inv hactual h with ⟨volume, _, rfl⟩
  unfold wallPosition
  omega

theorem dynamicWallLiquidityAtTime_le (hpair : pair.Harsher pair') (hx : x ≤ x')
    (hactual' : 0 < actual') (hactual : actual' ≤ actual) (hreserve : reserve' ≤ reserve)
    (h : dynamicWallLiquidityAtTime x actual reserve pair now = .ok wall)
    (h' : dynamicWallLiquidityAtTime x' actual' reserve' pair' now = .ok wall') :
    wall' ≤ wall := by
  rcases dynamicWallLiquidityAtTime_inv (by omega) h with ⟨volume, hvolume, rfl⟩
  rcases dynamicWallLiquidityAtTime_inv hactual' h' with ⟨volume', hvolume', rfl⟩
  have hsensitivity := hpair.wallSensitivityScaled
  apply min_le_min _ hreserve
  by_cases hzero : pair.wallSensitivityScaled = 0
  . rw [hzero]
    have hle := wallPosition_le hactual' hactual (Nat.zero_le volume')
      (Nat.zero_le pair'.wallSensitivityScaled)
    rw [wallPosition_eq_actual (by omega) (.inl rfl)] at hle
    rw [wallPosition_eq_actual (by omega) (.inl rfl)]
    exact hle
  . apply wallPosition_le hactual' hactual _ hsensitivity
    apply previewEffectiveSellVolume_le hpair hx (hvolume hzero) (hvolume' (by omega))

theorem utilizationScaled_inv {liquidity u : Nat} (hliquidity : 0 < liquidity)
    (h : utilizationScaled x liquidity = .ok u) :
    u = x * hardWallScale / liquidity ∧ u ≤ u128Max := by
  unfold utilizationScaled at h
  split at h
  . next hzero =>
    rw [← pure_eq_ok.mp h, hzero]
    simp
  . split at h
    . next heq =>
      rw [← pure_eq_ok.mp h, heq]
      rw [Nat.mul_div_cancel_left _ hliquidity]
      exact ⟨rfl, by decide⟩
    . simp only [bind_eq_ok, okOr_eq_ok, checkedMul_eq_some, checkedDiv_eq_some] at h
      rcases h with ⟨_, ⟨hle, rfl⟩, _, rfl⟩
      exact ⟨rfl, Nat.le_trans (Nat.div_le_self _ _) hle⟩

theorem utilizationScaled_le {liquidity liquidity' u u' : Nat} (hx : x ≤ x')
    (hliquidity' : 0 < liquidity') (hliquidity : liquidity' ≤ liquidity)
    (h : utilizationScaled x liquidity = .ok u)
    (h' : utilizationScaled x' liquidity' = .ok u') : u ≤ u' := by
  rw [(utilizationScaled_inv (by omega) h).1]
  rw [(utilizationScaled_inv hliquidity' h').1]
  apply Nat.div_le_div _ hliquidity (by omega)
  apply Nat.mul_le_mul_right _ hx

end Wall

section Haircut

variable {u u' bps bps' exponent y y' haircut haircut' : Nat}

theorem redemptionHaircutScaled_inv
    (h : redemptionHaircutScaled u bps exponent = .ok haircut) :
    (hardWallScale * bps / maxBasisPoints = 0 ∧ haircut = 0) ∨
      ∃ power, utilizationPowerScaled u exponent = .ok power ∧
        haircut =
          saturatingMul u128Max (hardWallScale * bps / maxBasisPoints) power / hardWallScale := by
  unfold redemptionHaircutScaled at h
  rw [bind_eq_ok] at h
  rcases h with ⟨peg, hpeg, h⟩
  rw [bpsToHardWallScale_inv hpeg] at h
  split at h
  . next hzero =>
    rw [bind_eq_ok] at h
    rcases h with ⟨_, _, h⟩
    exact .inl ⟨hzero, (pure_eq_ok.mp h).symm⟩
  . simp only [bind_eq_ok, okOr_eq_ok, checkedDiv_eq_some] at h
    rcases h with ⟨power, hpower, _, hhaircut⟩
    exact .inr ⟨power, hpower, hhaircut.symm⟩

theorem redemptionHaircutScaled_le (hu : u ≤ u') (hu' : u' ≤ u128Max) (hbps : bps ≤ bps')
    (h : redemptionHaircutScaled u bps exponent = .ok haircut)
    (h' : redemptionHaircutScaled u' bps' exponent = .ok haircut') : haircut ≤ haircut' := by
  have hpeg : hardWallScale * bps / maxBasisPoints ≤ hardWallScale * bps' / maxBasisPoints := by
    apply Nat.div_le_div_right
    apply Nat.mul_le_mul_left _ hbps
  cases redemptionHaircutScaled_inv h with
  | inl hzero => omega
  | inr hcurve =>
    rcases hcurve with ⟨power, hpower, rfl⟩
    cases redemptionHaircutScaled_inv h' with
    | inl hzero' =>
      rw [hzero'.1, Nat.le_zero] at hpeg
      rw [hpeg]
      simp [saturatingMul]
    | inr hcurve' =>
      rcases hcurve' with ⟨power', hpower', rfl⟩
      apply Nat.div_le_div_right
      apply saturatingMul_le_saturatingMul hpeg
      apply utilizationPowerScaled_le hu hu' hpower hpower'

theorem cadenceRamp_inv {threshold count ramp : Nat} (h : cadenceRamp threshold count = .ok ramp) :
    ramp = if threshold ≤ count then cadenceWaveScale else count * cadenceWaveScale / threshold := by
  unfold cadenceRamp at h
  split at h
  . next hfull =>
    rw [if_pos hfull]
    exact (pure_eq_ok.mp h).symm
  . next hpartial =>
    rw [if_neg hpartial]
    simp only [bind_eq_ok, okOr_eq_ok, checkedMul_eq_some, checkedDiv_eq_some] at h
    rcases h with ⟨_, ⟨_, rfl⟩, _, rfl⟩
    rfl

theorem cadenceRamp_le {threshold count count' ramp ramp' : Nat} (hthreshold : 0 < threshold)
    (hcount : count ≤ count') (h : cadenceRamp threshold count = .ok ramp)
    (h' : cadenceRamp threshold count' = .ok ramp') : ramp ≤ ramp' := by
  rw [cadenceRamp_inv h, cadenceRamp_inv h']
  split
  . rw [if_pos (by omega)]
  . split
    . rw [Nat.div_le_iff_le_mul hthreshold]
      have : count * cadenceWaveScale ≤ threshold * cadenceWaveScale :=
        Nat.mul_le_mul_right _ (by omega)
      rw [Nat.mul_comm cadenceWaveScale]
      omega
    . apply Nat.div_le_div_right
      apply Nat.mul_le_mul_right _ hcount

theorem cadenceWaveYForQuoteScaled_inv (h : cadenceWaveYForQuoteScaled pair now = .ok y) :
    0 < pair.cadenceThreshold ∧
      ((pair.cadenceWaveScaled = 0 ∧ y = 0) ∨
        ∃ count ramp, previewCurrentSellTradeCount pair now = .ok count ∧
          cadenceRamp pair.cadenceThreshold count = .ok ramp ∧
          y = pair.cadenceWaveScaled * ramp / cadenceWaveScale) := by
  unfold cadenceWaveYForQuoteScaled at h
  dsimp only at h
  simp only [bind_eq_ok, require_eq_ok] at h
  rcases h with ⟨_, hthreshold, _, _, _, _, h⟩
  refine ⟨hthreshold, ?_⟩
  split at h
  . next hzero => exact .inl ⟨hzero, (pure_eq_ok.mp h).symm⟩
  . rw [bind_eq_ok] at h
    rcases h with ⟨count, hcount, h⟩
    split at h
    -- no sells yet: the ramp is 0 as well
    . next hzero =>
      refine .inr ⟨count, 0, hcount, ?_, ?_⟩
      . rw [hzero]
        unfold cadenceRamp
        rw [if_neg (by omega)]
        have hne : pair.cadenceThreshold ≠ 0 := by omega
        simp [checkedMul, checkedDiv, hne, hthreshold]
      . simp [← pure_eq_ok.mp h]
    . simp only [bind_eq_ok, okOr_eq_ok, checkedMul_eq_some, checkedDiv_eq_some] at h
      rcases h with ⟨ramp, hramp, _, ⟨_, rfl⟩, _, rfl⟩
      exact .inr ⟨count, ramp, hcount, hramp, rfl⟩

theorem cadenceWaveYForQuoteScaled_le (hpair : pair.Harsher pair')
    (h : cadenceWaveYForQuoteScaled pair now = .ok y)
    (h' : cadenceWaveYForQuoteScaled pair' now = .ok y') : y ≤ y' := by
  have hwave := hpair.cadenceWaveScaled
  rcases cadenceWaveYForQuoteScaled_inv h with ⟨hthreshold, hy⟩
  rcases cadenceWaveYForQuoteScaled_inv h' with ⟨_, hy'⟩
  cases hy with
  | inl hzero => omega
  | inr hy =>
    rcases hy with ⟨count, ramp, hcount, hramp, rfl⟩
    cases hy' with
    | inl hzero' =>
      have : pair.cadenceWaveScaled = 0 := by omega
      simp [this]
    | inr hy' =>
      rcases hy' with ⟨count', ramp', hcount', hramp', rfl⟩
      rw [← hpair.cadenceThreshold] at hramp'
      apply Nat.div_le_div_right
      apply Nat.mul_le_mul hwave
      apply cadenceRamp_le hthreshold _ hramp hramp'
      apply previewCurrentSellTradeCount_le hpair hcount hcount'

theorem easedRise_le {n n' : Nat} (h : n ≤ n') (hn : 0 < n) (hn' : n' ≤ hardWallScale) :
    saturatingMul u128Max (saturatingMul u128Max n cadenceWaveEase) hardWallScale
        / (saturatingMul u128Max n cadenceWaveEase + (hardWallScale - n))
      ≤
    saturatingMul u128Max (saturatingMul u128Max n' cadenceWaveEase) hardWallScale
        / (saturatingMul u128Max n' cadenceWaveEase + (hardWallScale - n')) := by
  rcases Nat.exists_eq_add_of_le h with ⟨d, rfl⟩
  rcases Nat.exists_eq_add_of_le hn' with ⟨r, hr⟩
  have hs : hardWallScale = 1000000000000 := rfl
  have he : cadenceWaveEase = 8 := rfl
  unfold saturatingMul
  rw [he]
  rw [Nat.min_eq_left (a := n * 8) (by unfold u128Max; omega)]
  rw [Nat.min_eq_left (a := (n + d) * 8) (by unfold u128Max; omega)]
  rw [Nat.min_eq_left (by rw [hs]; unfold u128Max; omega)]
  rw [Nat.min_eq_left (by rw [hs]; unfold u128Max; omega)]
  apply Rounding.div_le_div_of_cross (by omega) (by omega)
  have h1 : hardWallScale - n = d + r := by omega
  have h2 : hardWallScale - (n + d) = r := by omega
  rw [h1, h2]
  generalize hardWallScale = s at *
  calc
    n * 8 * s * ((n + d) * 8 + r) ≤ n * 8 * s * ((n + d) * 8 + r) + 8 * s * d * (n + d + r) := by
      omega
    _ = (n + d) * 8 * s * (n * 8 + (d + r)) := by ring

theorem cadenceWaveTargetHaircutScaled_inv
    (h : cadenceWaveTargetHaircutScaled u y = .ok haircut) :
    haircut =
      if min u hardWallScale = 0 then
        0
      else
        let n := min u hardWallScale
        let easedNumerator := saturatingMul u128Max n cadenceWaveEase
        let easedRise :=
          saturatingMul u128Max easedNumerator hardWallScale
            / (easedNumerator + (hardWallScale - n))
        min (saturatingMul u128Max easedRise y / (cadenceWaveScale * cadenceWaveCapDivisor))
          hardWallScale := by
  unfold cadenceWaveTargetHaircutScaled at h
  dsimp only at h ⊢
  split at h
  . next hzero =>
    rw [← pure_eq_ok.mp h, hzero]
    simp [saturatingMul]
  . split at h
    . next hzero =>
      rw [if_pos hzero]
      exact (pure_eq_ok.mp h).symm
    . next hzero =>
      rw [if_neg hzero]
      simp only [bind_eq_ok, okOr_eq_ok, checkedAdd_eq_some, checkedDiv_eq_some,
        checkedMul_eq_some, pure_eq_ok] at h
      rcases h with ⟨_, ⟨_, rfl⟩, _, ⟨_, rfl⟩, _, ⟨_, rfl⟩, _, ⟨_, rfl⟩, rfl⟩
      rfl

theorem cadenceWaveTargetHaircutScaled_le (hu : u ≤ u') (hy : y ≤ y')
    (h : cadenceWaveTargetHaircutScaled u y = .ok haircut)
    (h' : cadenceWaveTargetHaircutScaled u' y' = .ok haircut') : haircut ≤ haircut' := by
  rw [cadenceWaveTargetHaircutScaled_inv h, cadenceWaveTargetHaircutScaled_inv h']
  split
  . apply Nat.zero_le _
  . next hne =>
    rw [if_neg (by omega)]
    apply min_le_min_right
    apply Nat.div_le_div_right
    apply saturatingMul_le_saturatingMul _ hy
    apply easedRise_le <;> omega

end Haircut

section Curve

variable {x x' actual actual' reserve reserve' haircut haircut' out out' : Nat}

theorem sellHaircutScaled_le (hpair : pair.Harsher pair') (hx : x ≤ x') (hactual' : 0 < actual')
    (hactual : actual' ≤ actual) (hreserve' : 0 < reserve') (hreserve : reserve' ≤ reserve)
    (h : sellHaircutScaled x actual reserve pair now = .ok haircut)
    (h' : sellHaircutScaled x' actual' reserve' pair' now = .ok haircut') :
    haircut ≤ haircut' := by
  unfold sellHaircutScaled at h h'
  simp only [bind_eq_ok, pure_eq_ok] at h h'
  rcases h with ⟨liquidity, hliquidity, u, hu, base, hbase, y, hy, target, htarget, rfl⟩
  rcases h' with ⟨liquidity', hliquidity', u', hu', base', hbase', y', hy', target', htarget', rfl⟩
  have hwall := dynamicWallLiquidityAtTime_le hpair hx hactual' hactual hreserve hliquidity
    hliquidity'
  have hpos := dynamicWallLiquidityAtTime_pos hactual' hreserve' hliquidity'
  have hutilization := utilizationScaled_le hx hpos hwall hu hu'
  have hbound := (utilizationScaled_inv hpos hu').2
  rw [← hpair.curveExponentScaled] at hbase'
  have hbaseLe := redemptionHaircutScaled_le hutilization hbound hpair.curvePegHaircutBps hbase
    hbase'
  have hyLe := cadenceWaveYForQuoteScaled_le hpair hy hy'
  have htargetLe := cadenceWaveTargetHaircutScaled_le hutilization hyLe htarget htarget'
  omega

theorem applyHardWallLiquidityFactorAtTime_inv
    (h : applyHardWallLiquidityFactorAtTime x actual reserve pair now = .ok out) :
    0 < actual ∧ 0 < reserve ∧ x ≤ actual ∧
      ∃ haircut, sellHaircutScaled x actual reserve pair now = .ok haircut ∧
        out = x * (hardWallScale - haircut) / hardWallScale := by
  unfold applyHardWallLiquidityFactorAtTime at h
  simp only [bind_eq_ok, require_eq_ok, okOr_eq_ok, checkedMul_eq_some, checkedDiv_eq_some,
    pure_eq_ok] at h
  rcases h with ⟨_, hactual, _, hreserve, _, hx, haircut, hhaircut, _, ⟨_, rfl⟩, _, ⟨_, rfl⟩, _, _,
    rfl⟩
  exact ⟨hactual, hreserve, hx, haircut, hhaircut, rfl⟩

theorem applyHardWallLiquidityFactorAtTime_le_raw
    (h : applyHardWallLiquidityFactorAtTime x actual reserve pair now = .ok out) : out ≤ x := by
  rcases applyHardWallLiquidityFactorAtTime_inv h with ⟨_, _, _, haircut, _, rfl⟩
  calc
    x * (hardWallScale - haircut) / hardWallScale ≤ x * hardWallScale / hardWallScale := by
      apply Nat.div_le_div_right
      apply Nat.mul_le_mul_left
      apply Nat.sub_le _ _
    _ = x := Nat.mul_div_cancel _ (by decide)

theorem applyHardWallLiquidityFactorAtTime_le (hpair : pair.Harsher pair')
    (hactual : actual' ≤ actual) (hreserve : reserve' ≤ reserve)
    (h : applyHardWallLiquidityFactorAtTime x actual reserve pair now = .ok out)
    (h' : applyHardWallLiquidityFactorAtTime x actual' reserve' pair' now = .ok out') :
    out' ≤ out := by
  rcases applyHardWallLiquidityFactorAtTime_inv h with ⟨_, _, _, haircut, hhaircut, rfl⟩
  rcases applyHardWallLiquidityFactorAtTime_inv h' with ⟨hactual', hreserve', _, haircut',
    hhaircut', rfl⟩
  have hle := sellHaircutScaled_le hpair (Nat.le_refl x) hactual' hactual hreserve' hreserve
    hhaircut hhaircut'
  apply Nat.div_le_div_right
  apply Nat.mul_le_mul_left
  omega

theorem applyHardWallLiquidityFactorAtTime_average (hx : x ≤ x')
    (h : applyHardWallLiquidityFactorAtTime x actual reserve pair now = .ok out)
    (h' : applyHardWallLiquidityFactorAtTime x' actual reserve pair now = .ok out') :
    out' * x ≤ (out + 1) * x' := by
  rcases applyHardWallLiquidityFactorAtTime_inv h with ⟨hactual, hreserve, _, haircut, hhaircut,
    rfl⟩
  rcases applyHardWallLiquidityFactorAtTime_inv h' with ⟨_, _, _, haircut', hhaircut', rfl⟩
  have hle := sellHaircutScaled_le (.refl pair) hx hactual (Nat.le_refl _) hreserve
    (Nat.le_refl _) hhaircut hhaircut'
  have hscale : 0 < hardWallScale := by decide
  have hfactor : hardWallScale - haircut' ≤ hardWallScale - haircut := by omega
  generalize hardWallScale - haircut = factor at *
  generalize hardWallScale - haircut' = factor' at *
  apply Nat.le_of_mul_le_mul_right _ hscale
  calc
    x' * factor' / hardWallScale * x * hardWallScale
      = x' * factor' / hardWallScale * hardWallScale * x := by ring
    _ ≤ x' * factor' * x := Nat.mul_le_mul_right _ (Nat.div_mul_le_self _ _)
    _ ≤ x' * factor * x := Nat.mul_le_mul_right _ (Nat.mul_le_mul_left _ hfactor)
    _ = x * factor * x' := by ring
    _ ≤ hardWallScale * (x * factor / hardWallScale + 1) * x' :=
      Nat.mul_le_mul_right _ (Nat.le_of_lt (Nat.lt_mul_div_succ _ hscale))
    _ = (x * factor / hardWallScale + 1) * x' * hardWallScale := by ring

theorem applyHardWallLiquidityFactorAtTime_ordered (pair : PropAmmPairState) (now : Int)
    (x actual reserve : Nat) :
    let sell (pair : PropAmmPairState) : Result Nat :=
      applyHardWallLiquidityFactorAtTime x actual reserve pair now
    AntitoneOk (fun v => sell { pair with currSellValueStable := v }) ∧
    AntitoneOk (fun v => sell { pair with prevNetSellValueStable := v }) ∧
    AntitoneOk (fun v => sell { pair with currSellTradeCount := v }) ∧
    AntitoneOk (fun v => sell { pair with curvePegHaircutBps := v }) ∧
    AntitoneOk (fun v => sell { pair with cadenceWaveScaled := v }) ∧
    AntitoneOk (fun v => sell { pair with wallSensitivityScaled := v }) ∧
    MonotoneOk (fun v => sell { pair with currBuyValueStable := v }) ∧
    MonotoneOk (fun v => applyHardWallLiquidityFactorAtTime x v reserve pair now) ∧
    MonotoneOk (fun v => applyHardWallLiquidityFactorAtTime x actual v pair now) ∧
    (∀ (x₁ x₂ out₁ out₂ : Nat), 0 < x₁ → x₁ ≤ x₂ →
      applyHardWallLiquidityFactorAtTime x₁ actual reserve pair now = .ok out₁ →
      applyHardWallLiquidityFactorAtTime x₂ actual reserve pair now = .ok out₂ →
      out₂ * x₁ ≤ (out₁ + 1) * x₂) := by
  refine ⟨?_, ?_, ?_, ?_, ?_, ?_, ?_, ?_, ?_, ?_⟩
  -- the pair state gets harsher in one field
  iterate 6
    intro v v' out out' hv h h'
    apply applyHardWallLiquidityFactorAtTime_le _ (Nat.le_refl _) (Nat.le_refl _) h h'
    constructor <;> simp [hv]
  . intro v v' out out' hv h h'
    apply applyHardWallLiquidityFactorAtTime_le _ (Nat.le_refl _) (Nat.le_refl _) h' h
    constructor <;> simp [hv]
  . intro v v' out out' hv h h'
    apply applyHardWallLiquidityFactorAtTime_le (.refl pair) hv (Nat.le_refl _) h' h
  . intro v v' out out' hv h h'
    apply applyHardWallLiquidityFactorAtTime_le (.refl pair) (Nat.le_refl _) hv h' h
  . intro x₁ x₂ out₁ out₂ _ hx h h'
    apply applyHardWallLiquidityFactorAtTime_average hx h h'

theorem applyHardWallLiquidityFactorAtTime_ordered_default :
    let pair := { PropAmmPairState.default with epochStart := 1000 }
    let sold := { pair with currSellValueStable := 500000000 }
    applyHardWallLiquidityFactorAtTime 1000000000 2000000000 2000000000 pair 2000
      = .ok 930000000 ∧
    applyHardWallLiquidityFactorAtTime 1000000000 2000000000 2000000000 sold 2000
      = .ok 877715032 ∧
    877715032 ≤ 930000000 := by
  refine ⟨by decide, by decide, ?_⟩
  apply (applyHardWallLiquidityFactorAtTime_ordered
    { PropAmmPairState.default with epochStart := 1000 } 2000 1000000000 2000000000 2000000000).1
    0 500000000
  . decide
  . decide
  . decide

end Curve

end OnreApp
