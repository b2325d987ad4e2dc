import OnreApp.PropAmm.Impl.HardWallMath

/-!
This module contains the sell curve of the Prop AMM and the sell volume tracker it reads. A quote
looks at the tracker as if it had been rolled to the current time: the previews repeat the case
analysis of the roll.
-/

namespace OnreApp

open Checked

def rollPropAmmVolumeTracker (pair : PropAmmPairState) (now : Int) : Result PropAmmPairState := do
  let epochDuration := pair.epochDurationSeconds
  require (0 < epochDuration) .invalidAmount
  if pair.epochStart = 0 ∨ now < pair.epochStart then
    return { pair with
      epochStart := now
      prevNetSellValueStable := 0
      currSellValueStable := 0
      currBuyValueStable := 0
      currSellTradeCount := 0
    }
  else
    let elapsed ← okOr (checkedSubInt i64Min i64Max now pair.epochStart) .arithmeticUnderflow
    if saturatingMulInt i64Min i64Max epochDuration 2 ≤ elapsed then
      return { pair with
        prevNetSellValueStable := 0
        currSellValueStable := 0
        currBuyValueStable := 0
        currSellTradeCount := 0
        epochStart := now
      }
    else if epochDuration ≤ elapsed then
      return { pair with
        prevNetSellValueStable := pair.currSellValueStable - pair.currBuyValueStable
        currSellValueStable := 0
        currBuyValueStable := 0
        currSellTradeCount := 0
        epochStart := now
      }
    else
      return pair

def recordPropAmmSell (pair : PropAmmPairState) (sellValueStable : Nat) (now : Int)
    : Result PropAmmPairState := do
  let pair ← rollPropAmmVolumeTracker pair now
  let currSellValueStable ←
    okOr (checkedAdd u64Max pair.currSellValueStable sellValueStable) .mathOverflow
  let currSellTradeCount ← okOr (checkedAdd u32Max pair.currSellTradeCount 1) .mathOverflow
  return { pair with currSellValueStable, currSellTradeCount }

def recordPropAmmBuy (pair : PropAmmPairState) (buyValueStable : Nat) (now : Int)
    : Result PropAmmPairState := do
  let pair ← rollPropAmmVolumeTracker pair now
  let currBuyValueStable ←
    okOr (checkedAdd u64Max pair.currBuyValueStable buyValueStable) .mathOverflow
  return { pair with currBuyValueStable }

def previewVolumes (pair : PropAmmPairState) (now : Int) : Result (Nat × Nat × Int) := do
  -- previous net volume, current net volume and seconds into the epoch
  let currentNet := pair.currSellValueStable - pair.currBuyValueStable
  if pair.epochStart = 0 ∨ now < pair.epochStart then
    return (0, 0, 0)
  else
    let elapsed ← okOr (checkedSubInt i64Min i64Max now pair.epochStart) .arithmeticUnderflow
    if saturatingMulInt i64Min i64Max pair.epochDurationSeconds 2 ≤ elapsed then
      return (0, 0, 0)
    else if pair.epochDurationSeconds ≤ elapsed then
      return (currentNet, 0, 0)
    else
      return (pair.prevNetSellValueStable, currentNet, elapsed)

def previewEffectiveSellVolume (pair : PropAmmPairState) (currentSellValueStable : Nat) (now : Int)
    : Result Nat := do
  let epochDuration := pair.epochDurationSeconds
  require (0 < epochDuration) .invalidAmount
  let (prevNet, currNet, elapsed) ← previewVolumes pair now
  let remaining ← okOr (checkedSubInt i64Min i64Max epochDuration elapsed) .arithmeticUnderflow
  let weighted ← okOr (checkedMul u128Max prevNet remaining.toNat) .mathOverflow
  let decayedPrev ← okOr (checkedDiv weighted epochDuration.toNat) .divByZero
  let netVolume ← okOr (checkedAdd u128Max decayedPrev currNet) .mathOverflow
  let effective ← okOr (checkedAdd u128Max netVolume currentSellValueStable) .mathOverflow
  require (effective ≤ u64Max) .mathOverflow
  return effective

def previewCurrentSellTradeCount (pair : PropAmmPairState) (now : Int) : Result Nat := do
  let epochDuration := pair.epochDurationSeconds
  require (0 < epochDuration) .invalidAmount
  if pair.epochStart = 0 ∨ now < pair.epochStart then
    return 0
  else
    let elapsed ← okOr (checkedSubInt i64Min i64Max now pair.epochStart) .arithmeticUnderflow
    if epochDuration ≤ elapsed then
      return 0
    else
      return pair.currSellTradeCount

def dynamicWallPosition (actualLiquidity effectiveSellVolume wallSensitivityScaled : Nat)
    : Result Nat := do
  require (0 < actualLiquidity) .insufficientBalance
  if effectiveSellVolume = 0 then
    return actualLiquidity
  else
    let weighted ←
      okOr (checkedMul u128Max wallSensitivityScaled effectiveSellVolume) .mathOverflow
    let sensitivityComponent ← okOr (checkedDiv weighted actualLiquidity) .divByZero
    let denominator ←
      okOr (checkedAdd u128Max wallSensitivityScale sensitivityComponent) .mathOverflow
    let numerator ← okOr (checkedMul u128Max actualLiquidity wallSensitivityScale) .mathOverflow
    let wall ← okOr (checkedDiv numerator denominator) .divByZero
    require (wall ≤ u64Max) .mathOverflow
    return max wall 1

def dynamicWallLiquidityAtTime (currentSellValueStable actualLiquidity hardWallReserve : Nat)
    (pair : PropAmmPairState) (now : Int) : Result Nat :=
  if pair.wallSensitivityScaled = 0 then
    return min actualLiquidity hardWallReserve
  else do
    let effectiveSellVolume ← previewEffectiveSellVolume pair currentSellValueStable now
    if effectiveSellVolume = 0 then do
      require (0 < actualLiquidity) .insufficientBalance
      return min actualLiquidity hardWallReserve
    else
      let wallPosition ←
        dynamicWallPosition actualLiquidity effectiveSellVolume pair.wallSensitivityScaled
      return min wallPosition hardWallReserve

def redemptionHaircutScaled (u curvePegHaircutBps curveExponentScaled : Nat) : Result Nat := do
  let pegHaircut ← bpsToHardWallScale curvePegHaircutBps
  if pegHaircut = 0 then
    validateCurveExponentScaled curveExponentScaled
    return 0
  else
    let utilizationPower ← utilizationPowerScaled u curveExponentScaled
    okOr (checkedDiv (saturatingMul u128Max pegHaircut utilizationPower) hardWallScale) .divByZero

def cadenceRamp (threshold quoteTradeCount : Nat) : Result Nat :=
  if threshold ≤ quoteTradeCount then
    return cadenceWaveScale
  else do
    let weighted ← okOr (checkedMul u128Max quoteTradeCount cadenceWaveScale) .mathOverflow
    okOr (checkedDiv weighted threshold) .divByZero

def cadenceWaveYForQuoteScaled (pair : PropAmmPairState) (now : Int) : Result Nat := do
  let threshold := pair.cadenceThreshold
  require (0 < threshold) .invalidAmount
  require (pair.cadenceWaveScaled ≤ maxCadenceWaveScaled) .invalidAmount
  require (pair.cadenceWaveScaled % cadenceWaveStep = 0) .invalidAmount
  let maxWaveY := pair.cadenceWaveScaled
  if maxWaveY = 0 then
    return 0
  else
    let quoteTradeCount ← previewCurrentSellTradeCount pair now
    if quoteTradeCount = 0 then
      return 0
    else
      let ramp ← cadenceRamp threshold quoteTradeCount
      let weighted ← okOr (checkedMul u128Max maxWaveY ramp) .mathOverflow
      okOr (checkedDiv weighted cadenceWaveScale) .divByZero

def cadenceWaveTargetHaircutScaled (u waveYScaled : Nat) : Result Nat :=
  if waveYScaled = 0 then
    return 0
  else
    let normalized := min u hardWallScale
    if normalized = 0 then
      return 0
    else do
      let remaining := hardWallScale - normalized
      let easedNumerator := saturatingMul u128Max normalized cadenceWaveEase
      let easedDenominator ← okOr (checkedAdd u128Max easedNumerator remaining) .mathOverflow
      let easedRise ←
        okOr (checkedDiv (saturatingMul u128Max easedNumerator hardWallScale) easedDenominator)
          .divByZero
      let divisor ←
        okOr (checkedMul u128Max cadenceWaveScale cadenceWaveCapDivisor) .mathOverflow
      let targetHaircut ←
        okOr (checkedDiv (saturatingMul u128Max easedRise waveYScaled) divisor) .divByZero
      return min targetHaircut hardWallScale

def utilizationScaled (tokenOutAmount effectiveLiquidity : Nat) : Result Nat :=
  if tokenOutAmount = 0 then
    return 0
  else if tokenOutAmount = effectiveLiquidity then
    return hardWallScale
  else do
    let weighted ← okOr (checkedMul u128Max tokenOutAmount hardWallScale) .mathOverflow
    okOr (checkedDiv weighted effectiveLiquidity) .divByZero

def sellHaircutScaled (tokenOutAmount actualLiquidity hardWallReserve : Nat)
    (pair : PropAmmPairState) (now : Int) : Result Nat := do
  let effectiveLiquidity ←
    dynamicWallLiquidityAtTime tokenOutAmount actualLiquidity hardWallReserve pair now
  let utilization ← utilizationScaled tokenOutAmount effectiveLiquidity
  let baseHaircut ←
    redemptionHaircutScaled utilization pair.curvePegHaircutBps pair.curveExponentScaled
  let cadenceWaveYScaled ← cadenceWaveYForQuoteScaled pair now
  let cadenceTargetHaircut ← cadenceWaveTargetHaircutScaled utilization cadenceWaveYScaled
  return max baseHaircut cadenceTargetHaircut

def applyHardWallLiquidityFactorAtTime (tokenOutAmount actualLiquidity hardWallReserve : Nat)
    (pair : PropAmmPairState) (now : Int) : Result Nat := do
  require (0 < actualLiquidity) .insufficientBalance
  require (0 < hardWallReserve) .insufficientBalance
  require (tokenOutAmount ≤ actualLiquidity) .insufficientBalance
  let haircut ← sellHaircutScaled tokenOutAmount actualLiquidity hardWallReserve pair now
  let liquidityFactor := hardWallScale - haircut
  let weighted ← okOr (checkedMul u128Max tokenOutAmount liquidityFactor) .mathOverflow
  let dampenedAmount ← okOr (checkedDiv weighted hardWallScale) .divByZero
  require (dampenedAmount ≤ u64Max) .mathOverflow
  return dampenedAmount

end OnreApp
