import OnreApp.Lib.Flagged
import OnreApp.PropAmm.Impl.Pricing

/-!
The arithmetic of the sell curve once more, with every saturating operation of the source flagged.
The volume tracker in front of the curve is not part of it.
-/

namespace OnreApp

open Checked

namespace FlaggedCurve

def mulScaledSaturating (lhs rhs : Nat) : Flagged Nat := do
  let product ← Flagged.mul u128Max lhs rhs
  return (checkedDiv product hardWallScale).getD u128Max

def integerUtilizationPowerScaled (u exponent : Nat) : Flagged Nat :=
  Flagged.iterate (fun value => mulScaledSaturating value u) exponent hardWallScale

namespace log2IntegerQ

def addTerm (z2 : Nat) (acc : Nat × Nat) (divisor : Nat) : Flagged (Nat × Nat) := do
  let product ← Flagged.mul u128Max acc.1 z2
  let term := product >>> powApproxQShift
  let sum ← Flagged.add u128Max acc.2 (term / divisor)
  return (term, sum)

def lnMantissaQ (z : Nat) : Flagged Nat := do
  let square ← Flagged.mul u128Max z z
  let acc ← [3, 5, 7, 9, 11, 13].foldlM (addTerm (square >>> powApproxQShift)) (z, z)
  Flagged.mul u128Max acc.2 2

def fractionalQ (mantissaQ : Nat) : Flagged Nat := do
  let excess ← Flagged.sub mantissaQ powApproxQ
  let numerator ← Flagged.mul u128Max excess powApproxQ
  let denominator ← Flagged.add u128Max mantissaQ powApproxQ
  let lnMantissaQ ← lnMantissaQ (numerator / denominator)
  let product ← Flagged.mul u128Max lnMantissaQ powApproxLog2EQ
  return product >>> powApproxQShift

end log2IntegerQ

def log2IntegerQ (value : Nat) : Flagged Int := do
  let fractional ← log2IntegerQ.fractionalQ (OnreApp.log2IntegerQ.mantissaQ value)
  let integer ← Flagged.mulInt i128Min i128Max value.log2 powApproxQ
  Flagged.addInt i128Min i128Max integer fractional

namespace exp2HardWallScaledQ

def addTerm (xQ : Nat) (acc : Nat × Nat) (divisor : Nat) : Flagged (Nat × Nat) := do
  let product ← Flagged.mul u128Max acc.1 xQ
  let term := (product >>> powApproxQShift) / divisor
  let sum ← Flagged.add u128Max acc.2 term
  return (term, sum)

def scaled (fractionalPart : Nat) : Flagged Nat := do
  let x ← Flagged.mul u128Max fractionalPart powApproxLn2Q
  let acc ←
    [1, 2, 3, 4, 5, 6, 7, 8, 9, 10].foldlM (addTerm (x >>> powApproxQShift))
      (powApproxQ, powApproxQ)
  let product ← Flagged.mul u128Max acc.2 hardWallScale
  return product >>> powApproxQShift

-- a shift to the right by 128 or more leaves nothing: that is its value, it does not saturate
def shiftBy (scaled : Nat) (integerPart : Int) : Flagged Nat :=
  if 0 ≤ integerPart then
    let shift := truncU32 integerPart.toNat
    if 128 ≤ shift then
      ⟨u128Max, true⟩
    else if u128Max >>> shift < scaled then
      ⟨u128Max, true⟩
    else
      pure (scaled <<< shift)
  else
    let shift := truncU32 (-integerPart).toNat
    pure (if 128 ≤ shift then 0 else scaled >>> shift)

end exp2HardWallScaledQ

def exp2HardWallScaledQ (log2ValueQ : Int) : Flagged Nat :=
  let q : Int := powApproxQ
  let integerPart := log2ValueQ.tdiv q
  let fractionalPart := log2ValueQ.tmod q
  if fractionalPart < 0 then do
    let scaled ← exp2HardWallScaledQ.scaled (fractionalPart + q).toNat
    exp2HardWallScaledQ.shiftBy scaled (integerPart - 1)
  else do
    let scaled ← exp2HardWallScaledQ.scaled fractionalPart.toNat
    exp2HardWallScaledQ.shiftBy scaled integerPart

def utilizationPowerScaled (u exponentScaled : Nat) : Result (Flagged Nat) := do
  validateCurveExponentScaled exponentScaled
  if exponentScaled = 0 then
    return pure hardWallScale
  else if u = 0 then
    return pure 0
  else if u = hardWallScale then
    return pure hardWallScale
  else if exponentScaled % curveExponentScale = 0 then
    return integerUtilizationPowerScaled u (exponentScaled / curveExponentScale)
  else
    let log2 := log2IntegerQ u
    let log2UQ := log2.value - log2HardWallScaleQ
    let product ←
      okOr (checkedMulInt i128Min i128Max log2UQ exponentScaled) .mathOverflow
    let exponentiatedLogQ := product.tdiv curveExponentScale
    return log2 >>= fun _ => exp2HardWallScaledQ exponentiatedLogQ

def redemptionHaircutScaled (u curvePegHaircutBps curveExponentScaled : Nat)
    : Result (Flagged Nat) := do
  let pegHaircut ← bpsToHardWallScale curvePegHaircutBps
  if pegHaircut = 0 then
    validateCurveExponentScaled curveExponentScaled
    return pure 0
  else
    let utilizationPower ← utilizationPowerScaled u curveExponentScaled
    let product := utilizationPower >>= Flagged.mul u128Max pegHaircut
    let curveHaircut ← okOr (checkedDiv product.value hardWallScale) .divByZero
    return product >>= fun _ => pure curveHaircut

def cadenceWaveTargetHaircutScaled (u waveYScaled : Nat) : Result (Flagged Nat) :=
  if waveYScaled = 0 then
    return pure 0
  else
    let normalized := min u hardWallScale
    if normalized = 0 then
      return pure 0
    else do
      let remaining := Flagged.sub hardWallScale normalized
      let easedNumerator := Flagged.mul u128Max normalized cadenceWaveEase
      let easedDenominator ←
        okOr (checkedAdd u128Max easedNumerator.value remaining.value) .mathOverflow
      let easedProduct := Flagged.mul u128Max easedNumerator.value hardWallScale
      let easedRise ← okOr (checkedDiv easedProduct.value easedDenominator) .divByZero
      let targetProduct := Flagged.mul u128Max easedRise waveYScaled
      let divisor ←
        okOr (checkedMul u128Max cadenceWaveScale cadenceWaveCapDivisor) .mathOverflow
      let targetHaircut ← okOr (checkedDiv targetProduct.value divisor) .divByZero
      return ⟨min targetHaircut hardWallScale,
        remaining.saturated || easedNumerator.saturated || easedProduct.saturated
          || targetProduct.saturated⟩

def sellHaircutScaled (tokenOutAmount actualLiquidity hardWallReserve : Nat)
    (pair : PropAmmPairState) (now : Int) : Result (Flagged Nat) := do
  let effectiveLiquidity ←
    dynamicWallLiquidityAtTime tokenOutAmount actualLiquidity hardWallReserve pair now
  let utilization ← utilizationScaled tokenOutAmount effectiveLiquidity
  let baseHaircut ←
    redemptionHaircutScaled utilization pair.curvePegHaircutBps pair.curveExponentScaled
  let cadenceWaveYScaled ← cadenceWaveYForQuoteScaled pair now
  let cadenceTargetHaircut ← cadenceWaveTargetHaircutScaled utilization cadenceWaveYScaled
  return baseHaircut >>= fun base => cadenceTargetHaircut >>= fun target => pure (max base target)

def liquidityFactor (haircut : Flagged Nat) : Flagged Nat :=
  haircut >>= Flagged.sub hardWallScale

end FlaggedCurve

end OnreApp
