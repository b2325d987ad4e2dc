import OnreApp.PropAmm.Impl.Config

/-!
The power `u ^ e` of the sell curve. `u` and the result are scaled by `hardWallScale`. Integer
exponents multiply repeatedly and saturate; the others go through `2 ^ (e * log2 u)` with
approximations of the logarithm and the exponential in Q40.
-/

namespace OnreApp

open Checked

def hardWallScale : Nat := 1000000000000

def powApproxQShift : Nat := 40

def powApproxQ : Nat := 1 <<< powApproxQShift

def powApproxLn2Q : Nat := 762123384786

def powApproxLog2EQ : Nat := 1586259972792

def log2HardWallScaleQ : Int := 43829982801540

def bpsToHardWallScale (bps : Nat) : Result Nat := do
  let scaled ← okOr (checkedMul u128Max hardWallScale bps) .mathOverflow
  okOr (checkedDiv scaled maxBasisPoints) .divByZero

def validateCurveExponentScaled (exponentScaled : Nat) : Result Unit := do
  require (exponentScaled ≤ saturatingMul u32Max curveExponentScale 10) .invalidAmount
  require (exponentScaled % curveExponentStep = 0) .invalidAmount

def mulScaledSaturating (lhs rhs : Nat) : Nat :=
  (checkedDiv (saturatingMul u128Max lhs rhs) hardWallScale).getD u128Max

def integerUtilizationPowerScaled (u exponent : Nat) : Nat :=
  (fun value => mulScaledSaturating value u)^[exponent] hardWallScale

namespace log2IntegerQ

def mantissaQ (value : Nat) : Nat :=
  -- the argument scaled into `[1, 2)`
  let shift : Int := value.log2 - powApproxQShift
  if 0 ≤ shift then value >>> shift.toNat else value <<< (-shift).toNat

def addTerm (z2 : Nat) (acc : Nat × Nat) (divisor : Nat) : Nat × Nat :=
  let term := saturatingMul u128Max acc.1 z2 >>> powApproxQShift
  (term, saturatingAdd u128Max acc.2 (term / divisor))

def fractionalQ (mantissaQ : Nat) : Nat :=
  let z :=
    saturatingMul u128Max (mantissaQ - powApproxQ) powApproxQ
      / saturatingAdd u128Max mantissaQ powApproxQ
  let z2 := saturatingMul u128Max z z >>> powApproxQShift
  let sum := ([3, 5, 7, 9, 11, 13].foldl (addTerm z2) (z, z)).2
  let lnMantissaQ := saturatingMul u128Max sum 2
  saturatingMul u128Max lnMantissaQ powApproxLog2EQ >>> powApproxQShift

end log2IntegerQ

def log2IntegerQ (value : Nat) : Int :=
  let msb : Int := value.log2
  let mantissaQ := log2IntegerQ.mantissaQ value
  saturatingAddInt i128Min i128Max
    (saturatingMulInt i128Min i128Max msb powApproxQ) (log2IntegerQ.fractionalQ mantissaQ)

def log2HardWallScaledQ (value : Nat) : Int := log2IntegerQ value - log2HardWallScaleQ

namespace exp2HardWallScaledQ

def addTerm (xQ : Nat) (acc : Nat × Nat) (divisor : Nat) : Nat × Nat :=
  let term := (saturatingMul u128Max acc.1 xQ >>> powApproxQShift) / divisor
  (term, saturatingAdd u128Max acc.2 term)

def scaled (fractionalPart : Nat) : Nat :=
  let xQ := saturatingMul u128Max fractionalPart powApproxLn2Q >>> powApproxQShift
  let expFractionQ :=
    ([1, 2, 3, 4, 5, 6, 7, 8, 9, 10].foldl (addTerm xQ) (powApproxQ, powApproxQ)).2
  saturatingMul u128Max expFractionQ hardWallScale >>> powApproxQShift

def shiftBy (scaled : Nat) (integerPart : Int) : Nat :=
  if 0 ≤ integerPart then
    let shift := truncU32 integerPart.toNat
    if 128 ≤ shift then
      u128Max
    else if u128Max >>> shift < scaled then
      u128Max
    else
      scaled <<< shift
  else
    let shift := truncU32 (-integerPart).toNat
    if 128 ≤ shift then 0 else scaled >>> shift

end exp2HardWallScaledQ

def exp2HardWallScaledQ (log2ValueQ : Int) : Nat :=
  let q : Int := powApproxQ
  let integerPart := log2ValueQ.tdiv q
  let fractionalPart := log2ValueQ.tmod q
  if fractionalPart < 0 then
    exp2HardWallScaledQ.shiftBy (exp2HardWallScaledQ.scaled (fractionalPart + q).toNat)
      (integerPart - 1)
  else
    exp2HardWallScaledQ.shiftBy (exp2HardWallScaledQ.scaled fractionalPart.toNat) integerPart

def utilizationPowerScaled (u exponentScaled : Nat) : Result Nat := do
  validateCurveExponentScaled exponentScaled
  if exponentScaled = 0 then
    return hardWallScale
  else if u = 0 then
    return 0
  else if u = hardWallScale then
    return hardWallScale
  else if exponentScaled % curveExponentScale = 0 then
    return integerUtilizationPowerScaled u (exponentScaled / curveExponentScale)
  else
    let log2UQ := log2HardWallScaledQ u
    let product ←
      okOr (checkedMulInt i128Min i128Max log2UQ exponentScaled) .mathOverflow
    let exponentiatedLogQ := product.tdiv curveExponentScale
    return exp2HardWallScaledQ exponentiatedLogQ

end OnreApp
