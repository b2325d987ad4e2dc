import OnreApp.Basic

namespace OnreApp

open Checked

def secondsPerYear : Nat := 31536000

def yieldScale : Nat := 1000000

def maxBufferGrossApr : Nat := 1000000

def basisPointsScale : Nat := maxBasisPoints

def basisPointToYieldScale : Nat := yieldScale / basisPointsScale

structure BufferState where
  onycMint : Pubkey
  grossApr : Nat
  previousSupply : Nat
  managementFeeBasisPoints : Nat
  performanceFeeBasisPoints : Nat
  performanceFeeHighWatermark : Nat
  performanceFeeHighWatermarkEnabled : Bool
  lastAccrualTimestamp : Int
  deriving DecidableEq, Repr

structure BufferAccrualBreakdown where
  bufferMintAmount : Nat
  reserveMintAmount : Nat
  managementFeeMintAmount : Nat
  performanceFeeMintAmount : Nat
  newPerformanceFeeHighWatermark : Nat
  deriving DecidableEq, Repr

def calculateAccrualFromAprDelta (previousSupply aprDelta currentYield secondsElapsed : Nat)
    : Result Nat :=
  if aprDelta = 0 ∨ previousSupply = 0 ∨ secondsElapsed = 0 then
    return 0
  else do
    let targetNavGrowthDenominator ← okOr (do
      let year ← checkedMul u128Max secondsPerYear yieldScale
      let growth ← checkedMul u128Max currentYield secondsElapsed
      checkedAdd u128Max year growth) .mathOverflow
    let numerator ← okOr (do
      let weighted ← checkedMul u128Max previousSupply aprDelta
      checkedMul u128Max weighted secondsElapsed) .mathOverflow
    let mintAmount ← okOr (checkedDiv numerator targetNavGrowthDenominator) .mathOverflow
    require (mintAmount ≤ u64Max) .resultOverflow
    return mintAmount

def calculateGrossBufferAccrual (previousSupply grossYield currentYield secondsElapsed : Nat)
    : Result Nat :=
  calculateAccrualFromAprDelta previousSupply (grossYield - currentYield) currentYield
    secondsElapsed

namespace calculateBufferFeeSplit

def managementFee (bufferMintAmount aprDelta managementFeeBasisPoints : Nat) : Result Nat :=
  if aprDelta = 0 ∨ bufferMintAmount = 0 then
    return 0
  else do
    let managementFeeApr ←
      okOr (checkedMul u64Max managementFeeBasisPoints basisPointToYieldScale) .mathOverflow
    let weighted ←
      okOr (checkedMul u128Max bufferMintAmount (min managementFeeApr aprDelta)) .mathOverflow
    let fee ← okOr (checkedDiv weighted aprDelta) .mathOverflow
    require (fee ≤ u64Max) .resultOverflow
    return fee

def performanceFee (bufferMintAmountAfterManagement performanceFeeBasisPoints currentNav
    performanceFeeHighWatermark : Nat) (performanceFeeHighWatermarkEnabled : Bool) : Result Nat :=
  if performanceFeeHighWatermarkEnabled = false ∨
      performanceFeeHighWatermark ≠ 0 ∧ performanceFeeHighWatermark ≤ currentNav then do
    let weighted ←
      okOr (checkedMul u128Max bufferMintAmountAfterManagement performanceFeeBasisPoints)
        .mathOverflow
    let fee ← okOr (checkedDiv weighted basisPointsScale) .mathOverflow
    require (fee ≤ u64Max) .resultOverflow
    return fee
  else
    return 0

end calculateBufferFeeSplit

def calculateBufferFeeSplit (bufferMintAmount aprDelta managementFeeBasisPoints
    performanceFeeBasisPoints currentNav performanceFeeHighWatermark : Nat)
    (performanceFeeHighWatermarkEnabled : Bool) : Result BufferAccrualBreakdown := do
  let managementFeeMintAmount ←
    calculateBufferFeeSplit.managementFee bufferMintAmount aprDelta managementFeeBasisPoints
  let bufferMintAmountAfterManagement ←
    okOr (checkedSub bufferMintAmount managementFeeMintAmount) .mathOverflow
  let performanceFeeMintAmount ←
    calculateBufferFeeSplit.performanceFee bufferMintAmountAfterManagement
      performanceFeeBasisPoints currentNav performanceFeeHighWatermark
      performanceFeeHighWatermarkEnabled
  let reserveMintAmount ←
    okOr (checkedSub bufferMintAmountAfterManagement performanceFeeMintAmount) .mathOverflow
  return {
    bufferMintAmount
    reserveMintAmount
    managementFeeMintAmount
    performanceFeeMintAmount
    newPerformanceFeeHighWatermark := max performanceFeeHighWatermark currentNav
  }

end OnreApp
