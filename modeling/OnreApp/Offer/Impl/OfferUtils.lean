import OnreApp.Offer.Impl.OfferState
import OnreApp.Utils.Impl.TokenUtils

namespace OnreApp

open Checked

def intScale : Nat := 1000000000000000000

def secondsInDay : Nat := 86400

def aprScale : Nat := 1000000

def dailyFactor (apr : Nat) : Result Nat := do
  let scaled ← okOr (checkedMul u128Max intScale apr) .overflowError
  let adjusted ← okOr (checkedAdd u128Max scaled (aprScale * 365 / 2)) .overflowError
  let dailyIncrement ← okOr (checkedDiv adjusted (aprScale * 365)) .overflowError
  okOr (checkedAdd u128Max intScale dailyIncrement) .overflowError

def calculateVectorPrice (apr basePrice elapsedTime : Nat) : Result Nat :=
  if apr = 0 ∨ elapsedTime = 0 then
    return basePrice
  else do
    let dailyFactor ← dailyFactor apr
    let fullDays := elapsedTime / secondsInDay
    let remainingSeconds := elapsedTime % secondsInDay
    let fullDayFactor ← okOr (powFixed dailyFactor fullDays intScale) .overflowError
    let fullDayPrice ← okOr (mulDivRoundU128 basePrice fullDayFactor intScale) .overflowError
    if remainingSeconds = 0 then
      require (fullDayPrice ≤ u64Max) .overflowError
      return fullDayPrice
    else
      let nextDayPrice ← okOr (mulDivRoundU128 fullDayPrice dailyFactor intScale) .overflowError
      let dailyDelta ← okOr (checkedSub nextDayPrice fullDayPrice) .overflowError
      let partialDayDelta ←
        okOr (mulDivRoundU128 dailyDelta remainingSeconds secondsInDay) .overflowError
      let price ← okOr (checkedAdd u128Max fullDayPrice partialDayDelta) .overflowError
      require (price ≤ u64Max) .overflowError
      return price

def calculateStepPriceAt (apr basePrice baseTime priceFixDuration time : Nat) : Result Nat := do
  require (baseTime ≤ time) .noActiveVector
  let elapsedSinceStart := time - baseTime
  let currentStep ← orPanic (checkedDiv elapsedSinceStart priceFixDuration)
  let nextStep ← okOr (checkedAdd u64Max currentStep 1) .overflowError
  let stepEndTime ← okOr (checkedMul u64Max nextStep priceFixDuration) .overflowError
  calculateVectorPrice apr basePrice stepEndTime

def calculateCurrentStepPrice (clock : Clock) (apr basePrice baseTime priceFixDuration : Nat)
    : Result Nat :=
  calculateStepPriceAt apr basePrice baseTime priceFixDuration clock.time

structure OfferProcessResult where
  currentPrice : Nat
  tokenInNetAmount : Nat
  tokenInFeeAmount : Nat
  tokenOutAmount : Nat
  deriving DecidableEq, Repr

def processOfferCoreAt (clock : Clock) (offer : Offer) (tokenInAmount : Nat)
    (tokenInMintKey : Pubkey) (tokenInDecimals : Nat) (tokenOutMintKey : Pubkey)
    (tokenOutDecimals currentTime feeBasisPoints : Nat) : Result OfferProcessResult := do
  require (0 < tokenInAmount) .invalidAmount
  offer.requireMints tokenInMintKey tokenOutMintKey
  let activeVector ← findActiveVectorAt offer currentTime
  let currentPrice ← calculateCurrentStepPrice clock activeVector.apr activeVector.basePrice
    activeVector.baseTime activeVector.priceFixDuration
  let feeAmounts ← calculateFees tokenInAmount feeBasisPoints
  let tokenOutAmount ← calculateTokenOutAmount feeAmounts.tokenInNetAmount currentPrice
    tokenInDecimals tokenOutDecimals
  return {
    currentPrice
    tokenInNetAmount := feeAmounts.tokenInNetAmount
    tokenInFeeAmount := feeAmounts.tokenInFeeAmount
    tokenOutAmount
  }

def processOfferCore (clock : Clock) (offer : Offer) (tokenInAmount : Nat)
    (tokenInMint tokenOutMint : MintAccount) (feeBasisPoints : Nat) : Result OfferProcessResult :=
  processOfferCoreAt clock offer tokenInAmount tokenInMint.key tokenInMint.decimals
    tokenOutMint.key tokenOutMint.decimals clock.time feeBasisPoints

section ForTest

def offerForTest (tokenInMint tokenOutMint : Pubkey) (feeBasisPoints : Nat) (vector : OfferVector)
    : Offer where
  tokenInMint := tokenInMint
  tokenOutMint := tokenOutMint
  vectors := (Vector.replicate maxVectors OfferVector.default).set 0 vector
  feeBasisPoints := feeBasisPoints
  needsApproval := false
  allowPermissionless := false
  disabled := false
  feeBasisPointsPermissionless := 0

def activeVectorForTest : OfferVector where
  startTime := 1
  baseTime := 1
  basePrice := 1000000000
  apr := 0
  priceFixDuration := secondsInDay

end ForTest

end OnreApp
