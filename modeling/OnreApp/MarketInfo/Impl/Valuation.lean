import OnreApp.Offer.Impl.OfferUtils

namespace OnreApp

open Checked

def getActiveVectorAndCurrentPrice (offer : Offer) (currentTime : Nat)
    : Result (OfferVector × Nat) := do
  let activeVector ← findActiveVectorAt offer currentTime
  let currentPrice ← calculateStepPriceAt activeVector.apr activeVector.basePrice
    activeVector.baseTime activeVector.priceFixDuration currentTime
  return (activeVector, currentPrice)

def computeNextPriceChangeTimestamp (offer : Offer) (activeVector : OfferVector)
    (currentTime : Nat) : Result Nat := do
  let elapsedSinceBase := currentTime - activeVector.baseTime
  let currentStep ← orPanic (checkedDiv elapsedSinceBase activeVector.priceFixDuration)
  let nextStep ← orPanic (checkedAdd u64Max currentStep 1)
  let stepEnd ← okOr (checkedMul u64Max nextStep activeVector.priceFixDuration) .overflowError
  let nextIntervalTimestamp ←
    okOr (checkedAdd u64Max activeVector.baseTime stepEnd) .overflowError
  match findNextVectorAfter offer currentTime with
  | some vector => return min nextIntervalTimestamp vector.startTime
  | none => return nextIntervalTimestamp

structure OfferValuationSnapshot where
  activeVector : OfferVector
  currentPrice : Nat
  nextPriceChangeTimestamp : Nat
  deriving DecidableEq, Repr

def getOfferValuationSnapshot (offer : Offer) (currentTime : Nat)
    : Result OfferValuationSnapshot := do
  let (activeVector, currentPrice) ← getActiveVectorAndCurrentPrice offer currentTime
  let nextPriceChangeTimestamp ←
    computeNextPriceChangeTimestamp offer activeVector currentTime
  return { activeVector, currentPrice, nextPriceChangeTimestamp }

def computeOfferCurrentPrice (offer : Offer) (currentTime : Nat) : Result Nat := do
  let (_, currentPrice) ← getActiveVectorAndCurrentPrice offer currentTime
  return currentPrice

def computeVectorPriceAtTime (vector : OfferVector) (atTime : Nat) : Result Nat :=
  calculateStepPriceAt vector.apr vector.basePrice vector.baseTime vector.priceFixDuration atTime

def tryFromI64 (a : Int) : Option Int := if i64Min ≤ a ∧ a ≤ i64Max then some a else none

def computeSignedPriceDelta (currentPrice previousPrice : Nat) : Result Int := do
  let delta ← okOr (checkedSubInt i128Min i128Max currentPrice previousPrice) .overflowError
  okOr (tryFromI64 delta) .overflowError

structure NavAdjustmentSnapshot where
  currentPrice : Nat
  previousPrice : Option Nat
  adjustment : Int
  deriving DecidableEq, Repr

def getNavAdjustmentSnapshot (offer : Offer) (activeVector : OfferVector)
    : Result NavAdjustmentSnapshot := do
  let currentPrice ← computeVectorPriceAtTime activeVector activeVector.startTime
  match findPreviousVector offer activeVector.startTime with
  | some previousVector =>
    let previousPrice ← computeVectorPriceAtTime previousVector activeVector.startTime
    let adjustment ← computeSignedPriceDelta currentPrice previousPrice
    return { currentPrice, previousPrice := some previousPrice, adjustment }
  | none =>
    let adjustment ← okOr (tryFromI64 currentPrice) .overflowError
    return { currentPrice, previousPrice := none, adjustment }

def extScale : Nat := 1000000

def compoundingPeriods : Nat := 365

def calculateApyFromApr (aprScaled : Nat) : Result Nat := do
  let num ← okOr (checkedMul u128Max intScale aprScaled) .overflow
  let den ← okOr (checkedMul u128Max extScale compoundingPeriods) .overflow
  let adjusted ← okOr (checkedAdd u128Max num (den / 2)) .overflow
  let incr ← okOr (checkedDiv adjusted den) .divByZero
  let base ← okOr (checkedAdd u128Max intScale incr) .overflow
  let pow ← okOr (powFixed base compoundingPeriods intScale) .overflow
  let apyInt ← okOr (checkedSub pow intScale) .overflow
  let apyScaled ← okOr (mulDivRoundU128 apyInt extScale intScale) .overflow
  require (apyScaled ≤ u64Max) .overflow
  return apyScaled

def calculateNavAdjustment (offer : Offer) (activeVector : OfferVector) : Result Int := do
  let snapshot ← mapErr (getNavAdjustmentSnapshot offer activeVector) (.onre .overflow)
  return snapshot.adjustment

def calculateTvl (circulatingSupply nav : Nat) : Result Nat :=
  okOr (do
    let result ← checkedMul u128Max circulatingSupply nav
    let scaled ← checkedDiv result (10 ^ priceDecimals)
    tryFrom u64Max scaled) .overflow

def calculateCirculatingSupply (totalSupply excludedSupply : Nat) : Result Nat :=
  okOr (checkedSub totalSupply excludedSupply) .arithmeticUnderflow

structure MarketStats where
  apy : Nat
  circulatingSupply : Nat
  nav : Nat
  navAdjustment : Int
  tvl : Nat
  lastUpdatedAt : Int
  lastUpdatedSlot : Nat
  deriving DecidableEq, Repr

structure MarketStatsSnapshot where
  apy : Nat
  circulatingSupply : Nat
  nav : Nat
  navAdjustment : Int
  tvl : Nat
  deriving DecidableEq, Repr

def recomputeMarketStats (clock : Clock) (offer : Offer) (onycMint : MintAccount)
    (excludedBalanceAmount : Nat) : Result MarketStatsSnapshot := do
  require (onycMint.tokenProgram = .splToken) .invalidTokenProgram
  require (offer.tokenOutMint = onycMint.key) .invalidOnycMint
  let (activeVector, nav) ← getActiveVectorAndCurrentPrice offer clock.time
  let apy ← calculateApyFromApr activeVector.apr
  let navAdjustment ← calculateNavAdjustment offer activeVector
  let circulatingSupply ← calculateCirculatingSupply onycMint.supply excludedBalanceAmount
  let tvl ← calculateTvl circulatingSupply nav
  return { apy, circulatingSupply, nav, navAdjustment, tvl }

def applyMarketStatsSnapshot (snapshot : MarketStatsSnapshot) (clock : Clock) : MarketStats where
  apy := snapshot.apy
  circulatingSupply := snapshot.circulatingSupply
  nav := snapshot.nav
  navAdjustment := snapshot.navAdjustment
  tvl := snapshot.tvl
  lastUpdatedAt := clock.unixTimestamp
  lastUpdatedSlot := clock.slot

end OnreApp
