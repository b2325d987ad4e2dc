import OnreApp.Offer.Impl.OfferState

namespace OnreApp

open Checked

def makeOffer (tokenInMint tokenOutMint : Pubkey) (feeBasisPoints : Nat)
    (needsApproval allowPermissionless : Bool) : Result Offer := do
  require (feeBasisPoints ≤ maxAllowedFeeBps) .invalidFee
  return {
    tokenInMint
    tokenOutMint
    vectors := Vector.replicate maxVectors OfferVector.default
    feeBasisPoints
    needsApproval
    allowPermissionless
    disabled := false
    feeBasisPointsPermissionless := 0
  }

structure VectorArgs where
  startTimeOpt : Option Nat
  baseTime : Nat
  basePrice : Nat
  apr : Nat
  priceFixDuration : Nat
  deriving DecidableEq, Repr

def VectorArgs.startTime (args : VectorArgs) (currentTime : Nat) : Nat :=
  args.startTimeOpt.getD (max currentTime args.baseTime)

def VectorArgs.vector (args : VectorArgs) (currentTime : Nat) : OfferVector where
  startTime := args.startTime currentTime
  baseTime := args.baseTime
  basePrice := args.basePrice
  apr := args.apr
  priceFixDuration := args.priceFixDuration

def Offer.existingStartTimes (offer : Offer) : List Nat :=
  (offer.vectors.toList.filter fun vector => vector.startTime ≠ 0).map OfferVector.startTime

def validateInputs (startTime baseTime basePrice priceFixDuration currentTime : Nat)
    (offer : Offer) : Result Unit := do
  require (currentTime ≤ startTime) .startTimeInPast
  require (0 < baseTime) .zeroValue
  require (0 < basePrice) .zeroValue
  require (0 < priceFixDuration) .zeroValue
  require (startTime ∉ offer.existingStartTimes) .duplicateStartTime
  match offer.existingStartTimes.max? with
  | some latestStartTime => require (latestStartTime < startTime) .invalidTimeRange
  | none => return ()

def Offer.evict (offer : Offer) (activeVectorStartTime prevVectorStartTime : Nat) : Offer :=
  { offer with
    vectors := offer.vectors.map fun vector =>
      if vector.startTime ≠ 0 ∧ vector.startTime ≠ activeVectorStartTime ∧
          vector.startTime ≠ prevVectorStartTime ∧ vector.startTime < activeVectorStartTime then
        OfferVector.default
      else
        vector
  }

def cleanOldVectors (offer : Offer) (newVector : OfferVector) (currentTime : Nat)
    : Result Offer :=
  let activeVector :=
    if newVector.startTime = currentTime then
      some newVector
    else
      OfferVector.findActive offer.vectors.toList currentTime
  match activeVector with
  | none => return offer
  | some activeVector => do
    let before ← orPanic (checkedSub activeVector.startTime 1)
    let prevVectorStartTime :=
      match OfferVector.findActive offer.vectors.toList before with
      | some vector => vector.startTime
      | none => 0
    return offer.evict activeVector.startTime prevVectorStartTime

def addOfferVector (offer : Offer) (args : VectorArgs) (currentTime : Nat) : Result Offer := do
  let startTime := args.startTime currentTime
  validateInputs startTime args.baseTime args.basePrice args.priceFixDuration currentTime offer
  let newVector := args.vector currentTime
  let offer ← cleanOldVectors offer newVector currentTime
  let emptySlotIndex ← okOr (findVectorIndexByStartTime offer 0) .tooManyVectors
  return { offer with vectors := offer.vectors.set emptySlotIndex newVector emptySlotIndex.isLt }

def deleteOfferVector (offer : Offer) (vectorStartTime now : Nat) : Result Offer := do
  require (now < vectorStartTime) .startTimeInPast
  let vectorIndex ← okOr (findVectorIndexByStartTime offer vectorStartTime) .vectorNotFound
  return { offer with vectors := offer.vectors.set vectorIndex OfferVector.default vectorIndex.isLt }

def deleteAllOfferVectors (offer : Offer) : Offer :=
  { offer with
    vectors := offer.vectors.map fun vector =>
      if vector.startTime ≠ 0 then OfferVector.default else vector
  }

inductive VectorCall where
  | add (args : VectorArgs)
  | delete (vectorStartTime : Nat)
  | deleteAll
  deriving DecidableEq, Repr

def Offer.call (offer : Offer) (now : Nat) : VectorCall → Result Offer
  | .add args => addOfferVector offer args now
  | .delete vectorStartTime => deleteOfferVector offer vectorStartTime now
  | .deleteAll => return deleteAllOfferVectors offer

end OnreApp
