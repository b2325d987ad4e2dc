import OnreApp.Basic
import OnreApp.Lib.MaxByKey

/-!
Offers and their pricing vectors. A slot whose start time is 0 is empty. The lookups only look at
the vectors, so they are stated over any list of them.
-/

namespace OnreApp

open Checked MaxByKey

structure OfferVector where
  startTime : Nat
  baseTime : Nat
  basePrice : Nat
  apr : Nat
  priceFixDuration : Nat
  deriving DecidableEq, Repr

def OfferVector.default : OfferVector where
  startTime := 0
  baseTime := 0
  basePrice := 0
  apr := 0
  priceFixDuration := 0

structure Offer where
  tokenInMint : Pubkey
  tokenOutMint : Pubkey
  vectors : Vector OfferVector maxVectors
  feeBasisPoints : Nat
  needsApproval : Bool
  allowPermissionless : Bool
  disabled : Bool
  feeBasisPointsPermissionless : Nat
  deriving DecidableEq

def Offer.requireEnabled (offer : Offer) : Result Unit :=
  require (offer.disabled = false) .offerDisabled

def Offer.requireMints (offer : Offer) (tokenInMint tokenOutMint : Pubkey) : Result Unit := do
  require (offer.tokenInMint = tokenInMint) .invalidTokenInMint
  require (offer.tokenOutMint = tokenOutMint) .invalidTokenOutMint

namespace OfferVector

def findActive (vectors : List OfferVector) (time : Nat) : Option OfferVector :=
  maxByKey startTime (vectors.filter fun vector => vector.startTime ≠ 0 ∧ vector.startTime ≤ time)

def findNext (vectors : List OfferVector) (currentTime : Nat) : Option OfferVector :=
  minByKey startTime (vectors.filter fun vector => currentTime < vector.startTime)

def findPrevious (vectors : List OfferVector) (currentVectorStartTime : Nat)
    : Option OfferVector :=
  maxByKey startTime
    (vectors.filter fun vector =>
      vector.startTime ≠ 0 ∧ vector.startTime < currentVectorStartTime)

end OfferVector

def findActiveVectorAt (offer : Offer) (time : Nat) : Result OfferVector :=
  okOr (OfferVector.findActive offer.vectors.toList time) .noActiveVector

def findNextVectorAfter (offer : Offer) (currentTime : Nat) : Option OfferVector :=
  OfferVector.findNext offer.vectors.toList currentTime

def findPreviousVector (offer : Offer) (currentVectorStartTime : Nat) : Option OfferVector :=
  OfferVector.findPrevious offer.vectors.toList currentVectorStartTime

def findVectorIndexByStartTime (offer : Offer) (startTime : Nat) : Option (Fin maxVectors) :=
  (List.finRange maxVectors).find? fun i => offer.vectors[i].startTime = startTime

end OnreApp
