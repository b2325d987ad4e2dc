import OnreApp.Basic

namespace OnreApp

open Checked

structure RedemptionOffer where
  offer : Pubkey
  tokenInMint : Pubkey
  tokenOutMint : Pubkey
  executedRedemptions : Nat
  requestedRedemptions : Nat
  feeBasisPoints : Nat
  requestCounter : Nat
  vaultTargetBps : Nat
  disabled : Bool
  feeBasisPointsPropAmmSell : Nat
  deriving DecidableEq, Repr

structure RedemptionRequest where
  offer : Pubkey
  requestId : Nat
  redeemer : Pubkey
  amount : Nat
  fulfilledAmount : Nat
  deriving DecidableEq, Repr

inductive RedemptionEvent where
  | requestCreated (redemptionRequestPda redemptionOfferPda redeemer : Pubkey) (amount id : Nat)
  | requestFulfilled (redemptionRequestPda redemptionOfferPda redeemer : Pubkey)
      (tokenInNetAmount tokenInFeeAmount tokenOutAmount currentPrice fulfilledAmount
        totalFulfilledAmount : Nat) (isFullyFulfilled : Bool)
  | requestCancelled (redemptionRequestPda redemptionOffer redeemer : Pubkey)
      (originalAmount returnedAmount : Nat) (cancelledBy : Pubkey)
  deriving DecidableEq, Repr

def RedemptionOffer.requireEnabled (redemptionOffer : RedemptionOffer) : Result Unit :=
  require (redemptionOffer.disabled = false) .redemptionOfferDisabled

def loadOptionalCheckedRedemptionOffer (account : Option RedemptionOffer)
    (offerKey tokenInMint tokenOutMint : Pubkey) : Result (Option RedemptionOffer) :=
  match account with
  | none => return none
  | some redemptionOffer => do
    require (redemptionOffer.offer = offerKey) .invalidRedemptionOffer
    require (redemptionOffer.tokenInMint = tokenInMint) .invalidRedemptionOffer
    require (redemptionOffer.tokenOutMint = tokenOutMint) .invalidRedemptionOffer
    return some redemptionOffer

end OnreApp
