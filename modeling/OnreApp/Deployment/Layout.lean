import OnreApp.Deployment
import OnreApp.Lib.Layout
import OnreApp.Lib.LittleEndian
import OnreApp.PropAmm.Impl.Quote
import OnreApp.Utils.Impl.Approver

/-!
The bytes of the accounts clients read, field by field in the order of declaration. An account
starts with its discriminator. The offers are mapped into memory instead of being serialized, which
leaves no gaps either, as their fields happen to be aligned.
-/

namespace OnreApp

open LittleEndian

structure AccountFrame where
  discriminator : Vector UInt8 8
  bump : UInt8
  reserved : Bytes
  deriving DecidableEq

def boolByte (b : Bool) : UInt8 := if b then 1 else 0

variable (address : Pubkey → PubkeyBytes) (frame : AccountFrame)

def Deployment.stateFields (d : Deployment) : List Bytes := [
  frame.discriminator.toList,
  (address d.boss).toList,
  (address d.governance.proposedBoss).toList,
  [boolByte d.world.state.isKilled],
  (address d.world.state.onycMint).toList,
  d.governance.admins.toList.flatMap fun admin => (address admin).toList,
  (address d.governance.approver1).toList,
  (address d.governance.approver2).toList,
  [frame.bump],
  encode 8 d.world.state.maxSupply,
  (address d.world.state.worker).toList,
  encode 8 d.world.state.maxMintAmount,
  (address d.world.state.mainOffer).toList,
  frame.reserved
]

def OfferVector.fields (vector : OfferVector) : List Bytes := [
  encode 8 vector.startTime,
  encode 8 vector.baseTime,
  encode 8 vector.basePrice,
  encode 8 vector.apr,
  encode 8 vector.priceFixDuration
]

def Offer.fields (offer : Offer) : List Bytes := [
  frame.discriminator.toList,
  (address offer.tokenInMint).toList,
  (address offer.tokenOutMint).toList,
  offer.vectors.toList.flatMap fun vector => Layout.bytes vector.fields,
  encode 2 offer.feeBasisPoints,
  [frame.bump],
  [boolByte offer.needsApproval],
  [boolByte offer.allowPermissionless],
  [boolByte offer.disabled],
  encode 2 offer.feeBasisPointsPermissionless,
  frame.reserved
]

def RedemptionOffer.fields (redemptionOffer : RedemptionOffer) : List Bytes := [
  frame.discriminator.toList,
  (address redemptionOffer.offer).toList,
  (address redemptionOffer.tokenInMint).toList,
  (address redemptionOffer.tokenOutMint).toList,
  encode 16 redemptionOffer.executedRedemptions,
  encode 16 redemptionOffer.requestedRedemptions,
  encode 2 redemptionOffer.feeBasisPoints,
  encode 8 redemptionOffer.requestCounter,
  [frame.bump],
  encode 2 redemptionOffer.vaultTargetBps,
  [boolByte redemptionOffer.disabled],
  encode 2 redemptionOffer.feeBasisPointsPropAmmSell,
  frame.reserved
]

def RedemptionRequest.fields (request : RedemptionRequest) : List Bytes := [
  frame.discriminator.toList,
  (address request.offer).toList,
  encode 8 request.requestId,
  (address request.redeemer).toList,
  encode 8 request.amount,
  [frame.bump],
  encode 8 request.fulfilledAmount,
  frame.reserved
]

def ConfigurableVault.fields (vault : ConfigurableVault) : List Bytes := [
  frame.discriminator.toList,
  encode 1 vault.kind,
  (address vault.withdrawalDestination).toList,
  [frame.bump],
  frame.reserved
]

/-- The return data of a quote. The time is signed, in two's complement. -/
def SwapQuote.fields (quote : SwapQuote) : List Bytes := [
  (address quote.offer).toList,
  (address quote.tokenInMint).toList,
  (address quote.tokenOutMint).toList,
  encode 8 quote.tokenInAmount,
  encode 8 quote.tokenInNetAmount,
  encode 8 quote.tokenInFeeAmount,
  encode 8 quote.tokenOutAmount,
  encode 8 quote.minimumOut,
  encode 8 quote.currentPrice,
  encode 8 (quote.quotedAt % 2 ^ 64).toNat
]

end OnreApp
