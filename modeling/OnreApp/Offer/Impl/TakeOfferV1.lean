import OnreApp.Offer.Impl.TakeOffer

namespace OnreApp

open Checked

structure TakeOfferV1Args where
  user : Signer
  tokenInMint : Pubkey
  tokenOutMint : Pubkey
  tokenInAmount : Nat
  deriving DecidableEq, Repr

def takeOffer.opsParams (state : State) (source destination : Pubkey)
    (tokenInMint tokenOutMint : MintAccount) (result : OfferProcessResult)
    : ExecTokenOpsParams where
  tokenInMint := tokenInMint
  tokenInNetAmount := result.tokenInNetAmount
  tokenInFeeAmount := result.tokenInFeeAmount
  tokenInSourceAccount := source
  tokenInDestinationAccount := state.boss
  tokenInRefillDestinationAccount := none
  tokenInRefillAmount := 0
  tokenInFeeDestinationAccount := state.boss
  tokenInBurnAccount := .offerVaultAuthority
  tokenOutMint := tokenOutMint
  tokenOutAmount := result.tokenOutAmount
  tokenOutSourceAccount := .offerVaultAuthority
  tokenOutDestinationAccount := destination
  tokenOutMaxSupply := state.maxSupply
  tokenOutMaxMintAmount := state.maxMintAmount

def takeOffer (clock : Clock) (w : World) (args : TakeOfferV1Args)
    (approvalMessage : Option (Result Unit)) : Result World := do
  let offer ← World.load (w.offers (.offer args.tokenInMint args.tokenOutMint))
  w.requireNotKilled
  let tokenInMint ← w.loadMint args.tokenInMint
  let tokenOutMint ← w.loadMint args.tokenOutMint
  offer.requireMints tokenInMint.key tokenOutMint.key
  offer.requireEnabled
  verifyOfferApproval offer approvalMessage
  let result ← processOfferCore clock offer args.tokenInAmount tokenInMint tokenOutMint
    offer.feeBasisPoints
  let ledger ← executeTokenOperations w.ledger
    (takeOffer.opsParams w.state args.user.key args.user.key tokenInMint tokenOutMint result)
  return { w with ledger }

def takeOfferPermissionless (clock : Clock) (w : World) (args : TakeOfferV1Args)
    : Result World := do
  let offer ← World.load (w.offers (.offer args.tokenInMint args.tokenOutMint))
  w.requireNotKilled
  let tokenInMint ← w.loadMint args.tokenInMint
  let tokenOutMint ← w.loadMint args.tokenOutMint
  offer.requireEnabled
  offer.requireMints tokenInMint.key tokenOutMint.key
  require (offer.allowPermissionless = true) .permissionlessNotAllowed
  let result ← processOfferCore clock offer args.tokenInAmount tokenInMint tokenOutMint
    offer.feeBasisPoints
  let ledger ← transferTokens w.ledger tokenInMint args.user.key .permissionlessAuthority
    args.tokenInAmount
  let ledger ← executeTokenOperations ledger
    (takeOffer.opsParams w.state .permissionlessAuthority .permissionlessAuthority tokenInMint
      tokenOutMint result)
  let ledger ← transferTokens ledger tokenOutMint .permissionlessAuthority args.user.key
    result.tokenOutAmount
  return { w with ledger }

end OnreApp
