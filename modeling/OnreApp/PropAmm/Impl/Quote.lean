import OnreApp.PropAmm.Impl.Swap

namespace OnreApp

open Checked

structure SwapQuote where
  offer : Pubkey
  tokenInMint : Pubkey
  tokenOutMint : Pubkey
  tokenInAmount : Nat
  tokenInNetAmount : Nat
  tokenInFeeAmount : Nat
  tokenOutAmount : Nat
  minimumOut : Nat
  currentPrice : Nat
  quotedAt : Int
  deriving DecidableEq, Repr

def buildSwapBuyQuote (clock : Clock) (state : State) (offerKey : Pubkey) (offer : Offer)
    (pair : PropAmmPairState) (tokenInAmount : Nat) (tokenInMint tokenOutMint : MintAccount)
    : Result SwapQuote := do
  offer.requireEnabled
  validatePropAmmPairForSide state pair offerKey tokenInMint.key tokenOutMint.key .buy
  let result ← processOfferCore clock offer tokenInAmount tokenInMint tokenOutMint
    offer.feeBasisPointsPermissionless
  return {
    offer := offerKey
    tokenInMint := tokenInMint.key
    tokenOutMint := tokenOutMint.key
    tokenInAmount
    tokenInNetAmount := result.tokenInNetAmount
    tokenInFeeAmount := result.tokenInFeeAmount
    tokenOutAmount := result.tokenOutAmount
    minimumOut := result.tokenOutAmount
    currentPrice := result.currentPrice
    quotedAt := clock.unixTimestamp
  }

def buildSwapSellQuote (clock : Clock) (state : State) (offerKey : Pubkey) (offer : Offer)
    (pair : PropAmmPairState)
    (actualLiquidity hardWallReserve redemptionFeeBasisPoints tokenInAmount : Nat)
    (tokenInMint tokenOutMint : MintAccount) : Result SwapQuote := do
  offer.requireEnabled
  validatePropAmmPairForSide state pair offerKey tokenInMint.key tokenOutMint.key .sell
  let result ← processRedemptionCore clock offer tokenInAmount tokenInMint tokenOutMint
    redemptionFeeBasisPoints pair.minimumSellHaircutOnyc
  let tokenOutAmount ← applyHardWallLiquidityFactor clock result.tokenOutAmount actualLiquidity
    hardWallReserve pair
  return {
    offer := offerKey
    tokenInMint := tokenInMint.key
    tokenOutMint := tokenOutMint.key
    tokenInAmount
    tokenInNetAmount := result.tokenInNetAmount
    tokenInFeeAmount := result.tokenInFeeAmount
    tokenOutAmount
    minimumOut := tokenOutAmount
    currentPrice := result.price
    quotedAt := clock.unixTimestamp
  }

def requireQuoteMintsWithoutTransferFees (tokenInMint tokenOutMint : MintAccount)
    : Result Unit := do
  require (hasTransferFee tokenInMint = false) .transferFeeNotSupported
  require (hasTransferFee tokenOutMint = false) .transferFeeNotSupported

structure QuoteSwapArgs where
  offer : Pubkey
  tokenInMint : Pubkey
  tokenOutMint : Pubkey
  tokenInAmount : Nat
  deriving DecidableEq, Repr

def quoteSwapBuy (clock : Clock) (w : World) (args : QuoteSwapArgs) : Result SwapQuote := do
  let pair ← World.load (w.propAmmPairStates (.propAmmPairState args.offer))
  w.requireNotKilled
  let tokenInMint ← w.loadMint args.tokenInMint
  let tokenOutMint ← w.loadMint args.tokenOutMint
  let offer ← World.load (w.offers args.offer)
  requireQuoteMintsWithoutTransferFees tokenInMint tokenOutMint
  buildSwapBuyQuote clock w.state args.offer offer pair args.tokenInAmount tokenInMint tokenOutMint

def quoteSwapSell (clock : Clock) (w : World) (args : QuoteSwapArgs) : Result SwapQuote := do
  let pair ← World.load (w.propAmmPairStates (.propAmmPairState args.offer))
  w.requireNotKilled
  let tokenInMint ← w.loadMint args.tokenInMint
  let tokenOutMint ← w.loadMint args.tokenOutMint
  let offer ← World.load (w.offers args.offer)
  requireQuoteMintsWithoutTransferFees tokenInMint tokenOutMint
  let liquidity ← sellQuoteLiquidityContext w args.offer tokenInMint tokenOutMint
    (w.ledger.balance .redemptionVaultAuthority tokenOutMint.key)
  buildSwapSellQuote clock w.state args.offer offer pair liquidity.actualLiquidity
    liquidity.hardWallReserve liquidity.feeBasisPointsPropAmmSell args.tokenInAmount tokenInMint
    tokenOutMint

end OnreApp
