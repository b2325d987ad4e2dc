import OnreApp.MarketInfo.Impl.Valuation

namespace OnreApp

open Checked

structure RedemptionProcessResult where
  price : Nat
  tokenInNetAmount : Nat
  tokenInFeeAmount : Nat
  tokenOutAmount : Nat
  deriving DecidableEq, Repr

def calculateFeesWithMinimum (tokenInAmount feeBasisPoints minimumTokenInFeeAmount : Nat)
    : Result CalculateFeeResult := do
  let feeAmounts ← calculateFees tokenInAmount feeBasisPoints
  if feeAmounts.tokenInFeeAmount < minimumTokenInFeeAmount then
    require (minimumTokenInFeeAmount ≤ tokenInAmount) .invalidAmount
    let tokenInNetAmount ←
      okOr (checkedSub tokenInAmount minimumTokenInFeeAmount) .mathOverflow
    return { tokenInFeeAmount := minimumTokenInFeeAmount, tokenInNetAmount }
  else
    return feeAmounts

def processRedemptionCore (clock : Clock) (offer : Offer) (tokenInAmount : Nat)
    (tokenInMint tokenOutMint : MintAccount) (redemptionFeeBasisPoints : Nat)
    (minimumTokenInFeeAmount : Nat) : Result RedemptionProcessResult := do
  let currentPrice ← computeOfferCurrentPrice offer clock.time
  let feeAmounts ←
    calculateFeesWithMinimum tokenInAmount redemptionFeeBasisPoints minimumTokenInFeeAmount
  let netValue ←
    okOr (checkedMul u128Max feeAmounts.tokenInNetAmount currentPrice) .overflowError
  let tokenOutScale ← orPanic (checkedPow u128Max 10 tokenOutMint.decimals)
  let numerator ← okOr (checkedMul u128Max netValue tokenOutScale) .overflowError
  let tokenInScale ← orPanic (checkedPow u128Max 10 tokenInMint.decimals)
  let denominator ← okOr (checkedMul u128Max tokenInScale (10 ^ priceDecimals)) .overflowError
  let result := numerator / denominator
  require (result ≤ u64Max) .overflowError
  require (0 < result) .invalidAmount
  return {
    price := currentPrice
    tokenInNetAmount := feeAmounts.tokenInNetAmount
    tokenInFeeAmount := feeAmounts.tokenInFeeAmount
    tokenOutAmount := result
  }

structure ExecuteRedemptionOpsParams where
  tokenInMint : MintAccount
  tokenInNetAmount : Nat
  tokenInFeeAmount : Nat
  vaultTokenInAccount : Pubkey
  tokenInDestinationAccount : Pubkey
  feeDestinationTokenInAccount : Pubkey
  tokenOutMint : MintAccount
  tokenOutAmount : Nat
  vaultTokenOutAccount : Pubkey
  userTokenOutAccount : Pubkey

def executeRedemptionOperations.takeTokenIn (ledger : Ledger) (params : ExecuteRedemptionOpsParams)
    : Result Ledger :=
  if programControlsMint params.tokenInMint then
    burnTokens ledger params.tokenInMint params.vaultTokenInAccount params.tokenInNetAmount
  else
    transferTokens ledger params.tokenInMint params.vaultTokenInAccount
      params.tokenInDestinationAccount params.tokenInNetAmount

def executeRedemptionOperations (ledger : Ledger) (params : ExecuteRedemptionOpsParams)
    : Result Ledger := do
  require (hasTransferFee params.tokenInMint = false) .transferFeeNotSupported
  require (hasTransferFee params.tokenOutMint = false) .transferFeeNotSupported
  let ledger ← executeRedemptionOperations.takeTokenIn ledger params
  let ledger ← transferPositive ledger params.tokenInMint params.vaultTokenInAccount
    params.feeDestinationTokenInAccount params.tokenInFeeAmount
  transferTokens ledger params.tokenOutMint params.vaultTokenOutAccount params.userTokenOutAccount
    params.tokenOutAmount

end OnreApp
