import OnreApp.Utils.Impl.MathUtils

/-!
Token amounts and token operations. `mintTokens` checks the supply cap against the supply of the
deserialized mint account it is given, not against the ledger.
-/

namespace OnreApp

open Checked

def calculateTokenOutAmount (tokenInAmount price tokenInDecimals tokenOutDecimals : Nat)
    : Result Nat := do
  require (0 < price) .zeroPriceNotAllowed
  require (tokenInDecimals ≤ maxTokenDecimals) .decimalsExceedMax
  require (tokenOutDecimals ≤ maxTokenDecimals) .decimalsExceedMax
  let tokenOutScale ← orPanic (checkedPow u128Max 10 (tokenOutDecimals + priceDecimals))
  let numerator ← okOr (checkedMul u128Max tokenInAmount tokenOutScale) .mathOverflow
  let tokenInScale ← orPanic (checkedPow u128Max 10 tokenInDecimals)
  let denominator ← okOr (checkedMul u128Max price tokenInScale) .mathOverflow
  let result := numerator / denominator
  require (result ≤ u64Max) .resultOverflow
  require (0 < result) .invalidAmount
  return result

structure CalculateFeeResult where
  tokenInFeeAmount : Nat
  tokenInNetAmount : Nat
  deriving DecidableEq, Repr

def calculateFees (tokenInAmount feeBasisPoints : Nat) : Result CalculateFeeResult := do
  let feeNumerator ← okOr (checkedMul u128Max tokenInAmount feeBasisPoints) .mathOverflow
  let fee ← okOr (ceilDivU128 feeNumerator maxBasisPoints) .mathOverflow
  let tokenFeeAmount := truncU64 fee
  let tokenNetAmount ← okOr (checkedSub tokenInAmount tokenFeeAmount) .mathOverflow
  return {
    tokenInFeeAmount := tokenFeeAmount
    tokenInNetAmount := tokenNetAmount
  }

def validateMaxSupply (currentSupply amount maxSupply : Nat) : Result Unit :=
  if 0 < maxSupply then do
    let newSupply ← okOr (checkedAdd u64Max currentSupply amount) .mathOverflow
    require (newSupply ≤ maxSupply) .maxSupplyExceeded
  else
    return ()

def programControlsMint (mint : MintAccount) : Bool :=
  mint.mintAuthority = some .mintAuthority

def hasTransferFee (mint : MintAccount) : Bool :=
  match mint.transferFee with
  | some (transferFeeBasisPoints, maximumFee) => 0 < transferFeeBasisPoints || 0 < maximumFee
  | none => false

def tokenCall (x : Except TokenLedger.Error Ledger) : Result Ledger :=
  match x with
  | .ok ledger => .ok ledger
  | .error e => .error (.token e)

def transferTokens (ledger : Ledger) (mint : MintAccount) (fromAccount toAccount : Pubkey)
    (amount : Nat) : Result Ledger :=
  tokenCall (ledger.transfer u64Max mint.key fromAccount toAccount amount)

def transferPositive (ledger : Ledger) (mint : MintAccount) (fromAccount toAccount : Pubkey)
    (amount : Nat) : Result Ledger :=
  if 0 < amount then
    transferTokens ledger mint fromAccount toAccount amount
  else
    return ledger

def mintTokens (ledger : Ledger) (mint : MintAccount) (toAccount : Pubkey)
    (amount maxSupply maxMintAmount : Nat) : Result Ledger := do
  require (0 < maxMintAmount → amount ≤ maxMintAmount) .maxMintAmountExceeded
  validateMaxSupply mint.supply amount maxSupply
  Checked.require (mint.mintAuthority = some .mintAuthority) Fault.tokenOwnerMismatch
  tokenCall (ledger.mintTo u64Max mint.key toAccount amount)

def burnTokens (ledger : Ledger) (mint : MintAccount) (fromAccount : Pubkey) (amount : Nat)
    : Result Ledger :=
  tokenCall (ledger.burn mint.key fromAccount amount)

structure ExecTokenOpsParams where
  tokenInMint : MintAccount
  tokenInNetAmount : Nat
  tokenInFeeAmount : Nat
  tokenInSourceAccount : Pubkey
  tokenInDestinationAccount : Pubkey
  tokenInRefillDestinationAccount : Option Pubkey
  tokenInRefillAmount : Nat
  tokenInFeeDestinationAccount : Pubkey
  tokenInBurnAccount : Pubkey
  tokenOutMint : MintAccount
  tokenOutAmount : Nat
  tokenOutSourceAccount : Pubkey
  tokenOutDestinationAccount : Pubkey
  tokenOutMaxSupply : Nat
  tokenOutMaxMintAmount : Nat

namespace executeTokenOperations

def burnTokenIn (ledger : Ledger) (params : ExecTokenOpsParams) : Result Ledger := do
  require (params.tokenInRefillAmount = 0) .invalidAmount
  let ledger ← transferTokens ledger params.tokenInMint params.tokenInSourceAccount
    params.tokenInBurnAccount params.tokenInNetAmount
  let ledger ← burnTokens ledger params.tokenInMint params.tokenInBurnAccount
    params.tokenInNetAmount
  transferPositive ledger params.tokenInMint params.tokenInSourceAccount
    params.tokenInFeeDestinationAccount params.tokenInFeeAmount

def refill (ledger : Ledger) (params : ExecTokenOpsParams) : Result Ledger :=
  if 0 < params.tokenInRefillAmount then do
    let refillDestination ←
      okOr params.tokenInRefillDestinationAccount .invalidVaultTokenInAccount
    transferTokens ledger params.tokenInMint params.tokenInSourceAccount refillDestination
      params.tokenInRefillAmount
  else
    return ledger

def transferTokenIn (ledger : Ledger) (params : ExecTokenOpsParams) : Result Ledger := do
  require (params.tokenInRefillAmount ≤ params.tokenInNetAmount) .invalidAmount
  let proceedsAmount ←
    okOr (checkedSub params.tokenInNetAmount params.tokenInRefillAmount) .arithmeticUnderflow
  let ledger ← refill ledger params
  let ledger ← transferPositive ledger params.tokenInMint params.tokenInSourceAccount
    params.tokenInDestinationAccount proceedsAmount
  transferPositive ledger params.tokenInMint params.tokenInSourceAccount
    params.tokenInFeeDestinationAccount params.tokenInFeeAmount

def takeTokenIn (ledger : Ledger) (params : ExecTokenOpsParams) : Result Ledger :=
  if programControlsMint params.tokenInMint then
    burnTokenIn ledger params
  else
    transferTokenIn ledger params

def distributeTokenOut (ledger : Ledger) (params : ExecTokenOpsParams) : Result Ledger :=
  if programControlsMint params.tokenOutMint then
    mintTokens ledger params.tokenOutMint params.tokenOutDestinationAccount params.tokenOutAmount
      params.tokenOutMaxSupply params.tokenOutMaxMintAmount
  else
    transferTokens ledger params.tokenOutMint params.tokenOutSourceAccount
      params.tokenOutDestinationAccount params.tokenOutAmount

end executeTokenOperations

def executeTokenOperations (ledger : Ledger) (params : ExecTokenOpsParams) : Result Ledger := do
  require (hasTransferFee params.tokenInMint = false) .transferFeeNotSupported
  require (hasTransferFee params.tokenOutMint = false) .transferFeeNotSupported
  let ledger ← executeTokenOperations.takeTokenIn ledger params
  executeTokenOperations.distributeTokenOut ledger params

end OnreApp
