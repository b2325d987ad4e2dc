import OnreApp.Buffer.Impl.AccrualUtils
import OnreApp.MarketInfo.Impl.Valuation

/-!
The accrual every instruction that changes the ONyc supply runs first. The mint account it is given
was deserialized before, so its supply stays the same while up to three mints raise the real one.
-/

namespace OnreApp

open Checked

structure BufferAccrualResult where
  secondsElapsed : Nat
  aprDelta : Nat
  bufferMintAmount : Nat
  reserveMintAmount : Nat
  managementFeeMintAmount : Nat
  performanceFeeMintAmount : Nat
  oldPreviousSupply : Nat
  newPreviousSupply : Nat
  oldPreviousPerformanceFeeHighWatermark : Nat
  newPerformanceFeeHighWatermark : Nat
  timestamp : Int
  currentNav : Nat
  postAccrualSupply : Nat
  reserveVaultBalanceAfterAccrual : Nat
  deriving DecidableEq, Repr

def setBufferBaselineAfterSupplyChange (bufferState : BufferState) (postChangeSupply : Nat)
    (now : Int) : BufferState :=
  { bufferState with
    previousSupply := postChangeSupply
    lastAccrualTimestamp := now
  }

namespace accrueBuffer

def mintAll (ledger : Ledger) (state : State) (onycMint : MintAccount)
    : List (Pubkey × Nat) → Result Ledger
  | [] => return ledger
  | (destination, amount) :: rest =>
    if 0 < amount then do
      let ledger ← mintTokens ledger onycMint destination amount state.maxSupply
        state.maxMintAmount
      mintAll ledger state onycMint rest
    else
      mintAll ledger state onycMint rest

def mintSplit (ledger : Ledger) (state : State) (onycMint : MintAccount)
    (feeSplit : BufferAccrualBreakdown) : Result Ledger :=
  if 0 < feeSplit.bufferMintAmount then do
    validateMaxSupply onycMint.supply feeSplit.bufferMintAmount state.maxSupply
    require (0 < state.maxMintAmount → feeSplit.bufferMintAmount ≤ state.maxMintAmount)
      .maxMintAmountExceeded
    mintAll ledger state onycMint [
      (.reserveVaultAuthority, feeSplit.reserveMintAmount),
      (.configurableVault .managementFee, feeSplit.managementFeeMintAmount),
      (.configurableVault .performanceFee, feeSplit.performanceFeeMintAmount)
    ]
  else
    return ledger

end accrueBuffer

def accrueBuffer (state : State) (bufferState : BufferState) (offer : Offer)
    (onycMint : MintAccount) (ledger : Ledger) (now : Int)
    : Result (BufferAccrualResult × BufferState × Ledger) := do
  require (bufferState.lastAccrualTimestamp ≤ now) .invalidTimestamp
  let (activeVector, currentNav) ← getActiveVectorAndCurrentPrice offer (asU64 now)
  let elapsed ← orPanic (checkedSubInt i64Min i64Max now bufferState.lastAccrualTimestamp)
  let secondsElapsed := asU64 elapsed
  let aprDelta := bufferState.grossApr - activeVector.apr
  let reserveVaultBalanceBeforeMint := ledger.balance .reserveVaultAuthority onycMint.key
  if bufferState.previousSupply = 0 then
    -- the first supply the program sees becomes the baseline, nothing has accrued on it yet
    return ({
        secondsElapsed
        aprDelta
        bufferMintAmount := 0
        reserveMintAmount := 0
        managementFeeMintAmount := 0
        performanceFeeMintAmount := 0
        oldPreviousSupply := bufferState.previousSupply
        newPreviousSupply := onycMint.supply
        oldPreviousPerformanceFeeHighWatermark := bufferState.performanceFeeHighWatermark
        newPerformanceFeeHighWatermark := currentNav
        timestamp := now
        currentNav
        postAccrualSupply := onycMint.supply
        reserveVaultBalanceAfterAccrual := reserveVaultBalanceBeforeMint
      },
      setBufferBaselineAfterSupplyChange
        { bufferState with performanceFeeHighWatermark := currentNav } onycMint.supply now,
      ledger)
  else
    let bufferMintAmount ← calculateGrossBufferAccrual bufferState.previousSupply
      bufferState.grossApr activeVector.apr secondsElapsed
    let feeSplit ← calculateBufferFeeSplit bufferMintAmount aprDelta
      bufferState.managementFeeBasisPoints bufferState.performanceFeeBasisPoints currentNav
      bufferState.performanceFeeHighWatermark bufferState.performanceFeeHighWatermarkEnabled
    let ledger ← accrueBuffer.mintSplit ledger state onycMint feeSplit
    let postAccrualSupply ← okOr (checkedAdd u64Max onycMint.supply bufferMintAmount) .mathOverflow
    let reserveVaultBalanceAfterAccrual ←
      okOr (checkedAdd u64Max reserveVaultBalanceBeforeMint feeSplit.reserveMintAmount)
        .mathOverflow
    return ({
        secondsElapsed
        aprDelta
        bufferMintAmount := feeSplit.bufferMintAmount
        reserveMintAmount := feeSplit.reserveMintAmount
        managementFeeMintAmount := feeSplit.managementFeeMintAmount
        performanceFeeMintAmount := feeSplit.performanceFeeMintAmount
        oldPreviousSupply := bufferState.previousSupply
        newPreviousSupply := postAccrualSupply
        oldPreviousPerformanceFeeHighWatermark := bufferState.performanceFeeHighWatermark
        newPerformanceFeeHighWatermark := feeSplit.newPerformanceFeeHighWatermark
        timestamp := now
        currentNav
        postAccrualSupply
        reserveVaultBalanceAfterAccrual
      },
      setBufferBaselineAfterSupplyChange
        { bufferState with
          performanceFeeHighWatermark := feeSplit.newPerformanceFeeHighWatermark }
        postAccrualSupply now,
      ledger)

end OnreApp
