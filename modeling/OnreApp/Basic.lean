import OnreApp.Lib.Checked
import OnreApp.Lib.TokenLedger

/-!
This module contains what every instruction shares: errors, account addresses, mints and the global
program state. Token balances are those of the associated token accounts. A supply or mint cap of 0
in the state means no cap.
-/

namespace OnreApp

open Checked

inductive OnreError where
  | mathOverflow
  | maxSupplyExceeded
  | maxMintAmountExceeded
  | transferFeeNotSupported
  | zeroPriceNotAllowed
  | decimalsExceedMax
  | resultOverflow
  | invalidFee
  | invalidTokenInMint
  | invalidTokenOutMint
  | vectorNotFound
  | startTimeInPast
  | invalidBoss
  | killSwitchActivated
  | permissionlessNotAllowed
  | invalidTimeRange
  | zeroValue
  | duplicateStartTime
  | tooManyVectors
  | invalidAPR
  | noActiveVector
  | overflowError
  | approvalRequired
  | invalidTokenProgram
  | invalidOnycMint
  | invalidMarketStatsPda
  | invalidMarketStatsOwner
  | overflow
  | invalidMainOffer
  | divByZero
  | noChange
  | noMintAuthority
  | unauthorized
  | insufficientBalance
  | arithmeticOverflow
  | invalidMint
  | invalidRedemptionOffer
  | arithmeticUnderflow
  | invalidRedeemer
  | invalidWorker
  | offerMismatch
  | invalidRedemptionOfferOwner
  | invalidVaultTokenInAccount
  | invalidAmount
  | offerDisabled
  | redemptionOfferDisabled
  | amountExceedsRemaining
  | invalidTimestamp
  | minimumOutNotMet
  | invalidSwapPair
  | invalidPropAmmPairState
  | propAmmPairDisabled
  | invalidTargetNav
  | invalidAssetAdjustmentAmount
  | noBurnNeeded
  | insufficientCacheBalance
  | invalidBurnTarget
  | expired
  | wrongProgram
  | wrongUser
  | missingEd25519Ix
  | wrongIxProgram
  | badEd25519Accounts
  | malformedEd25519Ix
  | multipleSigs
  | wrongAuthority
  | msgMismatch
  | msgDeserialize
  deriving DecidableEq, Repr

/--
Everything that can make an instruction fail: an error code of the program, a transfer, mint or burn
rejected by the token program, an account constraint without a code of its own (`has_one`, `seeds`,
`init`), an account that has to exist and does not, or a panic (the release profile keeps overflow
checks on). A failed instruction leaves no trace on chain, so it is a function into `Result`.
-/
inductive Fault where
  | onre (e : OnreError)
  | token (e : TokenLedger.Error)
  | tokenOwnerMismatch
  | constraint
  | accountNotInitialized
  | panic
  deriving DecidableEq, Repr

abbrev Result := Except Fault

abbrev require (c : Prop) [Decidable c] (e : OnreError) : Result Unit :=
  Checked.require c (.onre e)

abbrev okOr {α : Type} (o : Option α) (e : OnreError) : Result α :=
  Checked.okOr o (.onre e)

abbrev constraint (c : Prop) [Decidable c] : Result Unit :=
  Checked.require c .constraint

abbrev orPanic {α : Type} (o : Option α) : Result α :=
  Checked.okOr o .panic

theorem require_of {c : Prop} [Decidable c] (h : c) (e : OnreError) : require c e = .ok () :=
  if_pos h

theorem okOr_some {α : Type} (a : α) (e : OnreError) : okOr (some a) e = .ok a := rfl

section Avoids

abbrev Avoids {α : Type} (code : OnreError) (x : Result α) : Prop :=
  FailsOnlyWith (fun e => e ≠ .onre code) x

variable {code e : OnreError}

theorem avoids_okOr {α : Type} (o : Option α) (h : e ≠ code) : Avoids code (okOr o e) := by
  apply failsOnlyWith_okOr
  intro heq
  cases heq
  exact h rfl

theorem avoids_require (c : Prop) [Decidable c] (h : e ≠ code) : Avoids code (require c e) := by
  apply failsOnlyWith_require
  intro _ heq
  cases heq
  exact h rfl

theorem avoids_orPanic {α : Type} (o : Option α) : Avoids code (orPanic o) := by
  apply failsOnlyWith_okOr
  nofun

end Avoids

inductive ConfigurableVaultKind where
  | offerFee
  | managementFee
  | performanceFee
  | propAmmBuyFee
  | offerProceeds
  | propAmmProceeds
  | permissionlessOfferFee
  | redemptionFee
  | propAmmSellFee
  deriving DecidableEq, Repr

/--
Account addresses. An address derived by this program is the constructor of its seeds: different
seeds give different addresses, and none of them is the address of a key pair. `default` is the
System Program, `reserved` is another program or a sysvar, and all the rest is `external`.
-/
inductive Pubkey where
  | default
  | reserved (id : Nat)
  | external (id : Nat)
  | offer (tokenInMint tokenOutMint : Pubkey)
  | redemptionOffer (tokenInMint tokenOutMint : Pubkey)
  | redemptionRequest (redemptionOffer : Pubkey) (counter : Nat)
  | propAmmPairState (offer : Pubkey)
  | configurableVault (kind : ConfigurableVaultKind)
  | offerVaultAuthority
  | redemptionVaultAuthority
  | permissionlessAuthority
  | mintAuthority
  | reserveVaultAuthority
  | marketStats
  deriving DecidableEq, Repr

-- no transaction can write to the account of a program or a sysvar
def Pubkey.isWritable : Pubkey → Bool
  | default => false
  | reserved _ => false
  | _ => true

structure Signer where
  -- only key pairs sign, so a signer is never an address of this program
  id : Nat
  deriving DecidableEq, Repr

def Signer.key (s : Signer) : Pubkey := .external s.id

structure Clock where
  unixTimestamp : Int
  slot : Nat
  deriving DecidableEq, Repr

def Clock.time (c : Clock) : Nat := asU64 c.unixTimestamp

inductive TokenProgram where
  | splToken
  | token2022
  deriving DecidableEq, Repr

structure MintInfo where
  decimals : Nat
  mintAuthority : Option Pubkey
  tokenProgram : TokenProgram
  -- basis points and maximum fee of the transfer fee extension in the current epoch
  transferFee : Option (Nat × Nat)
  deriving DecidableEq, Repr

/--
A deserialized mint account. Its supply is the one at the time of deserialization or of the last
`reload`, whatever has been minted or burned since.
-/
structure MintAccount extends MintInfo where
  key : Pubkey
  supply : Nat
  deriving DecidableEq, Repr

/--
`balance owner mint` is what the associated token account of `owner` for `mint` holds. The program
reads and moves the tokens of these accounts; an owner's other token accounts are not in the ledger.
-/
abbrev Ledger := TokenLedger.Ledger Pubkey Pubkey

def MintAccount.reload (mint : MintAccount) (ledger : Ledger) : MintAccount :=
  { mint with supply := ledger.supply mint.key }

@[simp]
theorem MintAccount.reload_supply (mint : MintAccount) (ledger : Ledger) :
    (mint.reload ledger).supply = ledger.supply mint.key := rfl

def mintForTest (key : Pubkey) (decimals : Nat) : MintAccount where
  decimals := decimals
  mintAuthority := some .mintAuthority
  tokenProgram := .splToken
  transferFee := none
  key := key
  supply := 0

def maxVectors : Nat := 10

def priceDecimals : Nat := 9

def maxBasisPoints : Nat := 10000

def maxAllowedFeeBps : Nat := 1000

def maxTokenDecimals : Nat := 18

structure State where
  boss : Pubkey
  isKilled : Bool
  onycMint : Pubkey
  maxSupply : Nat
  worker : Pubkey
  maxMintAmount : Nat
  mainOffer : Pubkey
  deriving DecidableEq, Repr

end OnreApp
