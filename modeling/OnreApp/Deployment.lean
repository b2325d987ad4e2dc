import OnreApp.Lib.Slots
import OnreApp.Program.Fees

/-!
This module contains the accounts that the world of the market leaves out: the part of the program
state that says who may do what, the configurable vaults, and the owners excluded from the
circulating supply.
-/

namespace OnreApp

open Checked

inductive StateError where
  | invalidBossAddress
  | noBossProposal
  | notProposedBoss
  | adminAlreadyExists
  | maxAdminsReached
  | adminNotFound
  | invalidApprover
  | approverAlreadyExists
  | bothApproversFilled
  | notAnApprover
  | unauthorizedToEnable
  | onlyBossCanDisable
  | unauthorizedToDisableOffer
  | onlyBossCanEnableOffer
  | unauthorizedSigner
  | wrongOwner
  | invalidConfigurableVaultData
  | invalidConfigurableVaultKind
  | invalidFeeRecipient
  | missingConfigurableVaultDestination
  | zeroBalance
  | programNotMintAuthority
  | bossNotMintAuthority
  | duplicateExcludedAccountOwner
  | tooManyExcludedTokenAccounts
  | missingExcludedTokenAccount
  | invalidExcludedTokenAccount
  deriving DecidableEq, Repr

inductive Failure where
  | fault (f : Fault)
  | state (e : StateError)
  deriving DecidableEq, Repr

abbrev StateResult := Except Failure

def StateResult.of {α : Type} (x : Result α) : StateResult α :=
  match x with
  | .ok a => .ok a
  | .error f => .error (.fault f)

@[simp]
theorem StateResult.of_eq_ok {α : Type} {x : Result α} {a : α} :
    StateResult.of x = .ok a ↔ x = .ok a := by
  cases x <;> simp [StateResult.of]

abbrev requireState (c : Prop) [Decidable c] (e : StateError) : StateResult Unit :=
  Checked.require c (.state e)

abbrev requireOnre (c : Prop) [Decidable c] (e : OnreError) : StateResult Unit :=
  Checked.require c (.fault (.onre e))

abbrev requireConstraint (c : Prop) [Decidable c] : StateResult Unit :=
  Checked.require c (.fault .constraint)

def maxAdmins : Nat := 20

def maxCirculatingSupplyExcludedAccounts : Nat := 20

structure Governance where
  proposedBoss : Pubkey
  -- an unused place holds the default key
  admins : Vector Pubkey maxAdmins
  approver1 : Pubkey
  approver2 : Pubkey
  deriving DecidableEq

def Governance.initial : Governance where
  proposedBoss := .default
  admins := Vector.replicate maxAdmins .default
  approver1 := .default
  approver2 := .default

def ConfigurableVaultKind.asU8 : ConfigurableVaultKind → Nat
  | .offerFee => 0
  | .managementFee => 1
  | .performanceFee => 2
  | .propAmmBuyFee => 3
  | .offerProceeds => 4
  | .propAmmProceeds => 5
  | .permissionlessOfferFee => 6
  | .redemptionFee => 7
  | .propAmmSellFee => 8

structure ConfigurableVault where
  kind : Nat
  withdrawalDestination : Pubkey
  deriving DecidableEq, Repr

def ConfigurableVault.initValue (kind : ConfigurableVaultKind) : ConfigurableVault where
  kind := kind.asU8
  withdrawalDestination := .default

structure Deployment where
  world : World
  -- `close_state` hands the state account back to the system program
  stateIsOpen : Bool
  governance : Governance
  configurableVaults : ConfigurableVaultKind → Option ConfigurableVault
  excludedAccounts : Option (Vector Pubkey maxCirculatingSupplyExcludedAccounts)
  -- as the loader has it for this program; an immutable program has none
  upgradeAuthority : Option Pubkey

namespace Deployment

abbrev boss (d : Deployment) : Pubkey := d.world.state.boss

def setState (d : Deployment) (state : State) : Deployment :=
  { d with world := { d.world with state } }

def setLedger (d : Deployment) (ledger : Ledger) : Deployment :=
  { d with world := { d.world with ledger } }

def setVault (d : Deployment) (kind : ConfigurableVaultKind) (vault : ConfigurableVault)
    : Deployment :=
  { d with configurableVaults := Function.update d.configurableVaults kind (some vault) }

def requireBoss (d : Deployment) (signer : Signer) : StateResult Unit :=
  requireConstraint (signer.key = d.boss)

def isBossOrAdmin (d : Deployment) (signer : Signer) : Bool :=
  signer.key = d.boss || d.governance.admins.contains signer.key

end Deployment

end OnreApp
