import OnreApp.MarketInfo.Impl.Views
import OnreApp.Offer.Impl.TakeOfferV1
import OnreApp.StateOperations.Impl.StateOperations
import OnreApp.VaultOperations.Impl.VaultOperations

/-!
This module contains the machine of the whole program: every instruction that changes an account,
over all accounts. The instructions of the market act on the world inside. A purchase or a swap
first creates the configurable vaults it pays into. Every action needs the state account, except the
one that creates it.
-/

namespace OnreApp

open Checked

def Instruction.vaults : Instruction → List ConfigurableVaultKind
  | .takeOfferV2 _ _ => [.offerProceeds, .offerFee]
  | .takeOfferPermissionlessV2 _ => [.offerProceeds, .permissionlessOfferFee]
  | .openSwapBuy _ => [.propAmmProceeds, .propAmmBuyFee]
  | .openSwapSell _ => [.propAmmProceeds, .propAmmSellFee]
  | .fulfillRedemptionRequest _ => [.offerProceeds, .redemptionFee]
  | .initializeBuffer _ => [.managementFee, .performanceFee]
  | _ => []

def Instruction.vaultError : Instruction → StateError
  | .initializeBuffer _ => .invalidConfigurableVaultKind
  | _ => .invalidConfigurableVaultData

inductive Action where
  | instruction (i : Instruction)
  | takeOffer (args : TakeOfferV1Args) (approvalMessage : Option (Result Unit))
  | takeOfferPermissionless (args : TakeOfferV1Args)
  | updateOfferFee (args : UpdateOfferFeeArgs)
  | updateOfferPermissionlessFee (args : UpdateOfferFeeArgs)
  | setMainOffer (boss : Signer) (offerKey : Pubkey)
  | initializeState (boss : Signer) (onycMint : Pubkey)
  | closeState (boss : Signer)
  | proposeBoss (boss : Signer) (newBoss : Pubkey)
  | acceptBoss (newBoss : Signer)
  | addAdmin (boss : Signer) (newAdmin : Pubkey)
  | removeAdmin (boss : Signer) (adminToRemove : Pubkey)
  | clearAdmins (boss : Signer)
  | addApprover (boss : Signer) (approver : Pubkey)
  | removeApprover (boss : Signer) (approver : Pubkey)
  | setKillSwitch (signer : Signer) (enable : Bool)
  | setOfferDisabled (signer : Signer) (offerKey : Pubkey) (disabled : Bool)
  | setRedemptionOfferDisabled (signer : Signer) (redemptionOfferKey : Pubkey) (disabled : Bool)
  | setOnycMint (boss : Signer) (onycMint : Pubkey)
  | setWorker (boss : Signer) (newWorker : Pubkey)
  | configureMaxSupply (boss : Signer) (maxSupply : Nat)
  | configureMaxMintAmount (boss : Signer) (maxMintAmount : Nat)
  | offerVaultDeposit (args : VaultArgs)
  | offerVaultWithdraw (args : VaultArgs)
  | depositReserveVault (depositor : Signer) (amount : Nat)
  | withdrawReserveVault (boss : Signer) (amount : Nat)
  | setConfigurableVaultDestination (boss : Signer) (kind : ConfigurableVaultKind)
      (withdrawalDestination : Pubkey)
  | withdrawConfigurableVault (args : WithdrawConfigurableVaultArgs)
  | transferMintAuthorityToBoss (boss : Signer) (mint : Pubkey)
  | transferMintAuthorityToProgram (boss : Signer) (mint : Pubkey)
  | setCirculatingSupplyExcludedAccounts (boss : Signer)
      (owners : Vector Pubkey maxCirculatingSupplyExcludedAccounts)
  | updateCirculatingSupplyExcludedBalance (signer : Signer)
      (remainingAccounts : List TokenAccountKey)
  | refreshMarketStats (signer : Signer) (tokenInMint : Pubkey)

namespace Deployment

def inWorld (d : Deployment) (x : Result World) : StateResult Deployment := do
  let world ← .of x
  return { d with world }

def executeInstruction (clock : Clock) (d : Deployment) (i : Instruction)
    : StateResult Deployment := do
  let d ← getOrCreateConfigurableVaults d i.vaultError i.vaults
  d.inWorld (execute clock d.world i)

def act (clock : Clock) (d : Deployment) : Action → StateResult Deployment
  | .instruction i => d.executeInstruction clock i
  | .takeOffer args approvalMessage => d.inWorld (takeOffer clock d.world args approvalMessage)
  | .takeOfferPermissionless args => d.inWorld (takeOfferPermissionless clock d.world args)
  | .updateOfferFee args => d.inWorld (updateOfferFee d.world args)
  | .updateOfferPermissionlessFee args => d.inWorld (updateOfferPermissionlessFee d.world args)
  | .setMainOffer boss offerKey => d.inWorld (setMainOffer d.world boss offerKey)
  | .initializeState boss onycMint => initializeState d boss onycMint
  | .closeState boss => closeState d boss
  | .proposeBoss boss newBoss => proposeBoss d boss newBoss
  | .acceptBoss newBoss => acceptBoss d newBoss
  | .addAdmin boss newAdmin => addAdmin d boss newAdmin
  | .removeAdmin boss adminToRemove => removeAdmin d boss adminToRemove
  | .clearAdmins boss => clearAdmins d boss
  | .addApprover boss approver => addApprover d boss approver
  | .removeApprover boss approver => removeApprover d boss approver
  | .setKillSwitch signer enable => setKillSwitch d signer enable
  | .setOfferDisabled signer offerKey disabled => setOfferDisabled d signer offerKey disabled
  | .setRedemptionOfferDisabled signer redemptionOfferKey disabled =>
    setRedemptionOfferDisabled d signer redemptionOfferKey disabled
  | .setOnycMint boss onycMint => setOnycMint d boss onycMint
  | .setWorker boss newWorker => setWorker d boss newWorker
  | .configureMaxSupply boss maxSupply => configureMaxSupply d boss maxSupply
  | .configureMaxMintAmount boss maxMintAmount => configureMaxMintAmount d boss maxMintAmount
  | .offerVaultDeposit args => offerVaultDeposit d args
  | .offerVaultWithdraw args => offerVaultWithdraw d args
  | .depositReserveVault depositor amount => depositReserveVault d depositor amount
  | .withdrawReserveVault boss amount => withdrawReserveVault d boss amount
  | .setConfigurableVaultDestination boss kind withdrawalDestination =>
    setConfigurableVaultDestination d boss kind withdrawalDestination
  | .withdrawConfigurableVault args => withdrawConfigurableVault d args
  | .transferMintAuthorityToBoss boss mint => transferMintAuthorityToBoss d boss mint
  | .transferMintAuthorityToProgram boss mint => transferMintAuthorityToProgram d boss mint
  | .setCirculatingSupplyExcludedAccounts boss owners =>
    setCirculatingSupplyExcludedAccounts d boss owners
  | .updateCirculatingSupplyExcludedBalance _ remainingAccounts =>
    updateCirculatingSupplyExcludedBalance d remainingAccounts
  | .refreshMarketStats _ tokenInMint => refreshMarketStats clock d tokenInMint

def needsState : Action → Bool
  | .initializeState _ _ => false
  | _ => true

def perform (clock : Clock) (d : Deployment) (action : Action) : StateResult Deployment := do
  Checked.require (needsState action → d.stateIsOpen) (.fault .accountNotInitialized)
  d.act clock action

abbrev run (d : Deployment) (actions : List (Clock × Action)) : StateResult Deployment :=
  Run.run (fun d action => d.perform action.1 action.2) d actions

end Deployment

namespace Sample

def admin : Signer := ⟨3⟩

def heir : Signer := ⟨4⟩

def upgrader : Signer := ⟨9⟩

def deployment : Deployment where
  world := world
  stateIsOpen := true
  governance := .initial
  configurableVaults := fun _ => none
  excludedAccounts := none
  upgradeAuthority := some upgrader.key

def market : List (Clock × Action) := launch.map fun call => (call.1, .instruction call.2)

end Sample

end OnreApp
