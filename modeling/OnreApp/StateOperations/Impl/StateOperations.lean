import OnreApp.Deployment

namespace OnreApp

open Checked

section Boss

def proposeBoss (d : Deployment) (boss : Signer) (newBoss : Pubkey) : StateResult Deployment := do
  d.requireBoss boss
  requireState (newBoss ≠ .default) .invalidBossAddress
  return { d with governance := { d.governance with proposedBoss := newBoss } }

def acceptBoss (d : Deployment) (newBoss : Signer) : StateResult Deployment := do
  requireState (d.governance.proposedBoss ≠ .default) .noBossProposal
  requireState (newBoss.key = d.governance.proposedBoss) .notProposedBoss
  return { d.setState { d.world.state with boss := d.governance.proposedBoss } with
    governance := { d.governance with proposedBoss := .default } }

end Boss

section Admins

def addAdmin (d : Deployment) (boss : Signer) (newAdmin : Pubkey) : StateResult Deployment := do
  d.requireBoss boss
  requireState (d.governance.admins.contains newAdmin = false) .adminAlreadyExists
  let admins ←
    Checked.okOr (Slots.put .default d.governance.admins newAdmin) (.state .maxAdminsReached)
  return { d with governance := { d.governance with admins } }

def removeAdmin (d : Deployment) (boss : Signer) (adminToRemove : Pubkey)
    : StateResult Deployment := do
  d.requireBoss boss
  let admins ←
    Checked.okOr (Slots.take .default d.governance.admins adminToRemove) (.state .adminNotFound)
  return { d with governance := { d.governance with admins } }

def clearAdmins (d : Deployment) (boss : Signer) : StateResult Deployment := do
  d.requireBoss boss
  return { d with
    governance := { d.governance with admins := Vector.replicate maxAdmins .default } }

end Admins

section Approvers

def addApprover (d : Deployment) (boss : Signer) (approver : Pubkey)
    : StateResult Deployment := do
  d.requireBoss boss
  let g := d.governance
  requireState (approver ≠ .default) .invalidApprover
  requireState (g.approver1 ≠ approver ∧ g.approver2 ≠ approver) .approverAlreadyExists
  if g.approver1 = .default then
    return { d with governance := { g with approver1 := approver } }
  else if g.approver2 = .default then
    return { d with governance := { g with approver2 := approver } }
  else
    throw (.state .bothApproversFilled)

def removeApprover (d : Deployment) (boss : Signer) (approver : Pubkey)
    : StateResult Deployment := do
  d.requireBoss boss
  let g := d.governance
  requireState (approver ≠ .default) .invalidApprover
  if g.approver1 = approver then
    return { d with governance := { g with approver1 := .default } }
  else if g.approver2 = approver then
    return { d with governance := { g with approver2 := .default } }
  else
    throw (.state .notAnApprover)

end Approvers

section Switches

def setKillSwitch (d : Deployment) (signer : Signer) (enable : Bool) : StateResult Deployment :=
  if enable then do
    requireState (d.isBossOrAdmin signer) .unauthorizedToEnable
    return d.setState { d.world.state with isKilled := true }
  else do
    requireState (signer.key = d.boss) .onlyBossCanDisable
    return d.setState { d.world.state with isKilled := false }

def authorizeTargetedDisable (d : Deployment) (signer : Signer) (disabled : Bool)
    : StateResult Unit :=
  if disabled then
    requireState (d.isBossOrAdmin signer) .unauthorizedToDisableOffer
  else
    requireState (signer.key = d.boss) .onlyBossCanEnableOffer

def setOfferDisabled (d : Deployment) (signer : Signer) (offerKey : Pubkey) (disabled : Bool)
    : StateResult Deployment := do
  let offer ← .of (World.load (d.world.offers offerKey))
  authorizeTargetedDisable d signer disabled
  return { d with world := d.world.setOffer offerKey { offer with disabled } }

def setRedemptionOfferDisabled (d : Deployment) (signer : Signer) (redemptionOfferKey : Pubkey)
    (disabled : Bool) : StateResult Deployment := do
  let redemptionOffer ← .of (loadRedemptionOfferBySeeds d.world redemptionOfferKey)
  authorizeTargetedDisable d signer disabled
  return { d with
    world := d.world.setRedemptionOffer redemptionOfferKey { redemptionOffer with disabled } }

end Switches

section Settings

def setOnycMint (d : Deployment) (boss : Signer) (onycMint : Pubkey) : StateResult Deployment := do
  d.requireBoss boss
  let onycMint ← .of (d.world.loadMint onycMint)
  return d.setState { d.world.state with onycMint := onycMint.key }

def setWorker (d : Deployment) (boss : Signer) (newWorker : Pubkey) : StateResult Deployment := do
  d.requireBoss boss
  requireOnre (newWorker ≠ d.world.state.worker) .noChange
  return d.setState { d.world.state with worker := newWorker }

def configureMaxSupply (d : Deployment) (boss : Signer) (maxSupply : Nat)
    : StateResult Deployment := do
  d.requireBoss boss
  return d.setState { d.world.state with maxSupply }

def configureMaxMintAmount (d : Deployment) (boss : Signer) (maxMintAmount : Nat)
    : StateResult Deployment := do
  d.requireBoss boss
  return d.setState { d.world.state with maxMintAmount }

end Settings

section Lifecycle

def closeState (d : Deployment) (boss : Signer) : StateResult Deployment := do
  requireState (boss.key = d.boss) .unauthorizedSigner
  return { d with stateIsOpen := false }

def initializeState (d : Deployment) (boss : Signer) (onycMint : Pubkey)
    : StateResult Deployment := do
  requireConstraint (d.stateIsOpen = false)
  let onycMint ← .of (d.world.loadMint onycMint)
  -- without an upgrade authority anybody may initialize
  requireState (∀ authority ∈ d.upgradeAuthority, boss.key = authority) .wrongOwner
  return { d.setState {
      boss := boss.key
      isKilled := false
      onycMint := onycMint.key
      maxSupply := 0
      worker := .default
      maxMintAmount := 0
      mainOffer := .default
    } with
    stateIsOpen := true
    governance := .initial
  }

end Lifecycle

end OnreApp
