import OnreApp.Deployment

namespace OnreApp

open Checked

section OfferVault

structure VaultArgs where
  signer : Signer
  tokenMint : Pubkey
  amount : Nat
  deriving DecidableEq, Repr

def offerVaultDeposit (d : Deployment) (args : VaultArgs) : StateResult Deployment := do
  .of d.world.requireNotKilled
  let tokenMint ← .of (d.world.loadMint args.tokenMint)
  requireOnre (hasTransferFee tokenMint = false) .transferFeeNotSupported
  let ledger ← .of (transferTokens d.world.ledger tokenMint args.signer.key .offerVaultAuthority
    args.amount)
  return d.setLedger ledger

def offerVaultWithdraw (d : Deployment) (args : VaultArgs) : StateResult Deployment := do
  let tokenMint ← .of (d.world.loadMint args.tokenMint)
  d.requireBoss args.signer
  .of d.world.requireNotKilled
  requireOnre (hasTransferFee tokenMint = false) .transferFeeNotSupported
  let ledger ← .of (transferTokens d.world.ledger tokenMint .offerVaultAuthority args.signer.key
    args.amount)
  return d.setLedger ledger

end OfferVault

section ReserveVault

def loadReserveMint (d : Deployment) : StateResult MintAccount := do
  .of d.world.requireNotKilled
  let bufferState ← .of (World.load d.world.bufferState)
  let onycMint ← .of (d.world.loadMint d.world.state.onycMint)
  requireConstraint (bufferState.onycMint = onycMint.key)
  requireOnre (hasTransferFee onycMint = false) .transferFeeNotSupported
  return onycMint

def depositReserveVault (d : Deployment) (depositor : Signer) (amount : Nat)
    : StateResult Deployment := do
  let onycMint ← loadReserveMint d
  let ledger ← .of (transferTokens d.world.ledger onycMint depositor.key .reserveVaultAuthority
    amount)
  return d.setLedger ledger

def withdrawReserveVault (d : Deployment) (boss : Signer) (amount : Nat)
    : StateResult Deployment := do
  d.requireBoss boss
  let onycMint ← loadReserveMint d
  let ledger ← .of (transferTokens d.world.ledger onycMint .reserveVaultAuthority boss.key amount)
  return d.setLedger ledger

end ReserveVault

section ConfigurableVault

def getOrCreateConfigurableVault (d : Deployment) (kind : ConfigurableVaultKind) (e : StateError)
    : StateResult Deployment :=
  match d.configurableVaults kind with
  | none => return d.setVault kind (.initValue kind)
  | some vault => do
    requireState (vault.kind = kind.asU8) e
    return d

def getOrCreateConfigurableVaults (d : Deployment) (e : StateError)
    : List ConfigurableVaultKind → StateResult Deployment
  | [] => return d
  | kind :: kinds => do
    let d ← getOrCreateConfigurableVault d kind e
    getOrCreateConfigurableVaults d e kinds

def setConfigurableVaultDestination (d : Deployment) (boss : Signer) (kind : ConfigurableVaultKind)
    (withdrawalDestination : Pubkey) : StateResult Deployment := do
  requireOnre (boss.key = d.boss) .unauthorized
  -- an account created here is given its kind before the kind is checked
  let vault := (d.configurableVaults kind).getD (.initValue kind)
  requireState (vault.kind = kind.asU8) .invalidConfigurableVaultKind
  requireOnre (vault.withdrawalDestination ≠ withdrawalDestination) .noChange
  return d.setVault kind { vault with withdrawalDestination }

structure WithdrawConfigurableVaultArgs where
  caller : Signer
  kind : ConfigurableVaultKind
  mint : Pubkey
  destination : Pubkey
  amount : Nat
  deriving DecidableEq, Repr

def withdrawConfigurableVault (d : Deployment) (args : WithdrawConfigurableVaultArgs)
    : StateResult Deployment := do
  .of d.world.requireNotKilled
  let vault ← .of (World.load (d.configurableVaults args.kind))
  requireState (vault.kind = args.kind.asU8) .invalidConfigurableVaultKind
  requireState (args.destination = vault.withdrawalDestination) .invalidFeeRecipient
  let mint ← .of (d.world.loadMint args.mint)
  requireOnre (hasTransferFee mint = false) .transferFeeNotSupported
  requireState (vault.withdrawalDestination ≠ .default) .missingConfigurableVaultDestination
  let vaultBalance := d.world.ledger.balance (.configurableVault args.kind) mint.key
  -- the amount 0 asks for everything
  let effectiveAmount := if args.amount = 0 then vaultBalance else args.amount
  requireState (0 < effectiveAmount) .zeroBalance
  requireOnre (effectiveAmount ≤ vaultBalance) .insufficientBalance
  let ledger ← .of (transferTokens d.world.ledger mint (.configurableVault args.kind)
    args.destination effectiveAmount)
  return d.setLedger ledger

end ConfigurableVault

section MintAuthority

def transferMintAuthority (d : Deployment) (boss : Signer) (mintKey current new : Pubkey)
    (e : StateError) : StateResult Deployment := do
  d.requireBoss boss
  let info ← .of (World.load (d.world.mints mintKey))
  -- `unwrap` on a mint without an authority panics
  let authority ← .of (orPanic info.mintAuthority)
  requireState (authority = current) e
  return { d with
    world := { d.world with
      mints := Function.update d.world.mints mintKey (some { info with mintAuthority := some new })
    }
  }

def transferMintAuthorityToBoss (d : Deployment) (boss : Signer) (mintKey : Pubkey)
    : StateResult Deployment :=
  transferMintAuthority d boss mintKey .mintAuthority boss.key .programNotMintAuthority

def transferMintAuthorityToProgram (d : Deployment) (boss : Signer) (mintKey : Pubkey)
    : StateResult Deployment :=
  transferMintAuthority d boss mintKey boss.key .mintAuthority .bossNotMintAuthority

end MintAuthority

end OnreApp
