import OnreApp.Deployment

/-!
The views clients read, the instruction that stores the market stats, and the one that sums the
balances that do not count as circulating. Every view of version 2 subtracts the stored sum. A view
of version 1 reads the offer vault itself, under the token program its caller names.
-/

namespace OnreApp

open Checked

section Views

variable (clock : Clock) (w : World)

structure ViewArgs where
  tokenInMint : Pubkey
  tokenOutMint : Pubkey
  deriving DecidableEq, Repr

def loadViewedOffer (args : ViewArgs) : Result (Offer × MintAccount) := do
  let offer ← World.load (w.offers (.offer args.tokenInMint args.tokenOutMint))
  let tokenInMint ← w.loadMint args.tokenInMint
  let tokenOutMint ← w.loadMint args.tokenOutMint
  offer.requireMints tokenInMint.key tokenOutMint.key
  return (offer, tokenOutMint)

def getNav (args : ViewArgs) : Result Nat := do
  let (offer, _) ← loadViewedOffer w args
  let valuation ← getOfferValuationSnapshot offer clock.time
  return valuation.currentPrice

def getApy (args : ViewArgs) : Result Nat := do
  let (offer, _) ← loadViewedOffer w args
  let activeVector ← findActiveVectorAt offer clock.time
  calculateApyFromApr activeVector.apr

def getNavAdjustment (args : ViewArgs) : Result Int := do
  let (offer, _) ← loadViewedOffer w args
  let activeVector ← findActiveVectorAt offer clock.time
  let snapshot ← getNavAdjustmentSnapshot offer activeVector
  return snapshot.adjustment

-- an account of the mint under the other token program does not exist
def readOptionalTokenAccountAmount (owner : Pubkey) (mint : MintAccount)
    (tokenProgram : TokenProgram) : Nat :=
  if tokenProgram = mint.tokenProgram then w.ledger.balance owner mint.key else 0

def viewTvl (offer : Offer) (tokenOutMint : MintAccount) (excludedAmount : Nat) : Result Nat := do
  let (_, currentPrice) ← getActiveVectorAndCurrentPrice offer clock.time
  let tokenSupply ← calculateCirculatingSupply tokenOutMint.supply excludedAmount
  mapErr (calculateTvl tokenSupply currentPrice) (.onre .overflow)

def getTvl (args : ViewArgs) (tokenOutProgram : TokenProgram) : Result Nat := do
  let (offer, tokenOutMint) ← loadViewedOffer w args
  viewTvl clock offer tokenOutMint
    (readOptionalTokenAccountAmount w .offerVaultAuthority tokenOutMint tokenOutProgram)

def getTvlV2 (args : ViewArgs) : Result Nat := do
  let (offer, tokenOutMint) ← loadViewedOffer w args
  require (tokenOutMint.key = w.state.onycMint) .invalidOnycMint
  viewTvl clock offer tokenOutMint (loadCirculatingSupplyExcludedBalanceAmount w)

def getCirculatingSupply (tokenProgram : TokenProgram) : Result Nat := do
  let onycMint ← w.loadMint w.state.onycMint
  calculateCirculatingSupply onycMint.supply
    (readOptionalTokenAccountAmount w .offerVaultAuthority onycMint tokenProgram)

def getCirculatingSupplyV2 : Result Nat := do
  let onycMint ← w.loadMint w.state.onycMint
  calculateCirculatingSupply onycMint.supply (loadCirculatingSupplyExcludedBalanceAmount w)

end Views

def refreshMarketStats (clock : Clock) (d : Deployment) (tokenInMint : Pubkey)
    : StateResult Deployment := do
  let tokenInMint ← .of (d.world.loadMint tokenInMint)
  let onycMint ← .of (d.world.loadMint d.world.state.onycMint)
  let mainOffer ← .of (loadMainOffer d.world)
  requireOnre (tokenInMint.key = mainOffer.tokenInMint) .invalidTokenInMint
  requireOnre (onycMint.key = mainOffer.tokenOutMint) .invalidTokenOutMint
  let world ← .of (refreshMarketStatsPda clock d.world mainOffer onycMint)
  return { d with world }

section ExcludedBalance

def validateUniqueNonDefaultOwners
    (owners : Vector Pubkey maxCirculatingSupplyExcludedAccounts) : StateResult Unit :=
  requireState
    (∀ (i j : Fin maxCirculatingSupplyExcludedAccounts),
      owners.get i ≠ .default → j < i → owners.get j ≠ owners.get i)
    .duplicateExcludedAccountOwner

def setCirculatingSupplyExcludedAccounts (d : Deployment) (boss : Signer)
    (owners : Vector Pubkey maxCirculatingSupplyExcludedAccounts) : StateResult Deployment := do
  requireOnre (boss.key = d.boss) .invalidBoss
  validateUniqueNonDefaultOwners owners
  return { d with excludedAccounts := some owners }

/-- The address of an associated token account under the token program of its mint. -/
structure TokenAccountKey where
  owner : Pubkey
  mint : Pubkey
  deriving DecidableEq, Repr

def activeOwners (owners : Vector Pubkey maxCirculatingSupplyExcludedAccounts) : List Pubkey :=
  owners.toList.filter fun owner => owner ≠ .default

-- of each owner only the associated token account counts
def addExcludedBalances (ledger : Ledger) (onycMint : Pubkey) (amount : Nat)
    : List (Pubkey × TokenAccountKey) → StateResult Nat
  | [] => return amount
  | (owner, account) :: rest => do
    requireState (account = ⟨owner, onycMint⟩) .invalidExcludedTokenAccount
    let amount ← Checked.okOr (checkedAdd u64Max amount (ledger.balance owner onycMint))
      (.fault (.onre .mathOverflow))
    addExcludedBalances ledger onycMint amount rest

def updateCirculatingSupplyExcludedBalance (d : Deployment)
    (remainingAccounts : List TokenAccountKey) : StateResult Deployment := do
  let onycMint ← .of (d.world.loadMint d.world.state.onycMint)
  let owners ← .of (World.load d.excludedAccounts)
  requireState (remainingAccounts.length ≤ (activeOwners owners).length)
    .tooManyExcludedTokenAccounts
  requireState (remainingAccounts.length = (activeOwners owners).length)
    .missingExcludedTokenAccount
  let amount ← addExcludedBalances d.world.ledger onycMint.key 0
    ((activeOwners owners).zip remainingAccounts)
  return { d with world := { d.world with circulatingSupplyExcludedBalance := some amount } }

end ExcludedBalance

end OnreApp
