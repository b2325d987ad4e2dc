import OnreApp.Program
import OnreApp.PropAmm.Lemmas.Swap

namespace OnreApp

open Checked TokenLedger

variable {clock : Clock} {w w₁ w' : World} {tokenInMint tokenOutMint : MintAccount} {k m : Pubkey}

section Refill

open calculateRedemptionVaultRefillAmount

variable {stats : Option MarketStats} {bps tokenInDecimals tokenOutDecimals balance net refill : Nat}

theorem hardWallReserveFromTvl_eq_targetLiquidity {stats : MarketStats} {reserve : Nat}
    (h : hardWallReserveFromTvl stats.tvl bps tokenInDecimals tokenOutDecimals = .ok reserve)
    : targetLiquidity (some stats) bps tokenInDecimals tokenOutDecimals = .ok reserve := by
  simp only [hardWallReserveFromTvl, bind_eq_ok, okOr_eq_ok, checkedMul_eq_some, checkedDiv_eq_some,
    pure_eq_ok] at h
  rcases h with ⟨_, ⟨hweighted, rfl⟩, _, ⟨_, rfl⟩, tokenInScale, hin, tokenOutScale, hout, _,
    ⟨hscaled, rfl⟩, _, ⟨_, rfl⟩, _, _, _, _, rfl⟩
  -- what does not overflow does not saturate
  have hbps : saturatingMul u128Max stats.tvl bps = stats.tvl * bps := Nat.min_eq_left hweighted
  have hscale : saturatingMul u128Max (stats.tvl * bps / maxBasisPoints) tokenInScale
      = stats.tvl * bps / maxBasisPoints * tokenInScale := Nat.min_eq_left hscaled
  simp only [targetLiquidity, hin, hout, hbps]
  show Except.ok (saturatingMul u128Max (stats.tvl * bps / maxBasisPoints) tokenInScale
    / tokenOutScale) = _
  rw [hscale]

structure Refilled (stats : Option MarketStats) (targetBps : Option Nat)
    (tokenInDecimals tokenOutDecimals before after refill : Nat) : Prop where
  untargeted : targetBps.getD 0 = 0 → refill = 0
  targeted : 0 < refill → ∃ (target : Nat),
    targetLiquidity stats (targetBps.getD 0) tokenInDecimals tokenOutDecimals = .ok target ∧
    after ≤ max before target

theorem calculateRedemptionVaultRefillAmount_inv {targetBps : Option Nat}
    (h : calculateRedemptionVaultRefillAmount stats (targetBps.getD 0) tokenInMint tokenOutMint
      balance net = .ok refill)
    : refill ≤ net ∧
      Refilled stats targetBps tokenInMint.decimals tokenOutMint.decimals balance (balance + refill)
        refill := by
  unfold calculateRedemptionVaultRefillAmount at h
  split at h
  . cases h
    exact ⟨Nat.zero_le _, fun _ => rfl, fun hpos => absurd hpos (Nat.lt_irrefl 0)⟩
  . next htargeted =>
    simp only [bind_eq_ok, pure_eq_ok] at h
    rcases h with ⟨target, htarget, rfl⟩
    refine ⟨Nat.min_le_right _ _, fun huntargeted => absurd huntargeted htargeted, ?_⟩
    intro _
    exact ⟨target, htarget, by omega⟩

theorem redemptionVaultRefill_inv {offerKey account : Pubkey} {refill : Option Nat}
    (h : redemptionVaultRefill w offerKey account tokenInMint tokenOutMint net = .ok refill)
    : ∃ (targetBps : Option Nat),
        loadRedemptionOfferVaultTargetBpsForOffer w offerKey tokenInMint.key tokenOutMint.key
          = .ok targetBps ∧
        (refill.getD 0 ≤ if programControlsMint tokenInMint then 0 else net) ∧
        Refilled (readMarketStatsAccount w account) targetBps tokenInMint.decimals
          tokenOutMint.decimals (w.ledger.balance .redemptionVaultAuthority tokenInMint.key)
          (w.ledger.balance .redemptionVaultAuthority tokenInMint.key + refill.getD 0)
          (refill.getD 0) := by
  simp only [redemptionVaultRefill, bind_eq_ok] at h
  rcases h with ⟨targetBps, htarget, h⟩
  refine ⟨targetBps, htarget, ?_⟩
  split at h
  . next hrefills =>
    simp only [bind_eq_ok, pure_eq_ok] at h
    rcases h with ⟨amount, hamount, rfl⟩
    rcases calculateRedemptionVaultRefillAmount_inv hamount with ⟨hle, hrefilled⟩
    rw [hrefills.2]
    exact ⟨hle, hrefilled⟩
  . cases h
    exact ⟨Nat.zero_le _, fun _ => rfl, fun hpos => absurd hpos (Nat.lt_irrefl 0)⟩

end Refill

structure Route where
  user : Signer
  tokenInMint : Pubkey
  tokenOutMint : Pubkey
  marketStats : Pubkey
  tokenInAmount : Nat
  feeBasisPoints : Offer → Nat
  feeAccount : Pubkey
  proceedsAccount : Pubkey
  -- whether a payment in a mint the program controls is burned
  burnsControlled : Bool

structure Routed (route : Route) (burnsTokenIn mintsTokenOut : Bool) (w w' : World)
    (fee net refill tokenOutAmount : Nat) : Prop where
  split : route.tokenInAmount = fee + net
  userIn : w'.ledger.balance route.user.key route.tokenInMint + route.tokenInAmount
    = w.ledger.balance route.user.key route.tokenInMint
  feeAccount : w'.ledger.balance route.feeAccount route.tokenInMint
    = w.ledger.balance route.feeAccount route.tokenInMint + fee
  -- what is not burned is in the redemption vault or with the proceeds
  burned : w'.ledger.supply route.tokenInMint + (if burnsTokenIn then net else 0)
    = w.ledger.supply route.tokenInMint
  redemptionVault : w'.ledger.balance .redemptionVaultAuthority route.tokenInMint
    = w.ledger.balance .redemptionVaultAuthority route.tokenInMint + refill
  proceeds : w'.ledger.balance route.proceedsAccount route.tokenInMint
    = w.ledger.balance route.proceedsAccount route.tokenInMint +
      (if burnsTokenIn then 0 else net - refill)
  refill_le : refill ≤ if burnsTokenIn then 0 else net
  intermediaryIn : w'.ledger.balance .permissionlessAuthority route.tokenInMint
    = w.ledger.balance .permissionlessAuthority route.tokenInMint
  intermediaryOut : w'.ledger.balance .permissionlessAuthority route.tokenOutMint
    = w.ledger.balance .permissionlessAuthority route.tokenOutMint
  userOut : w'.ledger.balance route.user.key route.tokenOutMint
    = w.ledger.balance route.user.key route.tokenOutMint + tokenOutAmount
  offerVault : w'.ledger.balance .offerVaultAuthority route.tokenOutMint +
      (if mintsTokenOut then 0 else tokenOutAmount)
    = w.ledger.balance .offerVaultAuthority route.tokenOutMint
  minted : ∃ (ops : List LedgerOp), w'.ledger.log = ops.reverse ++ w.ledger.log ∧
    mintedTo (fun account => !isAccrualVault account) route.tokenOutMint ops
      = if mintsTokenOut then tokenOutAmount else 0

/-- What the instruction's own operations do to the accounts of the route. -/
structure Route.Flows (route : Route) (burnsTokenIn mintsTokenOut : Bool)
    (fee net refill tokenOutAmount : Nat) (own : List LedgerOp) : Prop where
  userIn : debited route.user.key route.tokenInMint own
    = credited route.user.key route.tokenInMint own + route.tokenInAmount
  feeAccount : credited route.feeAccount route.tokenInMint own
    = debited route.feeAccount route.tokenInMint own + fee
  burned : TokenLedger.burned route.tokenInMint own = if burnsTokenIn then net else 0
  redemptionVault : credited .redemptionVaultAuthority route.tokenInMint own
    = debited .redemptionVaultAuthority route.tokenInMint own + refill
  proceeds : credited route.proceedsAccount route.tokenInMint own
    = debited route.proceedsAccount route.tokenInMint own +
      (if burnsTokenIn then 0 else net - refill)
  intermediaryIn : credited .permissionlessAuthority route.tokenInMint own
    = debited .permissionlessAuthority route.tokenInMint own
  intermediaryOut : credited .permissionlessAuthority route.tokenOutMint own
    = debited .permissionlessAuthority route.tokenOutMint own
  userOut : credited route.user.key route.tokenOutMint own
    = debited route.user.key route.tokenOutMint own + tokenOutAmount
  offerVault : debited .offerVaultAuthority route.tokenOutMint own
    = credited .offerVaultAuthority route.tokenOutMint own +
      (if mintsTokenOut then 0 else tokenOutAmount)
  minted : mintedTo (fun account => !isAccrualVault account) route.tokenOutMint own
    = if mintsTokenOut then tokenOutAmount else 0
  mintedIn : TokenLedger.minted route.tokenInMint own = 0

theorem SupplyStep.routed {route : Route} {burnsTokenIn mintsTokenOut : Bool}
    {accrual : Option BufferAccrualResult} {own : List LedgerOp}
    {fee net refill tokenOutAmount mintedAmount burnedAmount : Nat}
    (h : SupplyStep clock w w₁ w' tokenOutMint accrual own mintedAmount burnedAmount)
    (hflows : route.Flows burnsTokenIn mintsTokenOut fee net refill tokenOutAmount own)
    (hne : route.tokenInMint ≠ tokenOutMint.key) (hsplit : route.tokenInAmount = fee + net)
    (hrefill : refill ≤ if burnsTokenIn then 0 else net)
    (hfee : isAccrualVault route.feeAccount = false)
    (hproceeds : isAccrualVault route.proceedsAccount = false)
    : Routed route burnsTokenIn mintsTokenOut w w' fee net refill tokenOutAmount where
  split := hsplit
  userIn := by
    have hbalance := h.balance (k := route.user.key) rfl route.tokenInMint
    rw [hflows.userIn] at hbalance
    omega
  feeAccount := by
    have hbalance := h.balance hfee route.tokenInMint
    rw [hflows.feeAccount] at hbalance
    omega
  burned := by
    have haccrual := h.accrues.performs.supply route.tokenInMint
    have hown := h.performs.supply route.tokenInMint
    rw [AccrualStep.burned_ops, h.accrues.minted_ops, if_neg hne] at haccrual
    rw [hflows.burned, hflows.mintedIn] at hown
    omega
  redemptionVault := by
    have hbalance := h.balance (k := .redemptionVaultAuthority) rfl route.tokenInMint
    rw [hflows.redemptionVault] at hbalance
    omega
  proceeds := by
    have hbalance := h.balance hproceeds route.tokenInMint
    rw [hflows.proceeds] at hbalance
    omega
  refill_le := hrefill
  intermediaryIn := by
    have hbalance := h.balance (k := .permissionlessAuthority) rfl route.tokenInMint
    rw [hflows.intermediaryIn] at hbalance
    omega
  intermediaryOut := by
    have hbalance := h.balance (k := .permissionlessAuthority) rfl route.tokenOutMint
    rw [hflows.intermediaryOut] at hbalance
    omega
  userOut := by
    have hbalance := h.balance (k := route.user.key) rfl route.tokenOutMint
    rw [hflows.userOut] at hbalance
    omega
  offerVault := by
    have hbalance := h.balance (k := .offerVaultAuthority) rfl route.tokenOutMint
    rw [hflows.offerVault] at hbalance
    omega
  minted := by
    refine ⟨_, (h.accrues.performs.append h.performs).log, ?_⟩
    rw [mintedTo_append, AccrualStep.mintedTo_not_isAccrualVault_ops, Nat.zero_add, hflows.minted]

section TakeOffer

open executeTokenOperations

variable {state : State} {args : TakeOfferArgs} {result : OfferProcessResult} {refill : Option Nat}
  {supply : Nat}

def TakeOfferArgs.route (args : TakeOfferArgs) (feeBasisPoints : Offer → Nat) (feeAccount : Pubkey)
    : Route where
  user := args.user
  tokenInMint := args.tokenInMint
  tokenOutMint := args.tokenOutMint
  marketStats := args.marketStats
  tokenInAmount := args.tokenInAmount
  feeBasisPoints := feeBasisPoints
  feeAccount := feeAccount
  proceedsAccount := .configurableVault .offerProceeds
  burnsControlled := true

theorem takeOfferV2.flows (hin : args.tokenInMint = tokenInMint.key)
    (hout : args.tokenOutMint = tokenOutMint.key) (hne : tokenInMint.key ≠ tokenOutMint.key)
    (hsplit : args.tokenInAmount = result.tokenInFeeAmount + result.tokenInNetAmount)
    (hrefill : refill.getD 0 ≤ if programControlsMint tokenInMint then 0
      else result.tokenInNetAmount)
    : (args.route Offer.feeBasisPoints (.configurableVault .offerFee)).Flows
        (programControlsMint tokenInMint) (programControlsMint tokenOutMint)
        result.tokenInFeeAmount result.tokenInNetAmount (refill.getD 0) result.tokenOutAmount
        (tokenOps supply (opsParams state args tokenInMint tokenOutMint result refill)) := by
  have hne' := hne.symm
  constructor
  case minted =>
    rw [tokenOps, mintedTo_append, mintedTo_takeOps, mintedTo_distributeOps_eq rfl]
    simp [TakeOfferArgs.route, opsParams, hout]
  case mintedIn =>
    rw [minted_tokenOps]
    simp [TakeOfferArgs.route, opsParams, hin, hne]
  all_goals
    simp only [tokenOps, TakeOfferArgs.route, debited_append, credited_append, burned_append,
      debited_takeOps_eq, credited_takeOps_eq, debited_distributeOps_eq, credited_distributeOps_eq,
      burned_takeOps_eq, burned_distributeOps, opsParams, hin, hout, hne, hne', Signer.key]
    cases hcontrols : programControlsMint tokenInMint <;>
    cases hmints : programControlsMint tokenOutMint <;>
    cases refill
    all_goals
      simp [hcontrols] at hrefill ⊢
      try omega

theorem takeOfferPermissionlessV2.flows (hin : args.tokenInMint = tokenInMint.key)
    (hout : args.tokenOutMint = tokenOutMint.key) (hne : tokenInMint.key ≠ tokenOutMint.key)
    (hsplit : args.tokenInAmount = result.tokenInFeeAmount + result.tokenInNetAmount)
    (hrefill : refill.getD 0 ≤ if programControlsMint tokenInMint then 0
      else result.tokenInNetAmount)
    : (args.route Offer.feeBasisPointsPermissionless
        (.configurableVault .permissionlessOfferFee)).Flows
        (programControlsMint tokenInMint) (programControlsMint tokenOutMint)
        result.tokenInFeeAmount result.tokenInNetAmount (refill.getD 0) result.tokenOutAmount
        (throughOps args.user args.tokenInAmount supply
          (opsParams state tokenInMint tokenOutMint result refill)) := by
  have hne' := hne.symm
  constructor
  case minted =>
    simp only [throughOps, tokenOps, mintedTo_append, mintedTo_takeOps, mintedTo_cons, mintedTo_nil,
      Op.mintedTo, Nat.zero_add, Nat.add_zero]
    rw [mintedTo_distributeOps_eq rfl]
    simp [TakeOfferArgs.route, opsParams, hout]
  case mintedIn =>
    rw [minted_throughOps]
    simp [TakeOfferArgs.route, opsParams, hin, hne]
  all_goals
    simp only [throughOps, tokenOps, TakeOfferArgs.route, debited_append, credited_append,
      burned_append, debited_cons, debited_nil, credited_cons, credited_nil, burned_cons, burned_nil,
      Op.debited, Op.credited, Op.burned,
      debited_takeOps_eq, credited_takeOps_eq, debited_distributeOps_eq, credited_distributeOps_eq,
      burned_takeOps_eq, burned_distributeOps, opsParams, hin, hout, hne, hne', Signer.key]
    cases hcontrols : programControlsMint tokenInMint <;>
    cases hmints : programControlsMint tokenOutMint <;>
    cases refill
    all_goals
      simp [hcontrols] at hrefill ⊢
      try omega

end TakeOffer

section OpenSwapBuy

variable {args : OpenSwapArgs} {result : OfferProcessResult} {refillAmount supply : Nat}

def OpenSwapArgs.route (args : OpenSwapArgs) : Route where
  user := args.user
  tokenInMint := args.tokenInMint
  tokenOutMint := args.tokenOutMint
  marketStats := .marketStats
  tokenInAmount := args.tokenInAmount
  feeBasisPoints := Offer.feeBasisPointsPermissionless
  feeAccount := .configurableVault .propAmmBuyFee
  proceedsAccount := .configurableVault .propAmmProceeds
  burnsControlled := false

theorem openSwapBuy.flows (hin : args.tokenInMint = tokenInMint.key)
    (hout : args.tokenOutMint = tokenOutMint.key) (hne : tokenInMint.key ≠ tokenOutMint.key)
    (hsplit : args.tokenInAmount = result.tokenInFeeAmount + result.tokenInNetAmount)
    (hrefill : refillAmount ≤ result.tokenInNetAmount)
    : args.route.Flows false (programControlsMint tokenOutMint) result.tokenInFeeAmount
        result.tokenInNetAmount refillAmount result.tokenOutAmount
        (ops args tokenInMint tokenOutMint supply result refillAmount
          (result.tokenInNetAmount - refillAmount)) := by
  have hne' := hne.symm
  constructor
  case minted =>
    unfold ops takeOps distributeOps
    cases programControlsMint tokenOutMint <;>
      simp [OpenSwapArgs.route, Op.mintedTo, isAccrualVault, Signer.key, hout]
  case mintedIn =>
    rw [minted_ops]
    simp [OpenSwapArgs.route, hin, hne]
  case burned =>
    rw [burned_ops]
    simp
  all_goals
    unfold ops takeOps distributeOps
    cases programControlsMint tokenOutMint
    all_goals
      simp [OpenSwapArgs.route, Op.debited, Op.credited, hin, hout, hne, hne', Signer.key,
        debited_transferOps, credited_transferOps]
      try omega

end OpenSwapBuy

section Purchases

def Instruction.route : Instruction → Option Route
  | .takeOfferV2 args _ => some (args.route Offer.feeBasisPoints (.configurableVault .offerFee))
  | .takeOfferPermissionlessV2 args =>
    some (args.route Offer.feeBasisPointsPermissionless (.configurableVault .permissionlessOfferFee))
  | .openSwapBuy args => some args.route
  | _ => none

variable {route : Route} {accrual : Option BufferAccrualResult} {own : List LedgerOp}
  {result : OfferProcessResult}

theorem AccrualStep.marketStats (h : AccrualStep clock w tokenOutMint accrual w₁)
    : w₁.marketStats = w.marketStats := by
  cases h <;> rfl

theorem AccrualStep.balance (h : AccrualStep clock w tokenOutMint accrual w₁)
    (hk : isAccrualVault k = false) : w₁.ledger.balance k m = w.ledger.balance k m := by
  have hbalance := h.performs.balance k m
  rw [AccrualStep.debited_ops, AccrualStep.credited_ops hk] at hbalance
  exact hbalance

theorem AccrualStep.vaultTargetBps (h : AccrualStep clock w tokenOutMint accrual w₁)
    (offerKey tokenInKey tokenOutKey : Pubkey)
    : loadRedemptionOfferVaultTargetBpsForOffer w₁ offerKey tokenInKey tokenOutKey
        =
      loadRedemptionOfferVaultTargetBpsForOffer w offerKey tokenInKey tokenOutKey := by
  unfold loadRedemptionOfferVaultTargetBpsForOffer
  rw [h.marketOnly.redemptionOffers]

theorem AccrualStep.redemptionVaultRefill (h : AccrualStep clock w tokenOutMint accrual w₁)
    (offerKey account : Pubkey) (net : Nat) {l : Ledger}
    : redemptionVaultRefill w₁ offerKey account tokenInMint
        (reloadAfterAccrual accrual tokenOutMint l) net
        =
      redemptionVaultRefill w offerKey account tokenInMint tokenOutMint net := by
  have hbalance : w₁.ledger.balance .redemptionVaultAuthority tokenInMint.key
      = w.ledger.balance .redemptionVaultAuthority tokenInMint.key := h.balance rfl
  have hstats := h.marketStats
  simp only [OnreApp.redemptionVaultRefill, readMarketStatsAccount, h.vaultTargetBps, hbalance,
    hstats]
  cases accrual <;> rfl

/-- A purchase at the price of the offer, routed and within the target of the redemption vault. -/
structure Route.Completed (route : Route) (clock : Clock) (w w' : World) (offer : Offer)
    (tokenInMint tokenOutMint : MintAccount) (result : OfferProcessResult)
    (targetBps : Option Nat) (refill : Nat) : Prop where
  loadsOffer : w.offers (.offer route.tokenInMint route.tokenOutMint) = some offer
  loadsTokenIn : w.loadMint route.tokenInMint = .ok tokenInMint
  loadsTokenOut : w.loadMint route.tokenOutMint = .ok tokenOutMint
  processed : processOfferCore clock offer route.tokenInAmount tokenInMint tokenOutMint
    (route.feeBasisPoints offer) = .ok result
  loadsTarget : loadRedemptionOfferVaultTargetBpsForOffer w
    (.offer route.tokenInMint route.tokenOutMint) route.tokenInMint route.tokenOutMint
    = .ok targetBps
  routed : Routed route (route.burnsControlled && programControlsMint tokenInMint)
    (programControlsMint tokenOutMint) w w' result.tokenInFeeAmount result.tokenInNetAmount refill
    result.tokenOutAmount
  refilled : Refilled (readMarketStatsAccount w route.marketStats) targetBps tokenInMint.decimals
    tokenOutMint.decimals (w.ledger.balance .redemptionVaultAuthority route.tokenInMint)
    (w'.ledger.balance .redemptionVaultAuthority route.tokenInMint) refill

theorem processOfferCore_split {offer : Offer} {amount bps : Nat}
    (h : processOfferCore clock offer amount tokenInMint tokenOutMint bps = .ok result)
    : amount = result.tokenInFeeAmount + result.tokenInNetAmount := by
  rcases processOfferCore_inv h with ⟨_, _, hfees, _⟩
  exact (calculateFees_inv hfees).2.symm

-- The flows are those of the mint after the accrual, which has the key and the authority it had.
theorem Purchase.completed {offer : Offer} {targetBps : Option Nat} {refill : Nat}
    (h : Purchase clock w w₁ w' tokenInMint tokenOutMint accrual own result.tokenOutAmount)
    (hne : route.tokenInMint ≠ route.tokenOutMint)
    (hoffer : w.offers (.offer route.tokenInMint route.tokenOutMint) = some offer)
    (hin : w.loadMint route.tokenInMint = .ok tokenInMint)
    (hout : w.loadMint route.tokenOutMint = .ok tokenOutMint)
    (hresult : processOfferCore clock offer route.tokenInAmount tokenInMint tokenOutMint
      (route.feeBasisPoints offer) = .ok result)
    (htarget : loadRedemptionOfferVaultTargetBpsForOffer w
      (.offer route.tokenInMint route.tokenOutMint) tokenInMint.key tokenOutMint.key
      = .ok targetBps)
    (hrefilled : Refilled (readMarketStatsAccount w route.marketStats) targetBps
      tokenInMint.decimals tokenOutMint.decimals (w.ledger.balance .redemptionVaultAuthority tokenInMint.key)
      (w.ledger.balance .redemptionVaultAuthority tokenInMint.key + refill) refill)
    (hle : refill ≤ if route.burnsControlled && programControlsMint tokenInMint then 0
      else result.tokenInNetAmount)
    (hfee : isAccrualVault route.feeAccount = false)
    (hproceeds : isAccrualVault route.proceedsAccount = false)
    (hflows : ∀ (mint : MintAccount), mint = reloadAfterAccrual accrual tokenOutMint w₁.ledger →
      route.tokenInMint = tokenInMint.key → route.tokenOutMint = mint.key →
      tokenInMint.key ≠ mint.key →
      route.tokenInAmount = result.tokenInFeeAmount + result.tokenInNetAmount →
      route.Flows (route.burnsControlled && programControlsMint tokenInMint)
        (programControlsMint mint) result.tokenInFeeAmount result.tokenInNetAmount refill
        result.tokenOutAmount own)
    : route.Completed clock w w' offer tokenInMint tokenOutMint result targetBps refill := by
  have hsplit := processOfferCore_split hresult
  have hinKey := (World.loadMint_inv hin).1
  have houtKey := (World.loadMint_inv hout).1
  have hflows' := hflows _ rfl hinKey.symm (by rw [reloadAfterAccrual_key, houtKey])
    (by rwa [reloadAfterAccrual_key, hinKey, houtKey]) hsplit
  rw [programControlsMint_reloadAfterAccrual] at hflows'
  have hrouted := h.step.routed hflows' (by rwa [houtKey]) hsplit hle hfee hproceeds
  rw [hinKey, houtKey] at htarget
  rw [hinKey, ← hrouted.redemptionVault] at hrefilled
  exact ⟨hoffer, hin, hout, hresult, htarget, hrouted, hrefilled⟩

theorem takeOfferV2_routed {args : TakeOfferArgs} {approvalMessage : Option (Result Unit)}
    (hne : args.tokenInMint ≠ args.tokenOutMint)
    (h : takeOfferV2 clock w args approvalMessage = .ok w')
    : ∃ (offer : Offer) (tokenInMint tokenOutMint : MintAccount) (result : OfferProcessResult)
        (targetBps : Option Nat) (refill : Nat),
        (args.route Offer.feeBasisPoints (.configurableVault .offerFee)).Completed clock w w' offer
          tokenInMint tokenOutMint result targetBps refill := by
  rcases takeOfferV2_inv h with ⟨offer, tokenInMint, tokenOutMint, result, accrual, w₁, own,
    htrades, hin, hout, hresult, hpurchase, _, supply, refill, hrefill, rfl⟩
  rcases redemptionVaultRefill_inv hrefill with ⟨targetBps, htarget, hle, hrefilled⟩
  refine ⟨offer, tokenInMint, tokenOutMint, result, targetBps, refill.getD 0, ?_⟩
  apply hpurchase.completed hne htrades.load hin hout hresult htarget hrefilled hle rfl rfl
  rintro _ rfl hinKey houtKey hkeys hsplit
  exact takeOfferV2.flows hinKey houtKey hkeys hsplit hle

theorem takeOfferPermissionlessV2_routed {args : TakeOfferArgs}
    (hne : args.tokenInMint ≠ args.tokenOutMint)
    (h : takeOfferPermissionlessV2 clock w args = .ok w')
    : ∃ (offer : Offer) (tokenInMint tokenOutMint : MintAccount) (result : OfferProcessResult)
        (targetBps : Option Nat) (refill : Nat),
        (args.route Offer.feeBasisPointsPermissionless
          (.configurableVault .permissionlessOfferFee)).Completed clock w w' offer
          tokenInMint tokenOutMint result targetBps refill := by
  rcases takeOfferPermissionlessV2_inv h with ⟨offer, tokenInMint, tokenOutMint, result, accrual, w₁,
    own, htrades, hin, hout, hresult, hpurchase, supply, refill, hrefill, rfl⟩
  rw [hpurchase.step.accrues.redemptionVaultRefill] at hrefill
  rcases redemptionVaultRefill_inv hrefill with ⟨targetBps, htarget, hle, hrefilled⟩
  refine ⟨offer, tokenInMint, tokenOutMint, result, targetBps, refill.getD 0, ?_⟩
  apply hpurchase.completed hne htrades.load hin hout hresult htarget hrefilled hle rfl rfl
  rintro _ rfl hinKey houtKey hkeys hsplit
  exact takeOfferPermissionlessV2.flows hinKey houtKey hkeys hsplit hle

theorem openSwapBuy_routed {args : OpenSwapArgs} (hne : args.tokenInMint ≠ args.tokenOutMint)
    (h : openSwapBuy clock w args = .ok w')
    : ∃ (offer : Offer) (tokenInMint tokenOutMint : MintAccount) (result : OfferProcessResult)
        (targetBps : Option Nat) (refill : Nat),
        args.route.Completed clock w w' offer tokenInMint tokenOutMint result targetBps
          refill := by
  rcases openSwapBuy_inv h with ⟨offer, tokenInMint, tokenOutMint, result, accrual, w₁, own,
    htrades, hin, hout, hresult, hpurchase, supply, targetBps, refill, htarget, hrefill, rfl⟩
  rw [hpurchase.step.accrues.vaultTargetBps] at htarget
  rw [hpurchase.step.accrues.marketStats] at hrefill
  rcases calculateRedemptionVaultRefillAmount_inv hrefill with ⟨hle, hrefilled⟩
  have hrefilled' : Refilled (readMarketStatsAccount w .marketStats) targetBps tokenInMint.decimals
      tokenOutMint.decimals (w.ledger.balance .redemptionVaultAuthority tokenInMint.key)
      (w.ledger.balance .redemptionVaultAuthority tokenInMint.key + refill) refill := by
    cases accrual <;> exact hrefilled
  refine ⟨offer, tokenInMint, tokenOutMint, result, targetBps, refill, ?_⟩
  apply hpurchase.completed hne htrades.load hin hout hresult htarget hrefilled' hle rfl rfl
  rintro _ rfl hinKey houtKey hkeys hsplit
  exact openSwapBuy.flows hinKey houtKey hkeys hsplit hle

theorem execute_routed {instruction : Instruction} (hroute : instruction.route = some route)
    (hne : route.tokenInMint ≠ route.tokenOutMint) (h : execute clock w instruction = .ok w')
    : (∃ (offer : Offer) (tokenInMint tokenOutMint : MintAccount) (result : OfferProcessResult)
        (targetBps : Option Nat) (refill : Nat),
        route.Completed clock w w' offer tokenInMint tokenOutMint result targetBps refill) ∧
      ∀ (stats : MarketStats) (bps tokenInDecimals tokenOutDecimals reserve : Nat),
        hardWallReserveFromTvl stats.tvl bps tokenInDecimals tokenOutDecimals = .ok reserve →
        calculateRedemptionVaultRefillAmount.targetLiquidity (some stats) bps tokenInDecimals
          tokenOutDecimals = .ok reserve := by
  refine ⟨?_, fun _ _ _ _ _ => hardWallReserveFromTvl_eq_targetLiquidity⟩
  cases instruction with
  | takeOfferV2 args approvalMessage =>
    cases hroute
    exact takeOfferV2_routed hne h
  | takeOfferPermissionlessV2 args =>
    cases hroute
    exact takeOfferPermissionlessV2_routed hne h
  | openSwapBuy args =>
    cases hroute
    exact openSwapBuy_routed hne h
  | _ => cases hroute

theorem execute_routed_refill
    : ∃ (w w' : World) (offer : Offer) (tokenInMint tokenOutMint : MintAccount)
        (result : OfferProcessResult) (targetBps : Option Nat),
        execute ⟨200000, 0⟩ w Sample.purchase = .ok w' ∧
        Route.Completed ⟨Sample.user, Sample.usdc, Sample.onyc, .marketStats, 50000000,
          Offer.feeBasisPoints, .configurableVault .offerFee, .configurableVault .offerProceeds, true⟩
          ⟨200000, 0⟩ w w' offer tokenInMint tokenOutMint result targetBps 19999999 := by
  have hview : (runCalls Sample.world (Sample.launch ++ [
      (⟨1200, 0⟩, .makeRedemptionOffer ⟨Sample.boss, Sample.onyc, Sample.usdc, 100, 0⟩),
      (⟨1200, 0⟩, .updateRedemptionOfferVaultTarget
        ⟨Sample.boss, Sample.redemptionOffer, 2000⟩)])).toOption.bind (fun w =>
      (execute ⟨200000, 0⟩ w Sample.purchase).toOption.bind fun w' =>
        some (w.ledger.balance .redemptionVaultAuthority Sample.usdc,
          w'.ledger.balance .redemptionVaultAuthority Sample.usdc)) =
      some (0, 19999999) := by decide +kernel
  rcases exists_ok_of_view hview with ⟨w, _, hview⟩
  rcases exists_ok_of_view hview with ⟨w', hexecute, hfacts⟩
  simp only [Option.some.injEq, Prod.mk.injEq] at hfacts
  rcases hfacts with ⟨hbefore, hafter⟩
  have hne : Sample.usdc ≠ Sample.onyc := by decide
  rcases (execute_routed rfl hne hexecute).1 with ⟨offer, tokenInMint, tokenOutMint, result,
    targetBps, refill, hcompleted⟩
  have hrefill : w'.ledger.balance .redemptionVaultAuthority Sample.usdc
      = w.ledger.balance .redemptionVaultAuthority Sample.usdc + refill :=
    hcompleted.routed.redemptionVault
  rw [hbefore, hafter, Nat.zero_add] at hrefill
  rw [hrefill]
  exact ⟨w, w', offer, tokenInMint, tokenOutMint, result, targetBps, hexecute, hcompleted⟩

end Purchases

end OnreApp
