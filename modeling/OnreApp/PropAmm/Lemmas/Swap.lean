import OnreApp.Offer.Lemmas.TakeOffer
import OnreApp.PropAmm.Impl.Swap
import OnreApp.Redemption.Lemmas.Pricing
import OnreApp.Redemption.Lemmas.RedemptionOps

namespace OnreApp

open Checked TokenLedger

variable {clock : Clock} {w w₁ w' : World} {mint : MintAccount}
  {accrual : Option BufferAccrualResult}

section Validation

variable {state : State} {pair : PropAmmPairState} {offerKey tokenInMint tokenOutMint : Pubkey}

theorem resolveSwapSide_inv {side : SwapSide} {assetMint : Pubkey}
    (h : resolveSwapSide state tokenInMint tokenOutMint = .ok (side, assetMint))
    : (side = .buy ∧ tokenOutMint = state.onycMint ∧ tokenInMint ≠ state.onycMint) ∨
      (side = .sell ∧ tokenInMint = state.onycMint ∧ tokenOutMint ≠ state.onycMint) := by
  simp only [resolveSwapSide, bind_eq_ok, require_eq_ok] at h
  rcases h with ⟨_, _, h⟩
  split at h
  . next hbuy =>
    cases h
    exact .inl ⟨rfl, hbuy⟩
  . split at h
    . next hsell =>
      cases h
      exact .inr ⟨rfl, hsell⟩
    . cases h

theorem validatePropAmmPairForSide_side {expectedSide : SwapSide}
    (h : validatePropAmmPairForSide state pair offerKey tokenInMint tokenOutMint expectedSide
      = .ok ())
    : ∃ (assetMint : Pubkey),
        resolveSwapSide state tokenInMint tokenOutMint = .ok (expectedSide, assetMint) := by
  simp only [validatePropAmmPairForSide, validateCanonicalOffer, bind_eq_ok, require_eq_ok,
    pure_eq_ok] at h
  rcases h with ⟨_, ⟨⟨side, assetMint⟩, hside, _, _, rfl⟩, _, rfl, _⟩
  exact ⟨assetMint, hside⟩

theorem validatePropAmmPairForSide_sell
    (h : validatePropAmmPairForSide state pair offerKey tokenInMint tokenOutMint .sell = .ok ())
    : tokenInMint = state.onycMint ∧ tokenOutMint ≠ state.onycMint := by
  rcases validatePropAmmPairForSide_side h with ⟨_, hside⟩
  rcases resolveSwapSide_inv hside with hbuy | hsell
  . cases hbuy.1
  . exact hsell.2

end Validation

section Record

variable {pair pair' : PropAmmPairState} {n : Nat} {now : Int} {key : Pubkey}

theorem rollPropAmmVolumeTracker_terms (h : rollPropAmmVolumeTracker pair now = .ok pair')
    : pair'.terms = pair.terms := by
  simp only [rollPropAmmVolumeTracker, bind_eq_ok] at h
  rcases h with ⟨_, _, h⟩
  split at h
  . cases h
    rfl
  . rw [bind_eq_ok] at h
    rcases h with ⟨_, _, h⟩
    split at h
    . cases h
      rfl
    . split at h
      . cases h
        rfl
      . cases h
        rfl

theorem recordPropAmmBuy_terms (h : recordPropAmmBuy pair n now = .ok pair')
    : pair'.terms = pair.terms := by
  simp only [recordPropAmmBuy, bind_eq_ok, pure_eq_ok] at h
  rcases h with ⟨rolled, hroll, _, _, rfl⟩
  rw [← rollPropAmmVolumeTracker_terms hroll]
  rfl

theorem recordPropAmmSell_terms (h : recordPropAmmSell pair n now = .ok pair')
    : pair'.terms = pair.terms := by
  simp only [recordPropAmmSell, bind_eq_ok, pure_eq_ok] at h
  rcases h with ⟨rolled, hroll, _, _, _, _, rfl⟩
  rw [← rollPropAmmVolumeTracker_terms hroll]
  rfl

theorem MarketOnly.of_record {l : Ledger} (hpair : w.propAmmPairStates key = some pair)
    (hterms : pair'.terms = pair.terms)
    : MarketOnly w ({ w with ledger := l }.setPropAmmPairState key pair') := by
  refine ⟨rfl, rfl, rfl, rfl, rfl, rfl, rfl, ?_⟩
  have hpaired : { w with ledger := l }.propAmmPairStates key = some pair := hpair
  exact congrArg MarketSettings.propAmmPairStates
    (World.Keeps.setPropAmmPairState hpaired hterms).settings

end Record

namespace openSwapBuy

variable {l l' : Ledger} {args : OpenSwapArgs} {tokenInMint tokenOutMint : MintAccount}
  {result : OfferProcessResult} {refillAmount bossNetAmount tokenOutAmount : Nat} {state : State}
  {m : Pubkey}

def takeOps (tokenInMint : Pubkey) (result : OfferProcessResult)
    (refillAmount bossNetAmount : Nat) : List LedgerOp :=
  transferOps tokenInMint .permissionlessAuthority .redemptionVaultAuthority refillAmount ++
    transferOps tokenInMint .permissionlessAuthority (.configurableVault .propAmmProceeds)
      bossNetAmount ++
    transferOps tokenInMint .permissionlessAuthority (.configurableVault .propAmmBuyFee)
      result.tokenInFeeAmount

theorem takeTokenIn_performs
    (h : takeTokenIn l tokenInMint result refillAmount bossNetAmount = .ok l')
    : Performs u64Max l (takeOps tokenInMint.key result refillAmount bossNetAmount) l' := by
  simp only [takeTokenIn, bind_eq_ok] at h
  rcases h with ⟨l₁, hrefill, l₂, hproceeds, hfee⟩
  exact ((transferPositive_performs hrefill).append (transferPositive_performs hproceeds)).append
    (transferPositive_performs hfee)

def distributeOps (user : Pubkey) (supply : Nat) (tokenOutMint : MintAccount)
    (tokenOutAmount : Nat) : List LedgerOp :=
  if programControlsMint tokenOutMint then
    [.mintTo tokenOutMint.key user tokenOutAmount (supply + tokenOutAmount)]
  else
    [.transfer tokenOutMint.key .offerVaultAuthority .permissionlessAuthority tokenOutAmount,
      .transfer tokenOutMint.key .permissionlessAuthority user tokenOutAmount]

theorem distributeTokenOut_inv
    (h : distributeTokenOut l state args tokenOutMint tokenOutAmount = .ok l')
    : Performs u64Max l
        (distributeOps args.user.key (l.supply tokenOutMint.key) tokenOutMint tokenOutAmount) l' ∧
      (programControlsMint tokenOutMint →
        (0 < state.maxSupply → tokenOutMint.supply + tokenOutAmount ≤ state.maxSupply) ∧
        (0 < state.maxMintAmount → tokenOutAmount ≤ state.maxMintAmount)) := by
  unfold distributeTokenOut at h
  unfold distributeOps
  split at h
  . next hcontrols =>
    rw [if_pos hcontrols]
    rcases mintTokens_inv h with ⟨hperforms, hcaps⟩
    exact ⟨hperforms, fun _ => hcaps⟩
  . next hforeign =>
    rw [if_neg hforeign]
    rw [bind_eq_ok] at h
    rcases h with ⟨l₁, hvault, huser⟩
    exact ⟨(transferTokens_performs hvault).append (transferTokens_performs huser),
      fun hcontrols => absurd hcontrols hforeign⟩

def ops (args : OpenSwapArgs) (tokenInMint tokenOutMint : MintAccount) (supply : Nat)
    (result : OfferProcessResult) (refillAmount bossNetAmount : Nat) : List LedgerOp :=
  [.transfer tokenInMint.key args.user.key .permissionlessAuthority args.tokenInAmount] ++
    takeOps tokenInMint.key result refillAmount bossNetAmount ++
    distributeOps args.user.key supply tokenOutMint result.tokenOutAmount

section Ops

variable {supply : Nat}

theorem minted_ops :
    minted m (ops args tokenInMint tokenOutMint supply result refillAmount bossNetAmount)
      =
    if programControlsMint tokenOutMint ∧ m = tokenOutMint.key then result.tokenOutAmount
    else 0 := by
  unfold ops takeOps distributeOps
  split
  . next hcontrols => simp [Op.minted, hcontrols]
  . next hforeign => simp [Op.minted, hforeign]

theorem mints_ops :
    mints m (ops args tokenInMint tokenOutMint supply result refillAmount bossNetAmount)
      =
    decide (programControlsMint tokenOutMint ∧ m = tokenOutMint.key) := by
  unfold ops takeOps distributeOps
  split
  . next hcontrols => simp [Op.mints, hcontrols]
  . next hforeign => simp [Op.mints, hforeign]

theorem mintedTo_ops :
    mintedTo isAccrualVault m
      (ops args tokenInMint tokenOutMint supply result refillAmount bossNetAmount) = 0 := by
  unfold ops takeOps distributeOps
  split <;> simp [Op.mintedTo, isAccrualVault, Signer.key]

theorem burned_ops :
    burned m (ops args tokenInMint tokenOutMint supply result refillAmount bossNetAmount) = 0 := by
  unfold ops takeOps distributeOps
  split <;> simp [Op.burned]

theorem debited_ops :
    debited .redemptionVaultAuthority m
      (ops args tokenInMint tokenOutMint supply result refillAmount bossNetAmount) = 0 := by
  unfold ops takeOps distributeOps
  split <;> simp [Op.debited, Signer.key]

end Ops

end openSwapBuy

theorem openSwapBuy_inv {args : OpenSwapArgs} (h : openSwapBuy clock w args = .ok w')
    : ∃ (offer : Offer) (tokenInMint tokenOutMint : MintAccount) (result : OfferProcessResult)
        (accrual : Option BufferAccrualResult) (w₁ : World) (own : List LedgerOp),
        TradesAt w (.offer args.tokenInMint args.tokenOutMint) offer ∧
        w.loadMint args.tokenInMint = .ok tokenInMint ∧
        w.loadMint args.tokenOutMint = .ok tokenOutMint ∧
        processOfferCore clock offer args.tokenInAmount tokenInMint tokenOutMint
          offer.feeBasisPointsPermissionless = .ok result ∧
        Purchase clock w w₁ w' tokenInMint tokenOutMint accrual own result.tokenOutAmount ∧
        ∃ (supply : Nat) (targetBps : Option Nat) (refillAmount : Nat),
          loadRedemptionOfferVaultTargetBpsForOffer w₁ (.offer args.tokenInMint args.tokenOutMint)
            tokenInMint.key tokenOutMint.key = .ok targetBps ∧
          calculateRedemptionVaultRefillAmount w₁.marketStats (targetBps.getD 0) tokenInMint
            (reloadAfterAccrual accrual tokenOutMint w₁.ledger)
            (w.ledger.balance .redemptionVaultAuthority tokenInMint.key) result.tokenInNetAmount
            = .ok refillAmount ∧
          own = openSwapBuy.ops args tokenInMint
            (reloadAfterAccrual accrual tokenOutMint w₁.ledger) supply result refillAmount
            (result.tokenInNetAmount - refillAmount) := by
  simp only [openSwapBuy, World.requireNotKilled, Offer.requireEnabled, bind_eq_ok, require_eq_ok,
    World.load_eq_ok, okOr_eq_ok, checkedSub_eq_some] at h
  rcases h with ⟨offer, hoffer, pair, hpair, h⟩
  rcases h with ⟨_, hkilled, tokenInMint, hin, tokenOutMint, hout, h⟩
  rcases h with ⟨_, _, _, henabled, _, _, result, hresult, h⟩
  rcases h with ⟨_, _, _, _, _, _, mainOffer, hmain, ⟨accrual, w₁⟩, haccrue, h⟩
  rcases h with ⟨l₁, htransfer, targetBps, htarget, refillAmount, hrefill, h⟩
  rcases h with ⟨bossNetAmount, ⟨_, hboss⟩, l₂, htake, pair', hrecord, h⟩
  rcases h with ⟨l₃, hdistribute, w₂, hstore, hrefresh⟩
  dsimp only at htransfer htarget hrefill hdistribute hstore hrefresh
  rw [reloadAfterAccrual_key] at htarget
  rcases accrueIf_inv haccrue (loadMainOfferIf_inv hmain) shouldAccrueOnycMint_key with
    ⟨hstep, hsome⟩
  rcases openSwapBuy.distributeTokenOut_inv hdistribute with ⟨hout', hcaps⟩
  have hperforms : ∃ (supply : Nat), Performs u64Max w₁.ledger (openSwapBuy.ops args tokenInMint
      (reloadAfterAccrual accrual tokenOutMint w₁.ledger) supply result refillAmount bossNetAmount)
      l₃ :=
    ⟨_, ((transferTokens_performs htransfer).append
      (openSwapBuy.takeTokenIn_performs htake)).append hout'⟩
  rcases hperforms with ⟨supply, hperforms⟩
  have hminted : ∀ (m : Pubkey), minted m (openSwapBuy.ops args tokenInMint
      (reloadAfterAccrual accrual tokenOutMint w₁.ledger) supply result refillAmount bossNetAmount)
      = if programControlsMint tokenOutMint ∧ m = tokenOutMint.key then result.tokenOutAmount
      else 0 := by
    intro m
    rw [openSwapBuy.minted_ops]
    simp
  have hmints : ∀ (m : Pubkey), mints m (openSwapBuy.ops args tokenInMint
      (reloadAfterAccrual accrual tokenOutMint w₁.ledger) supply result refillAmount bossNetAmount)
      = decide (programControlsMint tokenOutMint ∧ m = tokenOutMint.key) := by
    intro m
    rw [openSwapBuy.mints_ops]
    simp
  simp only [programControlsMint_reloadAfterAccrual] at hcaps
  refine ⟨offer, tokenInMint, tokenOutMint, result, accrual, w₁, _, ⟨hoffer, hkilled, henabled⟩,
    hin, hout, hresult, ?_, supply, targetBps, refillAmount, htarget, hrefill, by rw [hboss]⟩
  rw [← hstep.propAmmPairStates] at hpair
  exact Purchase.of_parts hout hmain hstep hsome (storePostMint_inv hstore)
    (.of_record hpair (recordPropAmmBuy_terms hrecord)) rfl hperforms hrefresh hminted hmints
    hcaps (fun _ => openSwapBuy.mintedTo_ops) (fun _ => openSwapBuy.debited_ops)
    (fun _ => openSwapBuy.burned_ops)

section Sell

theorem AccrualStep.of_marketStats {marketStats : Option MarketStats}
    (h : AccrualStep clock { w with marketStats := marketStats } mint accrual w₁)
    : AccrualStep clock w mint accrual { w₁ with marketStats := w.marketStats } := by
  -- the accrual does not read the market stats
  cases h with
  | none => exact .none
  | some hoffer hmint hbuffer accrued => exact .some hoffer hmint hbuffer accrued

theorem processRedemptionCore_reload {offer : Offer} {amount bps minimum : Nat}
    {tokenInMint tokenOutMint : MintAccount} {l : Ledger}
    : processRedemptionCore clock offer amount (reloadAfterAccrual accrual tokenInMint l)
        tokenOutMint bps minimum
        =
      processRedemptionCore clock offer amount tokenInMint tokenOutMint bps minimum := by
  unfold reloadAfterAccrual
  split <;> rfl

def openSwapSell.ops (args : OpenSwapArgs) (params : ExecuteRedemptionOpsParams) : List LedgerOp :=
  .transfer params.tokenInMint.key args.user.key .redemptionVaultAuthority args.tokenInAmount ::
    redemptionOps params

section Ops

variable (args : OpenSwapArgs) (params : ExecuteRedemptionOpsParams)

theorem openSwapSell.burned_ops (hcontrols : programControlsMint params.tokenInMint = true)
    : burned params.tokenInMint.key (ops args params) = params.tokenInNetAmount := by
  simp [ops, Op.burned, burned_redemptionOps hcontrols]

theorem openSwapSell.burned_ops_foreign (hforeign : programControlsMint params.tokenInMint = false)
    (m : Pubkey) : burned m (ops args params) = 0 := by
  simp [ops, redemptionOps, redemptionNetOp, hforeign, Op.burned]

theorem openSwapSell.debited_ops (hvault : params.vaultTokenInAccount = .redemptionVaultAuthority)
    (hne : params.tokenInMint.key ≠ params.tokenOutMint.key)
    : debited .redemptionVaultAuthority params.tokenInMint.key (ops args params)
        =
      params.tokenInNetAmount + params.tokenInFeeAmount := by
  simp [ops, Op.debited, Signer.key, debited_redemptionOps rfl hne hvault.symm]

theorem openSwapSell.credited_ops
    (hdestination : params.tokenInDestinationAccount ≠ .redemptionVaultAuthority)
    (hfee : params.feeDestinationTokenInAccount ≠ .redemptionVaultAuthority)
    (hne : params.tokenInMint.key ≠ params.tokenOutMint.key)
    : credited .redemptionVaultAuthority params.tokenInMint.key (ops args params)
        =
      args.tokenInAmount := by
  simp [ops, Op.credited, credited_redemptionOps hdestination.symm hfee.symm hne]

end Ops

section SellOps

variable {args : OpenSwapArgs} {mint tokenOutMint : MintAccount} {result : RedemptionProcessResult}
  {tokenOutAmount : Nat} {m : Pubkey}

theorem openSwapSell.debited_user :
    debited args.user.key m (ops args (opsParams args mint tokenOutMint result tokenOutAmount))
      =
    if m = mint.key then args.tokenInAmount else 0 := by
  unfold ops redemptionOps redemptionNetOp
  split <;> simp [opsParams, Op.debited, Signer.key]

theorem openSwapSell.credited_user :
    credited args.user.key m (ops args (opsParams args mint tokenOutMint result tokenOutAmount))
      =
    if m = tokenOutMint.key then tokenOutAmount else 0 := by
  unfold ops redemptionOps redemptionNetOp
  split <;> simp [opsParams, Op.credited, Signer.key]

theorem openSwapSell.debited_fee :
    debited (.configurableVault .propAmmSellFee) m
      (ops args (opsParams args mint tokenOutMint result tokenOutAmount)) = 0 := by
  unfold ops redemptionOps redemptionNetOp
  split <;> simp [opsParams, Op.debited, Signer.key]

theorem openSwapSell.credited_fee :
    credited (.configurableVault .propAmmSellFee) m
        (ops args (opsParams args mint tokenOutMint result tokenOutAmount))
      =
    if m = mint.key then result.tokenInFeeAmount else 0 := by
  unfold ops redemptionOps redemptionNetOp
  split <;> simp [opsParams, Op.credited, Signer.key]

end SellOps

structure Sale (clock : Clock) (args : OpenSwapArgs) (w w₁ w' : World) (offer : Offer)
    (pair : PropAmmPairState) (tokenInMint tokenOutMint : MintAccount)
    (config : RedemptionOfferConfig) (result : RedemptionProcessResult) (tokenOutAmount : Nat)
    (accrual : Option BufferAccrualResult) (own : List LedgerOp) : Prop where
  tradesAt : TradesAt w (.offer args.tokenOutMint args.tokenInMint) offer
  pair_eq : w.propAmmPairStates (.propAmmPairState (.offer args.tokenOutMint args.tokenInMint))
    = some pair
  loadIn : w.loadMint args.tokenInMint = .ok tokenInMint
  loadOut : w.loadMint args.tokenOutMint = .ok tokenOutMint
  tokenInMint_eq : args.tokenInMint = w.state.onycMint
  tokenOutMint_ne : args.tokenOutMint ≠ w.state.onycMint
  config_eq : redemptionOfferConfig w (.offer args.tokenOutMint args.tokenInMint) args.tokenInMint
    args.tokenOutMint = .ok config
  result_eq : processRedemptionCore clock offer args.tokenInAmount tokenInMint tokenOutMint
    config.feeBasisPointsPropAmmSell pair.minimumSellHaircutOnyc = .ok result
  -- the wall is the one of the refreshed market stats
  priced : ∃ (snapshot : MarketStatsSnapshot) (hardWallReserve : Nat),
    currentMarketStats clock w = .ok snapshot ∧
    resolveHardWallReserve (some (applyMarketStatsSnapshot snapshot clock))
      (w.ledger.balance .redemptionVaultAuthority args.tokenOutMint) config.vaultTargetBps
      tokenOutMint.decimals tokenInMint.decimals = .ok hardWallReserve ∧
    applyHardWallLiquidityFactor clock result.tokenOutAmount
      (w.ledger.balance .redemptionVaultAuthority args.tokenOutMint) hardWallReserve pair
      = .ok tokenOutAmount
  accrual_isSome : accrual.isSome = (programControlsMint tokenInMint && w.bufferState.isSome)
  own_eq : ∃ (mint : MintAccount), mint.key = tokenInMint.key ∧
    programControlsMint mint = programControlsMint tokenInMint ∧
    own = openSwapSell.ops args
      (openSwapSell.opsParams args mint tokenOutMint result tokenOutAmount)
  step : SupplyStep clock w w₁ w' tokenInMint accrual own 0 result.tokenInNetAmount
  marketOnly : MarketOnly w w'
  keeps : w.Keeps w'
  fresh : w'.FreshStats clock

namespace Sale

variable {args : OpenSwapArgs} {offer : Offer} {pair : PropAmmPairState}
  {tokenInMint tokenOutMint : MintAccount} {config : RedemptionOfferConfig}
  {result : RedemptionProcessResult} {tokenOutAmount : Nat} {own : List LedgerOp}
  (h : Sale clock args w w₁ w' offer pair tokenInMint tokenOutMint config result tokenOutAmount
    accrual own)

include h

theorem key_in : tokenInMint.key = w.state.onycMint := by
  rw [(World.loadMint_inv h.loadIn).1, h.tokenInMint_eq]

theorem key_out : tokenOutMint.key = args.tokenOutMint := (World.loadMint_inv h.loadOut).1

theorem keys_ne : tokenInMint.key ≠ tokenOutMint.key := by
  rw [h.key_in, h.key_out]
  exact h.tokenOutMint_ne.symm

theorem tokenInAmount_eq
    : args.tokenInAmount = result.tokenInNetAmount + result.tokenInFeeAmount := by
  have hadd := calculateFeesWithMinimum_add (processRedemptionCore_inv h.result_eq).2.1
  dsimp only at hadd
  omega

theorem ownMinted (m : Pubkey) : minted m own = 0 := by
  rcases h.own_eq with ⟨_, _, _, rfl⟩
  simp [openSwapSell.ops, Op.minted]

theorem ownBurned (hcontrols : programControlsMint tokenInMint = true)
    : burned w.state.onycMint own = result.tokenInNetAmount := by
  rcases h.own_eq with ⟨mint, hkey, hmint, rfl⟩
  rw [← h.key_in, ← hkey]
  exact openSwapSell.burned_ops args (openSwapSell.opsParams args mint tokenOutMint result
    tokenOutAmount) (hmint.trans hcontrols)

theorem ownDebited
    : debited .redemptionVaultAuthority w.state.onycMint own = args.tokenInAmount := by
  rcases h.own_eq with ⟨mint, hkey, _, rfl⟩
  rw [h.tokenInAmount_eq, ← h.key_in, ← hkey]
  exact openSwapSell.debited_ops args (openSwapSell.opsParams args mint tokenOutMint result
    tokenOutAmount) rfl (hkey.symm ▸ h.keys_ne)

theorem ownCredited
    : credited .redemptionVaultAuthority w.state.onycMint own = args.tokenInAmount := by
  rcases h.own_eq with ⟨mint, hkey, _, rfl⟩
  rw [← h.key_in, ← hkey]
  exact openSwapSell.credited_ops args (openSwapSell.opsParams args mint tokenOutMint result
    tokenOutAmount) nofun nofun (hkey.symm ▸ h.keys_ne)

theorem balance_user_out
    : w'.ledger.balance args.user.key args.tokenOutMint
        =
      w.ledger.balance args.user.key args.tokenOutMint + tokenOutAmount := by
  have hbalance := h.step.balance (k := args.user.key) rfl args.tokenOutMint
  rcases h.own_eq with ⟨mint, hkey, _, rfl⟩
  have hne := h.keys_ne
  rw [h.key_out] at hne
  rw [openSwapSell.debited_user, openSwapSell.credited_user, hkey, h.key_out, if_neg hne.symm,
    if_pos rfl] at hbalance
  exact hbalance

theorem balance_user_in
    : w'.ledger.balance args.user.key args.tokenInMint + args.tokenInAmount
        =
      w.ledger.balance args.user.key args.tokenInMint := by
  have hbalance := h.step.balance (k := args.user.key) rfl args.tokenInMint
  rcases h.own_eq with ⟨mint, hkey, _, rfl⟩
  have hne := h.keys_ne
  rw [h.key_in, ← h.tokenInMint_eq] at hkey hne
  rw [openSwapSell.debited_user, openSwapSell.credited_user, hkey, if_pos rfl, if_neg hne] at hbalance
  exact hbalance

theorem balance_fee
    : w'.ledger.balance (.configurableVault .propAmmSellFee) args.tokenInMint
        =
      w.ledger.balance (.configurableVault .propAmmSellFee) args.tokenInMint
        + result.tokenInFeeAmount := by
  have hbalance := h.step.balance (k := .configurableVault .propAmmSellFee) rfl args.tokenInMint
  rcases h.own_eq with ⟨mint, hkey, _, rfl⟩
  rw [h.key_in, ← h.tokenInMint_eq] at hkey
  rw [openSwapSell.debited_fee, openSwapSell.credited_fee, hkey, if_pos rfl] at hbalance
  exact hbalance

end Sale

theorem openSwapSell_inv {args : OpenSwapArgs} (h : openSwapSell clock w args = .ok w')
    : ∃ (offer : Offer) (pair : PropAmmPairState) (tokenInMint tokenOutMint : MintAccount)
        (config : RedemptionOfferConfig) (result : RedemptionProcessResult) (tokenOutAmount : Nat)
        (accrual : Option BufferAccrualResult) (w₁ : World) (own : List LedgerOp),
        Sale clock args w w₁ w' offer pair tokenInMint tokenOutMint config result tokenOutAmount
          accrual own := by
  simp only [openSwapSell, World.requireNotKilled, Offer.requireEnabled, loadMainOffer,
    sellQuoteLiquidityContext, bind_eq_ok, require_eq_ok, World.load_eq_ok, okOr_eq_ok,
    pure_eq_ok] at h
  rcases h with ⟨offer, hoffer, pair, hpair, h⟩
  rcases h with ⟨_, hkilled, tokenInMint, hin, tokenOutMint, hout, _, hside, h⟩
  rcases h with ⟨_, henabled, mainOffer, hmain, w₀, hrefresh₀, h⟩
  rcases h with ⟨_, ⟨config, hconfig, reserve, hreserve, rfl⟩, ⟨accrual, w₁⟩, haccrue, h⟩
  rcases h with ⟨result, hresult, tokenOutAmount, hpriced, _, _, pair', hrecord, h⟩
  rcases h with ⟨l₁, htransfer, l₂, hops, w₂, hstore, hrefresh⟩
  dsimp only at hresult hpriced htransfer hops hstore hrefresh
  rw [processRedemptionCore_reload] at hresult
  have hkeyIn := (World.loadMint_inv hin).1
  have hkeyOut := (World.loadMint_inv hout).1
  rcases validatePropAmmPairForSide_sell hside with ⟨honyc, hne⟩
  have hload : w.loadMint w.state.onycMint = .ok tokenInMint := by
    rw [← honyc, hkeyIn]
    exact hin
  rcases refreshMarketStatsPda_snapshot hmain hload hrefresh₀ with ⟨snapshot, hsnapshot, rfl⟩
  dsimp only at haccrue hconfig hreserve hpriced
  have hmain' : ∀ (o : Offer), some mainOffer = some o → w.offers w.state.mainOffer = some o := by
    rintro o ⟨⟩
    exact hmain
  rcases accrueIf_inv haccrue hmain' (fun _ => honyc) with ⟨hstep₀, hsome⟩
  have hstep := hstep₀.of_marketStats
  generalize hmint : reloadAfterAccrual accrual tokenInMint w₁.ledger = mint at hops htransfer
  have hmintKey : mint.key = tokenInMint.key := by
    rw [← hmint]
    apply reloadAfterAccrual_key
  have hmintControls : programControlsMint mint = programControlsMint tokenInMint := by
    rw [← hmint]
    apply programControlsMint_reloadAfterAccrual
  have hperforms : Performs u64Max w₁.ledger (openSwapSell.ops args
      (openSwapSell.opsParams args mint tokenOutMint result tokenOutAmount)) l₂ :=
    (transferTokens_performs htransfer).append (executeRedemptionOperations_performs hops)
  have hminted : ∀ (m : Pubkey), minted m (openSwapSell.ops args
      (openSwapSell.opsParams args mint tokenOutMint result tokenOutAmount)) = 0 := by
    intro m
    simp [openSwapSell.ops, Op.minted]
  have hrecorded : MarketOnly { w₁ with marketStats := w.marketStats }
      ({ w₁ with ledger := l₂ }.setPropAmmPairState
        (.propAmmPairState (.offer args.tokenOutMint args.tokenInMint)) pair') := by
    have hstats : MarketOnly { w₁ with marketStats := w.marketStats } w₁ := .of_update
    apply hstats.trans (.of_record _ (recordPropAmmSell_terms hrecord))
    rw [hstep₀.propAmmPairStates]
    exact hpair
  rcases SupplyStep.finish hstep (storePostBurn_inv hstore) hrecorded rfl hperforms
    (refreshMarketStatsIf_inv hrefresh) (by simp [openSwapSell.ops, Op.mints])
    (fun _ => by rw [hminted]; exact Nat.zero_le _)
    (by simp [openSwapSell.ops, Op.mintedTo]) with ⟨hsupplyStep, hmarket⟩
  have hkeeps := hmarket.keeps (SupplyStep.finish_terms hstep (storePostBurn_inv hstore) rfl
    (refreshMarketStatsIf_inv hrefresh))
  rw [hkeyIn, hkeyOut] at hconfig
  rw [hkeyOut] at hreserve hpriced
  refine ⟨offer, pair, tokenInMint, tokenOutMint, config, result, tokenOutAmount, accrual,
    { w₁ with marketStats := w.marketStats }, openSwapSell.ops args (openSwapSell.opsParams args mint
      tokenOutMint result tokenOutAmount), ?_⟩
  constructor
  . exact ⟨hoffer, hkilled, henabled⟩
  . exact hpair
  . exact hin
  . exact hout
  . rw [← hkeyIn]
    exact honyc
  . rw [← hkeyOut]
    exact hne
  . exact hconfig
  . exact hresult
  . exact ⟨snapshot, reserve, hsnapshot, hreserve, hpriced⟩
  . rw [hsome]
    simp [honyc]
  . exact ⟨mint, hmintKey, hmintControls, rfl⟩
  . exact hsupplyStep
  . exact hmarket
  . exact hkeeps
  . cases hcontrols : programControlsMint tokenInMint with
    | true =>
      have hmarket₂ : MarketOnly w w₂ :=
        hstep.marketOnly.trans (hrecorded.trans (storePostBurn_inv hstore).marketOnly)
      apply refreshMarketStatsIf_fresh _ _ _ hrefresh
      . simp [honyc, hcontrols]
      . rw [hmarket₂.offers, hmarket₂.state]
        exact hmain'
      . rw [reload_reloadAfterAccrual, hmarket₂.state]
        exact World.loadMint_reload hload hmarket₂.mints
    | false =>
      -- nothing is burned, so the first refresh still stands
      rw [hcontrols] at haccrue hrefresh
      simp only [Bool.and_false, Bool.false_and, accrueIf, refreshMarketStatsIf, Bool.false_eq_true,
        if_false, pure_eq_ok, Prod.mk.injEq] at haccrue hrefresh
      rcases haccrue with ⟨rfl, rfl⟩
      cases hstore
      subst hrefresh
      refine ⟨snapshot, ?_, rfl⟩
      rw [hmarket.currentMarketStats _, hsnapshot]
      have hsupply := hperforms.supply w.state.onycMint
      rw [hminted, openSwapSell.burned_ops_foreign args _ (hmintControls.trans hcontrols)] at hsupply
      exact hsupply

end Sell

end OnreApp
