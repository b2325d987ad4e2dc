import OnreApp.Offer.Impl.TakeOffer
import OnreApp.Utils.Lemmas.Approver
import OnreApp.World.Lemmas

namespace OnreApp

open Checked TokenLedger

variable {clock : Clock} {w w₁ w' : World} {tokenInMint tokenOutMint : MintAccount}
  {accrual : Option BufferAccrualResult} {own : List LedgerOp} {tokenOutAmount : Nat}

structure Purchase (clock : Clock) (w w₁ w' : World) (tokenInMint tokenOutMint : MintAccount)
    (accrual : Option BufferAccrualResult) (own : List LedgerOp) (tokenOutAmount : Nat) : Prop where
  step : SupplyStep clock w w₁ w' tokenOutMint accrual own tokenOutAmount 0
  marketOnly : MarketOnly w w'
  keeps : w.Keeps w'
  accrual_isSome : accrual.isSome
    = shouldAccrueOnycMint w.state tokenOutMint w.bufferState.isSome
  ownDebited : ∀ (m : Pubkey), debited .redemptionVaultAuthority m own = 0
  ownMinted : programControlsMint tokenOutMint = true → minted tokenOutMint.key own = tokenOutAmount
  ownBurned : tokenInMint.key ≠ tokenOutMint.key → burned tokenOutMint.key own = 0
  fresh : tokenOutMint.key = w.state.onycMint → w'.FreshStats clock

theorem shouldAccrueOnycMint_key {bufferIsInitialized : Bool}
    (h : shouldAccrueOnycMint w.state tokenOutMint bufferIsInitialized = true)
    : tokenOutMint.key = w.state.onycMint := by
  simp only [shouldAccrueOnycMint, isOnycTokenOutMint, Bool.and_eq_true, decide_eq_true_eq] at h
  exact h.1.1

theorem Purchase.of_parts {w₂ w₃ : World} {tokenOutKey : Pubkey} {mainOffer : Option Offer}
    (hout : w.loadMint tokenOutKey = .ok tokenOutMint)
    (hmain : loadMainOfferIf (isOnycTokenOutMint w.state tokenOutMint) w = .ok mainOffer)
    (haccrues : AccrualStep clock w tokenOutMint accrual w₁)
    (hsome : accrual.isSome = shouldAccrueOnycMint w.state tokenOutMint w.bufferState.isSome)
    (hstored : BaselineStored accrual w₂ w₃ tokenOutAmount 0) (hmarket : MarketOnly w₁ w₂)
    (hbuffer : w₂.bufferState = w₁.bufferState)
    (hperforms : Performs u64Max w₁.ledger own w₂.ledger)
    (hrefresh : refreshMarketStatsIf (isOnycTokenOutMint w.state tokenOutMint) clock w₃ mainOffer
      (reloadAfterAccrual accrual tokenOutMint w₁.ledger) = .ok w')
    (hminted : ∀ (m : Pubkey), minted m own =
      if programControlsMint tokenOutMint ∧ m = tokenOutMint.key then tokenOutAmount else 0)
    (hmints : ∀ (m : Pubkey), mints m own =
      decide (programControlsMint tokenOutMint ∧ m = tokenOutMint.key))
    (hcaps : programControlsMint tokenOutMint →
      (0 < w₁.state.maxSupply →
        (reloadAfterAccrual accrual tokenOutMint w₁.ledger).supply + tokenOutAmount
          ≤ w₁.state.maxSupply) ∧
      (0 < w₁.state.maxMintAmount → tokenOutAmount ≤ w₁.state.maxMintAmount))
    (hvaults : ∀ (m : Pubkey), mintedTo isAccrualVault m own = 0)
    (hdebited : ∀ (m : Pubkey), debited .redemptionVaultAuthority m own = 0)
    (hburned : tokenInMint.key ≠ tokenOutMint.key → burned tokenOutMint.key own = 0)
    : Purchase clock w w₁ w' tokenInMint tokenOutMint accrual own tokenOutAmount := by
  rcases World.loadMint_inv hout with ⟨hkey, hsupply⟩
  rw [← hkey] at hsupply
  rw [haccrues.reload_supply hsupply, haccrues.marketOnly.state] at hcaps
  have hmaxSupply : 0 < w.state.maxSupply → mints w.state.onycMint own = true →
      w₁.ledger.supply w.state.onycMint + minted w.state.onycMint own ≤ w.state.maxSupply := by
    intro hpos hmint
    rw [hmints, decide_eq_true_eq] at hmint
    rw [hminted, if_pos hmint, hmint.2]
    exact (hcaps hmint.1).1 hpos
  have hmaxMint : 0 < w.state.maxMintAmount →
      minted w.state.onycMint own ≤ w.state.maxMintAmount := by
    intro hpos
    rw [hminted]
    split
    . next hcase => exact (hcaps hcase.1).2 hpos
    . apply Nat.zero_le _
  rcases SupplyStep.finish haccrues hstored hmarket hbuffer hperforms
    (refreshMarketStatsIf_inv hrefresh) hmaxSupply hmaxMint (hvaults _) with ⟨hstep, hmarket'⟩
  have hmarket₃ := haccrues.marketOnly.trans (hmarket.trans hstored.marketOnly)
  exact {
    step := hstep
    marketOnly := hmarket'
    keeps := hmarket'.keeps (SupplyStep.finish_terms haccrues hstored hbuffer
      (refreshMarketStatsIf_inv hrefresh))
    accrual_isSome := hsome
    ownDebited := hdebited
    ownMinted := by
      intro hcontrols
      rw [hminted, if_pos ⟨hcontrols, rfl⟩]
    ownBurned := hburned
    fresh := by
      intro honyc
      apply refreshMarketStatsIf_fresh _ _ _ hrefresh
      . simp [isOnycTokenOutMint, honyc]
      . rw [hmarket₃.offers, hmarket₃.state]
        exact loadMainOfferIf_inv hmain
      . rw [reload_reloadAfterAccrual, hmarket₃.state, ← honyc, hkey]
        exact World.loadMint_reload hout hmarket₃.mints
  }

theorem takeOfferV2_inv {args : TakeOfferArgs} {approvalMessage : Option (Result Unit)}
    (h : takeOfferV2 clock w args approvalMessage = .ok w')
    : ∃ (offer : Offer) (tokenInMint tokenOutMint : MintAccount) (result : OfferProcessResult)
        (accrual : Option BufferAccrualResult) (w₁ : World) (own : List LedgerOp),
        TradesAt w (.offer args.tokenInMint args.tokenOutMint) offer ∧
        w.loadMint args.tokenInMint = .ok tokenInMint ∧
        w.loadMint args.tokenOutMint = .ok tokenOutMint ∧
        processOfferCore clock offer args.tokenInAmount tokenInMint tokenOutMint
          offer.feeBasisPoints = .ok result ∧
        Purchase clock w w₁ w' tokenInMint tokenOutMint accrual own result.tokenOutAmount ∧
        verifyOfferApproval offer approvalMessage = .ok () ∧
        ∃ (supply : Nat) (refill : Option Nat),
          redemptionVaultRefill w (.offer args.tokenInMint args.tokenOutMint) args.marketStats
            tokenInMint tokenOutMint result.tokenInNetAmount = .ok refill ∧
          own = tokenOps supply (takeOfferV2.opsParams w₁.state args tokenInMint
            (reloadAfterAccrual accrual tokenOutMint w₁.ledger) result refill) := by
  simp only [takeOfferV2, World.requireNotKilled, Offer.requireEnabled, bind_eq_ok, require_eq_ok,
    World.load_eq_ok] at h
  rcases h with ⟨offer, hoffer, _, hkilled, tokenInMint, hin, tokenOutMint, hout, h⟩
  rcases h with ⟨_, _, _, henabled, mainOffer, hmain, _, happroval, result, hresult, h⟩
  rcases h with ⟨refill, hrefill, ⟨accrual, w₁⟩, haccrue, l, hops, w₂, hstore, _, _, hrefresh⟩
  dsimp only at hops hstore hrefresh
  rcases accrueIf_inv haccrue (loadMainOfferIf_inv hmain) shouldAccrueOnycMint_key with
    ⟨hstep, hsome⟩
  rcases executeTokenOperations_inv hops with ⟨supply, hperforms, hcaps⟩
  simp only [takeOfferV2.opsParams, programControlsMint_reloadAfterAccrual] at hcaps
  have hminted : ∀ (m : Pubkey), minted m (tokenOps supply (takeOfferV2.opsParams w₁.state args
      tokenInMint (reloadAfterAccrual accrual tokenOutMint w₁.ledger) result refill)) =
      if programControlsMint tokenOutMint ∧ m = tokenOutMint.key then result.tokenOutAmount
      else 0 := by
    intro m
    rw [minted_tokenOps]
    simp [takeOfferV2.opsParams]
  have hmints : ∀ (m : Pubkey), mints m (tokenOps supply (takeOfferV2.opsParams w₁.state args
      tokenInMint (reloadAfterAccrual accrual tokenOutMint w₁.ledger) result refill)) =
      decide (programControlsMint tokenOutMint ∧ m = tokenOutMint.key) := by
    intro m
    rw [mints_tokenOps]
    simp [takeOfferV2.opsParams]
  refine ⟨offer, tokenInMint, tokenOutMint, result, accrual, w₁, _, ⟨hoffer, hkilled, henabled⟩,
    hin, hout, hresult, ?_, happroval, supply, refill, hrefill, rfl⟩
  exact Purchase.of_parts hout hmain hstep hsome (storePostMint_inv hstore)
    .of_update rfl hperforms hrefresh hminted hmints
    hcaps (fun _ => mintedTo_tokenOps rfl)
    (fun _ => debited_tokenOps (by simp [takeOfferV2.opsParams, Signer.key])
      (by simp [takeOfferV2.opsParams]) (by simp [takeOfferV2.opsParams]))
    (fun hne => burned_tokenOps (by simpa [takeOfferV2.opsParams] using hne.symm))

/-- A purchase through the intermediary: in, across, and out again. -/
def throughOps (user : Signer) (amount supply : Nat) (params : ExecTokenOpsParams)
    : List LedgerOp :=
  [.transfer params.tokenInMint.key user.key .permissionlessAuthority amount] ++
    tokenOps supply params ++
    [.transfer params.tokenOutMint.key .permissionlessAuthority user.key params.tokenOutAmount]

section ThroughOps

variable {user : Signer} {amount supply : Nat} {params : ExecTokenOpsParams} {m : Pubkey}

theorem minted_throughOps :
    minted m (throughOps user amount supply params)
      =
    if programControlsMint params.tokenOutMint ∧ m = params.tokenOutMint.key then
      params.tokenOutAmount
    else 0 := by
  simp [throughOps, minted_tokenOps, Op.minted]

theorem mints_throughOps :
    mints m (throughOps user amount supply params)
      =
    decide (programControlsMint params.tokenOutMint ∧ m = params.tokenOutMint.key) := by
  simp [throughOps, mints_tokenOps, Op.mints]

theorem mintedTo_throughOps {p : Pubkey → Bool} (hp : p params.tokenOutDestinationAccount = false)
    : mintedTo p m (throughOps user amount supply params) = 0 := by
  simp [throughOps, mintedTo_tokenOps hp, Op.mintedTo]

theorem burned_throughOps (h : m ≠ params.tokenInMint.key)
    : burned m (throughOps user amount supply params) = 0 := by
  simp [throughOps, burned_tokenOps h, Op.burned]

theorem debited_throughOps {k : Pubkey} (huser : k ≠ user.key)
    (hpermissionless : k ≠ .permissionlessAuthority) (hin : k ≠ params.tokenInSourceAccount)
    (hburn : k ≠ params.tokenInBurnAccount) (hout : k ≠ params.tokenOutSourceAccount)
    : debited k m (throughOps user amount supply params) = 0 := by
  simp [throughOps, debited_tokenOps hin hburn hout, Op.debited, huser, hpermissionless]

theorem throughOps_performs {l l₁ l₂ l' : Ledger}
    (hpay : transferTokens l params.tokenInMint user.key .permissionlessAuthority amount = .ok l₁)
    (hops : executeTokenOperations l₁ params = .ok l₂)
    (hpassOn : transferTokens l₂ params.tokenOutMint .permissionlessAuthority user.key
      params.tokenOutAmount = .ok l')
    : ∃ (supply : Nat), Performs u64Max l (throughOps user amount supply params) l' ∧
        (programControlsMint params.tokenOutMint →
          (0 < params.tokenOutMaxSupply →
            params.tokenOutMint.supply + params.tokenOutAmount ≤ params.tokenOutMaxSupply) ∧
          (0 < params.tokenOutMaxMintAmount →
            params.tokenOutAmount ≤ params.tokenOutMaxMintAmount)) := by
  rcases executeTokenOperations_inv hops with ⟨supply, hperforms, hcaps⟩
  refine ⟨supply, ?_, hcaps⟩
  exact ((transferTokens_performs hpay).append hperforms).append (transferTokens_performs hpassOn)

end ThroughOps

theorem takeOfferPermissionlessV2_inv {args : TakeOfferArgs}
    (h : takeOfferPermissionlessV2 clock w args = .ok w')
    : ∃ (offer : Offer) (tokenInMint tokenOutMint : MintAccount) (result : OfferProcessResult)
        (accrual : Option BufferAccrualResult) (w₁ : World) (own : List LedgerOp),
        TradesAt w (.offer args.tokenInMint args.tokenOutMint) offer ∧
        w.loadMint args.tokenInMint = .ok tokenInMint ∧
        w.loadMint args.tokenOutMint = .ok tokenOutMint ∧
        processOfferCore clock offer args.tokenInAmount tokenInMint tokenOutMint
          offer.feeBasisPointsPermissionless = .ok result ∧
        Purchase clock w w₁ w' tokenInMint tokenOutMint accrual own result.tokenOutAmount ∧
        ∃ (supply : Nat) (refill : Option Nat),
          redemptionVaultRefill w₁ (.offer args.tokenInMint args.tokenOutMint) args.marketStats
            tokenInMint (reloadAfterAccrual accrual tokenOutMint w₁.ledger)
            result.tokenInNetAmount = .ok refill ∧
          own = throughOps args.user args.tokenInAmount supply
            (takeOfferPermissionlessV2.opsParams w₁.state tokenInMint
              (reloadAfterAccrual accrual tokenOutMint w₁.ledger) result refill) := by
  simp only [takeOfferPermissionlessV2, takeOfferPermissionlessV2.route, World.requireNotKilled,
    Offer.requireEnabled, bind_eq_ok, require_eq_ok, World.load_eq_ok] at h
  rcases h with ⟨offer, hoffer, _, hkilled, tokenInMint, hin, tokenOutMint, hout, h⟩
  rcases h with ⟨_, henabled, _, _, _, _, result, hresult, mainOffer, hmain, h⟩
  rcases h with ⟨⟨accrual, w₁⟩, haccrue, refill, hrefill, l, hroute, w₂, hstore, _, _, hrefresh⟩
  dsimp only at hrefill hroute hstore hrefresh
  rcases hroute with ⟨_, hpay, _, hops, hpassOn⟩
  rcases accrueIf_inv haccrue (loadMainOfferIf_inv hmain) shouldAccrueOnycMint_key with
    ⟨hstep, hsome⟩
  rcases throughOps_performs hpay hops hpassOn with ⟨supply, hperforms, hcaps⟩
  simp only [takeOfferPermissionlessV2.opsParams, programControlsMint_reloadAfterAccrual] at hcaps
  have hminted : ∀ (m : Pubkey), minted m (throughOps args.user args.tokenInAmount supply
      (takeOfferPermissionlessV2.opsParams w₁.state tokenInMint
        (reloadAfterAccrual accrual tokenOutMint w₁.ledger) result refill)) =
      if programControlsMint tokenOutMint ∧ m = tokenOutMint.key then result.tokenOutAmount
      else 0 := by
    intro m
    rw [minted_throughOps]
    simp [takeOfferPermissionlessV2.opsParams]
  have hmints : ∀ (m : Pubkey), mints m (throughOps args.user args.tokenInAmount supply
      (takeOfferPermissionlessV2.opsParams w₁.state tokenInMint
        (reloadAfterAccrual accrual tokenOutMint w₁.ledger) result refill)) =
      decide (programControlsMint tokenOutMint ∧ m = tokenOutMint.key) := by
    intro m
    rw [mints_throughOps]
    simp [takeOfferPermissionlessV2.opsParams]
  refine ⟨offer, tokenInMint, tokenOutMint, result, accrual, w₁, _, ⟨hoffer, hkilled, henabled⟩,
    hin, hout, hresult, ?_, supply, refill, hrefill, rfl⟩
  exact Purchase.of_parts hout hmain hstep hsome (storePostMint_inv hstore)
    .of_update rfl hperforms hrefresh hminted hmints
    hcaps (fun _ => mintedTo_throughOps rfl)
    (fun _ => debited_throughOps (by simp [Signer.key]) (by simp)
      (by simp [takeOfferPermissionlessV2.opsParams])
      (by simp [takeOfferPermissionlessV2.opsParams])
      (by simp [takeOfferPermissionlessV2.opsParams]))
    (fun hne => burned_throughOps (by simpa [takeOfferPermissionlessV2.opsParams] using hne.symm))

section Approval

theorem verifyOfferApproval_inv {offer : Offer} {approvalMessage : Option (Result Unit)}
    (hneeds : offer.needsApproval = true) (h : verifyOfferApproval offer approvalMessage = .ok ())
    : approvalMessage = some (.ok ()) := by
  unfold verifyOfferApproval at h
  rw [if_pos hneeds] at h
  split at h
  . rw [h]
  . cases h

end Approval

end OnreApp
