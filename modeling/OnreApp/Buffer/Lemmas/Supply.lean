import OnreApp.Buffer.Impl.Supply
import OnreApp.World.Lemmas

namespace OnreApp

open Checked TokenLedger

variable {clock : Clock} {w w₁ w' : World} {boss worker : Signer} {mint : MintAccount}
  {amount : Nat}

theorem signer_not_isAccrualVault (s : Signer) : isAccrualVault s.key = false := rfl

theorem requireMintAuthority_inv (h : requireMintAuthority mint = .ok ())
    : programControlsMint mint = true := by
  simp only [requireMintAuthority, bind_eq_ok, okOr_eq_ok, require_eq_ok] at h
  rcases h with ⟨_, hmint, rfl⟩
  simp [programControlsMint, hmint]

theorem SupplyStep.of_accrual {result : BufferAccrualResult}
    (h : AccrualStep clock w mint (some result) w₁) (hledger : w'.ledger = w₁.ledger)
    (hbuffer : ∃ (b after : BufferState), w₁.bufferState = some b ∧ w'.bufferState = some after ∧
      after.previousSupply = b.previousSupply ∧
      after.lastAccrualTimestamp = b.lastAccrualTimestamp ∧
      after.performanceFeeHighWatermark = b.performanceFeeHighWatermark)
    : SupplyStep clock w w₁ w' mint (some result) [] 0 0 where
  accrues := h
  performs := by
    rw [hledger]
    exact .nil _
  baseline := by
    intro result' hresult
    cases hresult
    rcases hbuffer with ⟨b, after, hb, hafter, hprevious, hlast, hwatermark⟩
    rw [← h.watermark rfl hb, ← hwatermark]
    cases h with
    | some _ _ _ accrued =>
      cases hb
      refine ⟨after, hafter, ?_, ?_, rfl⟩
      . rw [hlast, accrued.lastAccrualTimestamp, accrued.timestamp]
      . rw [hprevious, accrued.previousSupply]
  kept := nofun
  maxSupply := by simp
  maxMintAmount := fun _ => Nat.zero_le _
  accrualVaults := rfl

theorem accrueAndRefresh_inv {offer : Offer} (hoffer : w.offers w.state.mainOffer = some offer)
    (hmint : w.loadMint w.state.onycMint = .ok mint)
    (h : accrueAndRefresh clock w offer mint = .ok w')
    : ∃ (w₁ : World) (result : BufferAccrualResult),
        AccrualStep clock w mint (some result) w₁ ∧
        w' = { w₁ with marketStats := w'.marketStats } ∧ w'.FreshStats clock := by
  simp only [accrueAndRefresh, bind_eq_ok] at h
  rcases h with ⟨⟨result, w₁⟩, haccrue, hrefresh⟩
  have hstep := accrueBufferFromAccounts_inv hoffer (World.loadMint_inv hmint).1 haccrue
  have hmarket := hstep.marketOnly
  refine ⟨w₁, result, hstep, refreshMarketStatsPda_inv hrefresh, ?_⟩
  apply refreshMarketStatsPda_fresh _ _ hrefresh
  . rw [hmarket.offers, hmarket.state]
    exact hoffer
  . rw [hmarket.state]
    exact World.loadMint_reload hmint hmarket.mints

structure SupplyAccounts (w : World) (signer : Signer) (role : Pubkey) (mint : MintAccount)
    : Prop where
  signer_eq : signer.key = role
  notKilled : w.state.isKilled = false
  loadMint : w.loadMint w.state.onycMint = .ok mint
  controls : programControlsMint mint = true

theorem mintTo_inv (h : mintTo clock w boss amount = .ok w')
    : ∃ (mint : MintAccount) (accrual : Option BufferAccrualResult) (w₁ : World),
        SupplyAccounts w boss w.state.boss mint ∧
        accrual.isSome = w.bufferState.isSome ∧
        SupplyStep clock w w₁ w' mint accrual
          [.mintTo w.state.onycMint boss.key amount
            (w₁.ledger.supply w.state.onycMint + amount)] amount 0 ∧
        MarketOnly w w' ∧ w'.FreshStats clock := by
  simp only [mintTo, World.requireNotKilled, loadMainOffer, bind_eq_ok, require_eq_ok,
    okOr_eq_ok] at h
  rcases h with ⟨_, hboss, _, hkilled, _, _, mint, hmint, _, hauthority, offer, hoffer,
    ⟨accrual, w₁⟩, haccrue, l, hmintTokens, w₂, hstore, hrefresh⟩
  have hcontrols := requireMintAuthority_inv hauthority
  rcases World.loadMint_inv hmint with ⟨hkey, hsupply⟩
  rw [← hkey] at hsupply
  have hoffer' : ∀ (o : Offer), some offer = some o → w.offers w.state.mainOffer = some o := by
    rintro o ⟨⟩
    exact hoffer
  rcases accrueIf_inv haccrue hoffer' (fun _ => hkey) with ⟨hstep, hsome⟩
  rcases mintTokens_inv hmintTokens with ⟨hperforms, hmaxSupply, hmaxMint⟩
  rw [hstep.reload_supply hsupply, hstep.marketOnly.state] at hmaxSupply
  rw [hstep.marketOnly.state] at hmaxMint
  rw [reloadAfterAccrual_key] at hperforms
  rw [hkey] at hperforms hmaxSupply
  refine ⟨mint, accrual, w₁, ⟨hboss, hkilled, hmint, hcontrols⟩, ?_, ?_⟩
  . rw [hsome]
    simp [shouldAccrueOnycMint, isOnycTokenOutMint, hkey, hcontrols]
  . have hstored := storePostMint_inv hstore
    have hmarket : MarketOnly w w₂ :=
      hstep.marketOnly.trans (MarketOnly.of_update.trans hstored.marketOnly)
    have hfresh : w'.FreshStats clock := by
      rw [reload_reloadAfterAccrual] at hrefresh
      apply refreshMarketStatsPda_fresh _ _ hrefresh
      . rw [hmarket.offers, hmarket.state]
        exact hoffer
      . rw [hmarket.state]
        exact World.loadMint_reload hmint hmarket.mints
    rw [← and_assoc]
    refine ⟨?_, hfresh⟩
    apply SupplyStep.finish hstep hstored .of_update rfl
      hperforms (refreshMarketStatsPda_inv hrefresh)
    . intro hpos _
      simpa [Op.minted] using hmaxSupply hpos
    . intro hpos
      simpa [Op.minted] using hmaxMint hpos
    . simp [Op.mintedTo, signer_not_isAccrualVault]

section Settle

theorem settleBuffer_parts (h : settleBuffer clock w worker = .ok w')
    : ∃ (offer : Offer) (mint : MintAccount), w.offers w.state.mainOffer = some offer ∧
        SupplyAccounts w worker w.state.worker mint ∧
        accrueAndRefresh clock w offer mint = .ok w' := by
  simp only [settleBuffer, World.requireNotKilled, loadMainOffer, bind_eq_ok, require_eq_ok,
    okOr_eq_ok] at h
  rcases h with ⟨_, hworker, _, hkilled, _, _, mint, hmint, _, hauthority, offer, hoffer, h⟩
  exact ⟨offer, mint, hoffer,
    ⟨hworker, hkilled, hmint, requireMintAuthority_inv hauthority⟩, h⟩

theorem settleBuffer_inv (h : settleBuffer clock w worker = .ok w')
    : ∃ (mint : MintAccount) (result : BufferAccrualResult) (w₁ : World),
        SupplyAccounts w worker w.state.worker mint ∧
        SupplyStep clock w w₁ w' mint (some result) [] 0 0 ∧ MarketOnly w w' ∧ w.Keeps w' ∧
        w'.FreshStats clock := by
  rcases settleBuffer_parts h with ⟨offer, mint, hoffer, haccounts, h⟩
  rcases accrueAndRefresh_inv hoffer haccounts.loadMint h with ⟨w₁, result, hstep, hw', hfresh⟩
  have hledger : w'.ledger = w₁.ledger := by rw [hw']
  have hbuffer : w'.bufferState = w₁.bufferState := by rw [hw']
  have hmarket : MarketOnly w w' := by
    rw [hw']
    exact hstep.marketOnly.trans .of_update
  have hterms : w'.settings.bufferState = w.settings.bufferState := by
    rw [hw']
    exact hstep.bufferTerms
  refine ⟨mint, result, w₁, haccounts, ?_, hmarket, hmarket.keeps hterms, hfresh⟩
  apply SupplyStep.of_accrual hstep hledger
  rw [hbuffer]
  cases hstep with
  | some => exact ⟨_, _, rfl, rfl, rfl, rfl, rfl⟩

theorem loadSettingsAccounts_inv {offer : Offer} (h : loadSettingsAccounts w boss = .ok (offer, mint))
    : w.offers w.state.mainOffer = some offer ∧ SupplyAccounts w boss w.state.boss mint := by
  simp only [loadSettingsAccounts, World.requireNotKilled, bind_eq_ok, require_eq_ok,
    World.load_eq_ok, pure_eq_ok, Prod.mk.injEq] at h
  rcases h with ⟨_, hboss, _, hkilled, _, hoffer, _, hmint, _, hauthority, rfl, rfl⟩
  exact ⟨hoffer, hboss, hkilled, hmint, by simp [programControlsMint, hauthority]⟩

def SettlesThenSets (set : BufferState → BufferState) (clock : Clock) (w wc : World)
    (boss : Signer) : Prop :=
  ∃ (offer : Offer) (mint : MintAccount) (wa : World) (b : BufferState),
    w.offers w.state.mainOffer = some offer ∧ SupplyAccounts w boss w.state.boss mint ∧
    accrueAndRefresh clock w offer mint = .ok wa ∧ wa.bufferState = some b ∧
    wc = { wa with bufferState := some (set b) }

theorem setBufferGrossApr_settlesThenSets {grossYield : Nat}
    (h : setBufferGrossApr clock w boss grossYield = .ok w')
    : SettlesThenSets (fun b => { b with grossApr := grossYield }) clock w w' boss := by
  simp only [setBufferGrossApr, loadBufferState, bind_eq_ok, okOr_eq_ok, pure_eq_ok] at h
  rcases h with ⟨⟨offer, mint⟩, hload, _, _, _, _, _, _, _, _, wa, haccrue, b, hb, rfl⟩
  rcases loadSettingsAccounts_inv hload with ⟨hoffer, haccounts⟩
  exact ⟨offer, mint, wa, b, hoffer, haccounts, haccrue, hb, rfl⟩

theorem setBufferFeeConfig_settlesThenSets {config : BufferFeeConfig}
    (h : setBufferFeeConfig clock w boss config = .ok w')
    : SettlesThenSets (fun b => { b with
        managementFeeBasisPoints := config.managementFeeBasisPoints
        performanceFeeBasisPoints := config.performanceFeeBasisPoints
        performanceFeeHighWatermarkEnabled := config.performanceFeeHighWatermarkEnabled
      }) clock w w' boss := by
  simp only [setBufferFeeConfig, loadBufferState, bind_eq_ok, okOr_eq_ok, pure_eq_ok] at h
  rcases h with ⟨⟨offer, mint⟩, hload, _, _, _, _, _, _, _, _, _, _, wa, haccrue, b, hb, rfl⟩
  rcases loadSettingsAccounts_inv hload with ⟨hoffer, haccounts⟩
  exact ⟨offer, mint, wa, b, hoffer, haccounts, haccrue, hb, rfl⟩

theorem SettlesThenSets.supplyStep {set : BufferState → BufferState}
    (h : SettlesThenSets set clock w w' boss)
    (hprevious : ∀ (b : BufferState), (set b).previousSupply = b.previousSupply)
    (hlast : ∀ (b : BufferState), (set b).lastAccrualTimestamp = b.lastAccrualTimestamp)
    (hwatermark : ∀ (b : BufferState),
      (set b).performanceFeeHighWatermark = b.performanceFeeHighWatermark)
    : ∃ (mint : MintAccount) (result : BufferAccrualResult) (w₁ : World),
        SupplyAccounts w boss w.state.boss mint ∧
        SupplyStep clock w w₁ w' mint (some result) [] 0 0 ∧ MarketOnly w w' ∧
        w'.FreshStats clock := by
  -- settings change after the accrual, and a change leaves the baseline alone
  rcases h with ⟨offer, mint, w₂, b, hoffer, haccounts, haccrue, hb, rfl⟩
  rcases accrueAndRefresh_inv hoffer haccounts.loadMint haccrue with
    ⟨w₁, result, hstep, hw₂, hfresh⟩
  have hledger : w₂.ledger = w₁.ledger := by rw [hw₂]
  have hbuffer : w₁.bufferState = some b := by rw [hw₂] at hb; exact hb
  have hmarket : MarketOnly w₁ w₂ := by
    rw [hw₂]
    exact .of_update
  refine ⟨mint, result, w₁, haccounts, ?_, ?_, hfresh⟩
  . exact SupplyStep.of_accrual hstep hledger
      ⟨b, set b, hbuffer, rfl, hprevious b, hlast b, hwatermark b⟩
  . exact (hstep.marketOnly.trans hmarket).trans .of_update

theorem setBufferGrossApr_inv {grossYield : Nat}
    (h : setBufferGrossApr clock w boss grossYield = .ok w')
    : ∃ (mint : MintAccount) (result : BufferAccrualResult) (w₁ : World),
        SupplyAccounts w boss w.state.boss mint ∧
        SupplyStep clock w w₁ w' mint (some result) [] 0 0 ∧ MarketOnly w w' ∧
        w'.FreshStats clock :=
  (setBufferGrossApr_settlesThenSets h).supplyStep (fun _ => rfl) (fun _ => rfl) fun _ => rfl

theorem setBufferFeeConfig_inv {config : BufferFeeConfig}
    (h : setBufferFeeConfig clock w boss config = .ok w')
    : ∃ (mint : MintAccount) (result : BufferAccrualResult) (w₁ : World),
        SupplyAccounts w boss w.state.boss mint ∧
        SupplyStep clock w w₁ w' mint (some result) [] 0 0 ∧ MarketOnly w w' ∧
        w'.FreshStats clock :=
  (setBufferFeeConfig_settlesThenSets h).supplyStep (fun _ => rfl) (fun _ => rfl) fun _ => rfl

end Settle

section BurnForNavIncrease

theorem burnForNavIncrease.burnAmount_inv {accrual : BufferAccrualResult}
    {assetAdjustmentAmount quotedNav burnAmount : Nat}
    (h : burnForNavIncrease.burnAmount w accrual assetAdjustmentAmount quotedNav = .ok burnAmount)
    : ∃ (circulatingSupply : Nat),
        calculateCirculatingSupply accrual.postAccrualSupply
          (loadCirculatingSupplyExcludedBalanceAmount w) = .ok circulatingSupply ∧
        calculateBurnAmount circulatingSupply assetAdjustmentAmount accrual.currentNav quotedNav
          = .ok burnAmount := by
  simp only [burnForNavIncrease.burnAmount, bind_eq_ok, require_eq_ok, pure_eq_ok] at h
  rcases h with ⟨circulatingSupply, hcirculating, _, _, _, hburn, _, _, rfl⟩
  exact ⟨circulatingSupply, hcirculating, hburn⟩

theorem burnForNavIncrease_inv {assetAdjustmentAmount : Nat}
    (h : burnForNavIncrease clock w boss assetAdjustmentAmount = .ok w')
    : ∃ (mint : MintAccount) (offer : Offer) (result : BufferAccrualResult) (w₁ : World)
        (burnAmount : Nat),
        SupplyAccounts w boss w.state.boss mint ∧
        w.offers w.state.mainOffer = some offer ∧
        computeOfferCurrentPrice offer clock.time = .ok result.currentNav ∧
        burnForNavIncrease.burnAmount w result assetAdjustmentAmount result.currentNav
          = .ok burnAmount ∧
        SupplyStep clock w w₁ w' mint (some result)
          [.burn w.state.onycMint .reserveVaultAuthority burnAmount] 0 burnAmount ∧
        MarketOnly w w' ∧ w'.FreshStats clock := by
  simp only [burnForNavIncrease, bind_eq_ok, require_eq_ok, World.load_eq_ok, okOr_eq_ok,
    checkedSub_eq_some] at h
  rcases h with ⟨⟨offer, mint⟩, hload, before, hbefore, _, _, quotedNav, hquoted, _, _,
    ⟨result, after, l₁⟩, haccrue, burnAmount, hamount, l₂, hburn, _, ⟨hle, rfl⟩, hrefresh⟩
  dsimp only at hquoted haccrue hamount hburn hle hrefresh
  rcases loadSettingsAccounts_inv hload with ⟨hoffer, haccounts⟩
  have hmint := haccounts.loadMint
  have hkey := (World.loadMint_inv hmint).1
  have haccrued := accrueBuffer_inv haccrue
  have hnav : quotedNav = result.currentNav := by
    rcases haccrued.gross with ⟨activeVector, hactive, _⟩
    simp only [computeOfferCurrentPrice, Clock.time, hactive, ok_bind, pure_eq_ok] at hquoted
    exact hquoted.symm
  subst hnav
  have hstep := AccrualStep.some hoffer hkey hbefore haccrued
  have hperforms := burnTokens_performs hburn
  rw [hkey] at hperforms
  have hstored : BaselineStored (some result)
      { w with ledger := l₂, bufferState := some after }
      { w with
        ledger := l₂,
        bufferState := some (setBufferBaselineAfterSupplyChange after
          (result.postAccrualSupply - burnAmount) clock.unixTimestamp) } 0 burnAmount := by
    refine ⟨.of_update, rfl, ?_, by simp, rfl⟩
    rintro result' ⟨⟩
    refine ⟨_, _, rfl, rfl, haccrued.timestamp.symm, ?_, rfl⟩
    simp only [setBufferBaselineAfterSupplyChange]
    omega
  have hfresh : w'.FreshStats clock := by
    apply refreshMarketStatsPda_fresh _ _ hrefresh
    . exact hoffer
    . exact World.loadMint_reload hmint rfl
  refine ⟨mint, offer, result, { w with bufferState := some after, ledger := l₁ }, burnAmount,
    haccounts, hoffer, hquoted, hamount, ?_⟩
  rw [← and_assoc]
  refine ⟨?_, hfresh⟩
  apply SupplyStep.finish hstep hstored .of_update rfl hperforms
    (refreshMarketStatsPda_inv hrefresh)
  . simp [Op.mints]
  . intro _
    simp [Op.minted]
  . simp [Op.mintedTo]

end BurnForNavIncrease

end OnreApp
