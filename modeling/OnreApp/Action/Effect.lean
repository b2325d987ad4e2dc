import OnreApp.Action.Flow
import OnreApp.Action.Spending
import OnreApp.Offer.Lemmas.TakeOfferV1

/-!
`Effect` is everything an action can do, with the check that guards it. The actions that only move
tokens share a case, and so do those by which the boss changes the state account or an offer.
-/

namespace OnreApp

open Checked TokenLedger

variable {clock : Clock} {d d' : Deployment} {action : Action}

def Action.signer : Action → Signer
  | .instruction i => i.signer
  | .takeOffer args _ => args.user
  | .takeOfferPermissionless args => args.user
  | .updateOfferFee args => args.boss
  | .updateOfferPermissionlessFee args => args.boss
  | .setMainOffer boss _ => boss
  | .initializeState boss _ => boss
  | .closeState boss => boss
  | .proposeBoss boss _ => boss
  | .acceptBoss newBoss => newBoss
  | .addAdmin boss _ => boss
  | .removeAdmin boss _ => boss
  | .clearAdmins boss => boss
  | .addApprover boss _ => boss
  | .removeApprover boss _ => boss
  | .setKillSwitch signer _ => signer
  | .setOfferDisabled signer _ _ => signer
  | .setRedemptionOfferDisabled signer _ _ => signer
  | .setOnycMint boss _ => boss
  | .setWorker boss _ => boss
  | .configureMaxSupply boss _ => boss
  | .configureMaxMintAmount boss _ => boss
  | .offerVaultDeposit args => args.signer
  | .offerVaultWithdraw args => args.signer
  | .depositReserveVault depositor _ => depositor
  | .withdrawReserveVault boss _ => boss
  | .setConfigurableVaultDestination boss _ _ => boss
  | .withdrawConfigurableVault args => args.caller
  | .transferMintAuthorityToBoss boss _ => boss
  | .transferMintAuthorityToProgram boss _ => boss
  | .setCirculatingSupplyExcludedAccounts boss _ => boss
  | .updateCirculatingSupplyExcludedBalance signer _ => signer
  | .refreshMarketStats signer _ => signer

def Action.isGovernance : Action → Bool
  | .initializeState _ _ => true
  | .closeState _ => true
  | .proposeBoss _ _ => true
  | .acceptBoss _ => true
  | .addAdmin _ _ => true
  | .removeAdmin _ _ => true
  | .clearAdmins _ => true
  | .addApprover _ _ => true
  | .removeApprover _ _ => true
  | _ => false

section Vaults

def Deployment.OnlyCreates (d : Deployment)
    (vaults : ConfigurableVaultKind → Option ConfigurableVault) : Prop :=
  ∀ (kind : ConfigurableVaultKind), vaults kind = d.configurableVaults kind ∨
    d.configurableVaults kind = none ∧ vaults kind = some (.initValue kind)

theorem getOrCreateConfigurableVaults_inv {e : StateError} {kinds : List ConfigurableVaultKind}
    (h : getOrCreateConfigurableVaults d e kinds = .ok d')
    : ∃ (vaults : ConfigurableVaultKind → Option ConfigurableVault),
        d.OnlyCreates vaults ∧ d' = { d with configurableVaults := vaults } := by
  induction kinds generalizing d with
  | nil =>
    cases h
    exact ⟨_, fun _ => .inl rfl, rfl⟩
  | cons kind kinds ih =>
    simp only [getOrCreateConfigurableVaults, bind_eq_ok] at h
    rcases h with ⟨d₁, hfirst, hrest⟩
    rcases ih hrest with ⟨vaults, hvaults, rfl⟩
    unfold getOrCreateConfigurableVault at hfirst
    split at hfirst
    . next hnone =>
      cases hfirst
      refine ⟨vaults, ?_, rfl⟩
      intro kind'
      have hkind := hvaults kind'
      simp only [Deployment.setVault, Function.update_apply] at hkind
      split at hkind
      . next heq =>
        subst heq
        rcases hkind with hkind | ⟨hkind, _⟩
        . exact .inr ⟨hnone, hkind⟩
        . cases hkind
      . exact hkind
    . simp only [bind_eq_ok, require_eq_ok, pure_eq_ok] at hfirst
      rcases hfirst with ⟨_, _, rfl⟩
      exact ⟨vaults, hvaults, rfl⟩

end Vaults

inductive AdminStep (admins : Vector Pubkey maxAdmins)
    : Action → Vector Pubkey maxAdmins → Prop where
  | add {boss : Signer} {newAdmin : Pubkey} {admins' : Vector Pubkey maxAdmins}
      (hnew : admins.contains newAdmin = false) (h : Slots.put .default admins newAdmin = some admins')
      : AdminStep admins (.addAdmin boss newAdmin) admins'
  | remove {boss : Signer} {adminToRemove : Pubkey} {admins' : Vector Pubkey maxAdmins}
      (h : Slots.take .default admins adminToRemove = some admins')
      : AdminStep admins (.removeAdmin boss adminToRemove) admins'
  | clear {boss : Signer}
      : AdminStep admins (.clearAdmins boss) (Vector.replicate maxAdmins .default)

inductive ApproverStep (g : Governance) : Action → Governance → Prop where
  | first {boss : Signer} {approver : Pubkey} (hne : approver ≠ .default)
      (hnew : g.approver1 ≠ approver ∧ g.approver2 ≠ approver) (hfree : g.approver1 = .default)
      : ApproverStep g (.addApprover boss approver) { g with approver1 := approver }
  | second {boss : Signer} {approver : Pubkey} (hne : approver ≠ .default)
      (hnew : g.approver1 ≠ approver ∧ g.approver2 ≠ approver) (hfree : g.approver2 = .default)
      : ApproverStep g (.addApprover boss approver) { g with approver2 := approver }
  | removeFirst {boss : Signer} {approver : Pubkey} (hne : approver ≠ .default)
      (heq : g.approver1 = approver)
      : ApproverStep g (.removeApprover boss approver) { g with approver1 := .default }
  | removeSecond {boss : Signer} {approver : Pubkey} (hne : approver ≠ .default)
      (hother : g.approver1 ≠ approver) (heq : g.approver2 = approver)
      : ApproverStep g (.removeApprover boss approver) { g with approver2 := .default }

theorem ApproverStep.frame {g g' : Governance} (h : ApproverStep g action g')
    : g'.proposedBoss = g.proposedBoss ∧ g'.admins = g.admins := by
  cases h <;> exact ⟨rfl, rfl⟩

inductive Deployment.Effect (clock : Clock) (d : Deployment) : Action → Deployment → Prop where
  | instruction {i : Instruction} {vaults : ConfigurableVaultKind → Option ConfigurableVault}
      {w' : World} (hvaults : d.OnlyCreates vaults) (h : execute clock d.world i = .ok w')
      : Effect clock d (.instruction i) { d with world := w', configurableVaults := vaults }
  | tokens {action : Action} {ledger : Ledger} (hplain : action.isGovernance = false)
      (hkilled : d.world.state.isKilled = false)
      (hfollows : d.Follows action.signer { d.world with ledger })
      (hcharged : Charged d.world.ledger ledger action.signer
        (action.payment d.world.state.onycMint))
      (hvault : ∀ (m : Pubkey), d.world.ledger.balance .redemptionVaultAuthority m
        ≤ ledger.balance .redemptionVaultAuthority m)
      (hcap : 0 < d.world.state.maxSupply → ∀ (m : Pubkey),
        ledger.supply m ≤ max (d.world.ledger.supply m) d.world.state.maxSupply)
      : Effect clock d action (d.setLedger ledger)
  | offer {action : Action} {key : Pubkey} {offer offer' : Offer}
      (hplain : action.isGovernance = false) (hboss : action.signer.key = d.boss)
      (hkey : d.world.offers key = some offer)
      (hdisabled : offer'.disabled = offer.disabled)
      (hmints : offer'.tokenInMint = offer.tokenInMint ∧ offer'.tokenOutMint = offer.tokenOutMint)
      : Effect clock d action { d with world := d.world.setOffer key offer' }
  | disableOffer {signer : Signer} {key : Pubkey} {offer : Offer} {disabled : Bool}
      (hkey : d.world.offers key = some offer)
      (hdisable : disabled = true → d.isBossOrAdmin signer = true)
      (henable : disabled = false → signer.key = d.boss)
      : Effect clock d (.setOfferDisabled signer key disabled)
          { d with world := d.world.setOffer key { offer with disabled } }
  | disableRedemptionOffer {signer : Signer} {key : Pubkey} {redemptionOffer : RedemptionOffer}
      {disabled : Bool} (hkey : d.world.redemptionOffers key = some redemptionOffer)
      (hdisable : disabled = true → d.isBossOrAdmin signer = true)
      (henable : disabled = false → signer.key = d.boss)
      : Effect clock d (.setRedemptionOfferDisabled signer key disabled)
          { d with world := d.world.setRedemptionOffer key { redemptionOffer with disabled } }
  | state {action : Action} {state : State} (hplain : action.isGovernance = false)
      (hboss : action.signer.key = d.boss)
      (hkept : state.boss = d.boss) (hkilled : state.isKilled = d.world.state.isKilled)
      (honyc : state.onycMint = d.world.state.onycMint ∨
        action = .setOnycMint action.signer state.onycMint)
      (hmaxSupply : state.maxSupply = d.world.state.maxSupply ∨
        action = .configureMaxSupply action.signer state.maxSupply)
      : Effect clock d action (d.setState state)
  | killSwitch {signer : Signer} {enable : Bool}
      (henable : enable = true → d.isBossOrAdmin signer = true)
      (hdisable : enable = false → signer.key = d.boss)
      : Effect clock d (.setKillSwitch signer enable)
          (d.setState { d.world.state with isKilled := enable })
  | propose {boss : Signer} {newBoss : Pubkey} (hboss : boss.key = d.boss)
      (hne : newBoss ≠ .default)
      : Effect clock d (.proposeBoss boss newBoss)
          { d with governance := { d.governance with proposedBoss := newBoss } }
  | accept {newBoss : Signer} (hproposed : newBoss.key = d.governance.proposedBoss)
      : Effect clock d (.acceptBoss newBoss)
          { d.setState { d.world.state with boss := newBoss.key } with
            governance := { d.governance with proposedBoss := .default } }
  | admins {action : Action} {admins : Vector Pubkey maxAdmins}
      (hboss : action.signer.key = d.boss) (h : AdminStep d.governance.admins action admins)
      : Effect clock d action { d with governance := { d.governance with admins } }
  | approvers {action : Action} {governance : Governance} (hboss : action.signer.key = d.boss)
      (h : ApproverStep d.governance action governance)
      : Effect clock d action { d with governance }
  | close {boss : Signer} (hboss : boss.key = d.boss)
      : Effect clock d (.closeState boss) { d with stateIsOpen := false }
  | destination {boss : Signer} {kind : ConfigurableVaultKind} {vault : ConfigurableVault}
      {withdrawalDestination : Pubkey} (hboss : boss.key = d.boss)
      (hvault : (d.configurableVaults kind).getD (.initValue kind) = vault)
      : Effect clock d (.setConfigurableVaultDestination boss kind withdrawalDestination)
          (d.setVault kind { vault with withdrawalDestination })
  | authority {action : Action} {mint new : Pubkey} {info : MintInfo}
      (hplain : action.isGovernance = false) (hboss : action.signer.key = d.boss)
      (hmint : d.world.mints mint = some info)
      (hnew : new = d.boss ∨
        new = .mintAuthority ∧ action = .transferMintAuthorityToProgram action.signer mint)
      : Effect clock d action { d with
          world := { d.world with
            mints := Function.update d.world.mints mint (some { info with mintAuthority := some new })
          } }
  | excludedAccounts {boss : Signer} {owners : Vector Pubkey maxCirculatingSupplyExcludedAccounts}
      (hboss : boss.key = d.boss) (hunique : validateUniqueNonDefaultOwners owners = .ok ())
      : Effect clock d (.setCirculatingSupplyExcludedAccounts boss owners)
          { d with excludedAccounts := some owners }
  | stats {action : Action} {marketStats : Option MarketStats} {excluded : Option Nat}
      (hplain : action.isGovernance = false)
      : Effect clock d action { d with
          world := { d.world with marketStats, circulatingSupplyExcludedBalance := excluded } }

namespace Deployment

def started (d : Deployment) (boss onycMint : Pubkey) : Deployment :=
  { d.setState {
      boss
      isKilled := false
      onycMint
      maxSupply := 0
      worker := .default
      maxMintAmount := 0
      mainOffer := .default
    } with
    stateIsOpen := true
    governance := .initial
  }

/-- Everything starts anew, except what lives in other accounts. -/
inductive Starts (d : Deployment) : Action → Deployment → Prop where
  | intro {boss : Signer} {onycMint : Pubkey} (hclosed : d.stateIsOpen = false)
      (hauthority : ∀ authority ∈ d.upgradeAuthority, boss.key = authority)
      : Starts d (.initializeState boss onycMint) (d.started boss.key onycMint)

theorem inWorld_inv {x : Result World} (h : d.inWorld x = .ok d')
    : ∃ (w' : World), x = .ok w' ∧ d' = { d with world := w' } := by
  simp only [inWorld, bind_eq_ok, StateResult.of_eq_ok, pure_eq_ok] at h
  rcases h with ⟨w', hw', rfl⟩
  exact ⟨w', hw', rfl⟩

theorem perform_instruction_inv {i : Instruction} (h : d.perform clock (.instruction i) = .ok d')
    : execute clock d.world i = .ok d'.world := by
  simp only [perform, act, executeInstruction, bind_eq_ok] at h
  rcases h with ⟨_, _, _, hvaults, h⟩
  rcases getOrCreateConfigurableVaults_inv hvaults with ⟨_, _, rfl⟩
  rcases inWorld_inv h with ⟨w', hexecute, rfl⟩
  exact hexecute

section Tokens

theorem Performs.redemptionVault_le {l l' : Ledger} {ops : List LedgerOp}
    (h : Performs u64Max l ops l')
    (hops : ∀ (m : Pubkey), debited .redemptionVaultAuthority m ops = 0) (m : Pubkey)
    : l.balance .redemptionVaultAuthority m ≤ l'.balance .redemptionVaultAuthority m := by
  have hbalance := h.balance .redemptionVaultAuthority m
  have hzero := hops m
  omega

theorem Performs.supply_le_of_minted {l l' : Ledger} {ops : List LedgerOp} {mint : MintAccount}
    {n maxSupply : Nat} (h : Performs u64Max l ops l') (hsupply : mint.supply = l.supply mint.key)
    (hminted : ∀ (m : Pubkey),
      minted m ops = if programControlsMint mint ∧ m = mint.key then n else 0)
    (hcap : programControlsMint mint → mint.supply + n ≤ maxSupply) (m : Pubkey)
    : l'.supply m ≤ max (l.supply m) maxSupply := by
  have hstep := h.supply m
  rw [hminted] at hstep
  split at hstep
  . next hcontrols =>
    have hle := hcap hcontrols.1
    rw [hsupply, ← hcontrols.2] at hle
    omega
  . omega

theorem transferTokens_supply {l l' : Ledger} {mint : MintAccount} {source destination : Pubkey}
    {n : Nat} (h : transferTokens l mint source destination n = .ok l') (m : Pubkey)
    : l'.supply m = l.supply m := by
  simpa [Op.minted, Op.burned] using (transferTokens_performs h).supply m

theorem Effect.of_transfer {key source destination : Pubkey} {mint : MintAccount} {n : Nat}
    {ledger : Ledger} (hplain : action.isGovernance = false)
    (hkilled : d.world.state.isKilled = false) (hmint : d.world.loadMint key = .ok mint)
    (h : transferTokens d.world.ledger mint source destination n = .ok ledger)
    (hpermitted : Permitted d action.signer (.transfer key source destination n))
    (hsource : source ≠ .permissionlessAuthority) (hvault : source ≠ .redemptionVaultAuthority)
    (hpayment : source = action.signer.key →
      action.payment d.world.state.onycMint = some (key, n))
    : Effect clock d action (d.setLedger ledger) := by
  have hkey := (World.loadMint_inv hmint).1
  have hperforms := transferTokens_performs h
  rw [hkey] at hperforms
  refine .tokens hplain hkilled (.of_op hpermitted hperforms)
    (transferTokens_charged hkey h hsource hpayment) (Performs.redemptionVault_le hperforms ?_) ?_
  . intro m
    simp [Op.debited, hvault.symm]
  . intro _ m
    rw [transferTokens_supply h]
    exact Nat.le_max_left _ _

theorem takeOffer_effect {args : TakeOfferV1Args} {approvalMessage : Option (Result Unit)}
    {w' : World} (h : takeOffer clock d.world args approvalMessage = .ok w')
    : Effect clock d (.takeOffer args approvalMessage) { d with world := w' } := by
  rcases takeOffer_inv h with ⟨_, _, _, _, _, _, hpurchase, _, hperforms, rfl⟩
  refine .tokens rfl hpurchase.tradesAt.notKilled ⟨_, hperforms, ?_⟩ ?_
    (Performs.redemptionVault_le hperforms ?_) ?_
  . exact tokenOps_permitted (.inl rfl) rfl rfl (.inl rfl)
      (authorityOf_of_controls hpurchase.loadIn) (authorityOf_of_controls hpurchase.loadOut)
  . rw [Action.payment, ← (World.loadMint_inv hpurchase.loadIn).1]
    exact tokenOps_charged hperforms rfl rfl rfl (Nat.zero_le _)
      (processOfferCore_split hpurchase.result_eq)
  . exact fun m => debited_tokenOps (by simp [takeOffer.opsParams, Signer.key])
      (by simp [takeOffer.opsParams]) (by simp [takeOffer.opsParams])
  . intro hpos
    exact Performs.supply_le_of_minted hperforms (World.loadMint_supply hpurchase.loadOut)
      (fun _ => minted_tokenOps) fun hcontrols => hpurchase.maxSupply hcontrols hpos

theorem takeOfferPermissionless_effect {args : TakeOfferV1Args} {w' : World}
    (h : takeOfferPermissionless clock d.world args = .ok w')
    : Effect clock d (.takeOfferPermissionless args) { d with world := w' } := by
  rcases takeOfferPermissionless_inv h with ⟨_, _, _, _, _, _, hpurchase, hperforms, rfl⟩
  refine .tokens rfl hpurchase.tradesAt.notKilled ⟨_, hperforms, ?_⟩ ?_
    (Performs.redemptionVault_le hperforms ?_) ?_
  . intro op hop
    simp only [throughOps, List.mem_append, List.mem_singleton] at hop
    rcases hop with (rfl | hop) | rfl
    . exact .pay
    . exact tokenOps_permitted (.inr rfl) rfl rfl (.inr rfl)
        (authorityOf_of_controls hpurchase.loadIn) (authorityOf_of_controls hpurchase.loadOut) op
        hop
    . exact .passOn
  . rw [Action.payment, ← (World.loadMint_inv hpurchase.loadIn).1]
    exact throughOps_charged hperforms rfl rfl rfl rfl (Nat.zero_le _)
      (processOfferCore_split hpurchase.result_eq)
  . intro m
    apply debited_throughOps <;> simp [takeOffer.opsParams, Signer.key]
  . intro hpos
    exact Performs.supply_le_of_minted hperforms (World.loadMint_supply hpurchase.loadOut)
      (fun _ => minted_throughOps) fun hcontrols => hpurchase.maxSupply hcontrols hpos

theorem offerVaultDeposit_effect {args : VaultArgs} (h : offerVaultDeposit d args = .ok d')
    : Effect clock d (.offerVaultDeposit args) d' := by
  simp only [offerVaultDeposit, World.requireNotKilled, bind_eq_ok, require_eq_ok,
    StateResult.of_eq_ok, pure_eq_ok] at h
  rcases h with ⟨_, hkilled, mint, hmint, _, _, ledger, htransfer, rfl⟩
  exact .of_transfer rfl hkilled hmint htransfer .pay (by simp [Signer.key]) (by simp [Signer.key])
    (fun _ => rfl)

theorem offerVaultWithdraw_effect {args : VaultArgs} (h : offerVaultWithdraw d args = .ok d')
    : Effect clock d (.offerVaultWithdraw args) d' := by
  simp only [offerVaultWithdraw, requireBoss, World.requireNotKilled, bind_eq_ok, require_eq_ok,
    StateResult.of_eq_ok, pure_eq_ok] at h
  rcases h with ⟨mint, hmint, _, _, _, hkilled, _, _, ledger, htransfer, rfl⟩
  exact .of_transfer rfl hkilled hmint htransfer (.sell (.inl rfl)) (by simp) (by simp)
    (by simp [Signer.key])

theorem loadReserveMint_inv {mint : MintAccount} (h : loadReserveMint d = .ok mint)
    : d.world.state.isKilled = false ∧ d.world.loadMint d.world.state.onycMint = .ok mint := by
  simp only [loadReserveMint, World.requireNotKilled, bind_eq_ok, require_eq_ok,
    StateResult.of_eq_ok, pure_eq_ok] at h
  rcases h with ⟨_, hkilled, _, _, _, hmint, _, _, _, _, rfl⟩
  exact ⟨hkilled, hmint⟩

theorem depositReserveVault_effect {depositor : Signer} {amount : Nat}
    (h : depositReserveVault d depositor amount = .ok d')
    : Effect clock d (.depositReserveVault depositor amount) d' := by
  simp only [depositReserveVault, bind_eq_ok, StateResult.of_eq_ok, pure_eq_ok] at h
  rcases h with ⟨mint, hload, ledger, htransfer, rfl⟩
  rcases loadReserveMint_inv hload with ⟨hkilled, hmint⟩
  exact .of_transfer rfl hkilled hmint htransfer .pay (by simp [Signer.key]) (by simp [Signer.key])
    (fun _ => rfl)

theorem withdrawReserveVault_effect {boss : Signer} {amount : Nat}
    (h : withdrawReserveVault d boss amount = .ok d')
    : Effect clock d (.withdrawReserveVault boss amount) d' := by
  simp only [withdrawReserveVault, requireBoss, bind_eq_ok, require_eq_ok, StateResult.of_eq_ok,
    pure_eq_ok] at h
  rcases h with ⟨_, hboss, mint, hload, ledger, htransfer, rfl⟩
  rcases loadReserveMint_inv hload with ⟨hkilled, hmint⟩
  exact .of_transfer rfl hkilled hmint htransfer (.withdrawReserve hboss) (by simp) (by simp)
    (by simp [Signer.key])

theorem withdrawConfigurableVault_effect {args : WithdrawConfigurableVaultArgs}
    (h : withdrawConfigurableVault d args = .ok d')
    : Effect clock d (.withdrawConfigurableVault args) d' := by
  simp only [withdrawConfigurableVault, World.requireNotKilled, bind_eq_ok, require_eq_ok,
    StateResult.of_eq_ok, World.load_eq_ok, pure_eq_ok] at h
  rcases h with ⟨_, hkilled, vault, hvault, _, _, _, hdestination, mint, hmint, h⟩
  rcases h with ⟨_, _, _, hset, _, _, _, _, ledger, htransfer, rfl⟩
  rw [hdestination] at htransfer
  exact .of_transfer rfl hkilled hmint htransfer (.payOut hvault hset) (by simp) (by simp)
    (by simp [Signer.key])

end Tokens

section Governance

theorem addApprover_effect {boss : Signer} {approver : Pubkey}
    (h : addApprover d boss approver = .ok d')
    : Effect clock d (.addApprover boss approver) d' := by
  simp only [addApprover, requireBoss, bind_eq_ok, require_eq_ok] at h
  rcases h with ⟨_, hboss, _, hne, _, hnew, h⟩
  split at h
  . next hfree =>
    cases h
    exact .approvers hboss (.first hne hnew hfree)
  . split at h
    . next hfree =>
      cases h
      exact .approvers hboss (.second hne hnew hfree)
    . cases h

theorem removeApprover_effect {boss : Signer} {approver : Pubkey}
    (h : removeApprover d boss approver = .ok d')
    : Effect clock d (.removeApprover boss approver) d' := by
  simp only [removeApprover, requireBoss, bind_eq_ok, require_eq_ok] at h
  rcases h with ⟨_, hboss, _, hne, h⟩
  split at h
  . next heq =>
    cases h
    exact .approvers hboss (.removeFirst hne heq)
  . next hother =>
    split at h
    . next heq =>
      cases h
      exact .approvers hboss (.removeSecond hne hother heq)
    . cases h

theorem setKillSwitch_effect {signer : Signer} {enable : Bool}
    (h : setKillSwitch d signer enable = .ok d')
    : Effect clock d (.setKillSwitch signer enable) d' := by
  unfold setKillSwitch at h
  cases enable with
  | true =>
    simp only [if_true, bind_eq_ok, require_eq_ok, pure_eq_ok] at h
    rcases h with ⟨_, hauthorized, rfl⟩
    exact .killSwitch (fun _ => hauthorized) (by simp)
  | false =>
    simp only [Bool.false_eq_true, if_false, bind_eq_ok, require_eq_ok, pure_eq_ok] at h
    rcases h with ⟨_, hboss, rfl⟩
    exact .killSwitch (by simp) (fun _ => hboss)

theorem authorizeTargetedDisable_inv {signer : Signer} {disabled : Bool}
    (h : authorizeTargetedDisable d signer disabled = .ok ())
    : (disabled = true → d.isBossOrAdmin signer = true) ∧
      (disabled = false → signer.key = d.boss) := by
  unfold authorizeTargetedDisable at h
  cases disabled with
  | true => exact ⟨fun _ => require_eq_ok.mp h, by simp⟩
  | false => exact ⟨by simp, fun _ => require_eq_ok.mp h⟩

theorem transferMintAuthority_inv {boss : Signer} {mint current new : Pubkey} {e : StateError}
    (h : transferMintAuthority d boss mint current new e = .ok d')
    : boss.key = d.boss ∧ ∃ (info : MintInfo), d.world.mints mint = some info ∧
        info.mintAuthority = some current ∧
        d' = { d with
          world := { d.world with
            mints := Function.update d.world.mints mint (some { info with mintAuthority := some new })
          } } := by
  simp only [transferMintAuthority, requireBoss, bind_eq_ok, require_eq_ok, okOr_eq_ok,
    StateResult.of_eq_ok, World.load_eq_ok, pure_eq_ok] at h
  rcases h with ⟨_, hboss, info, hinfo, authority, hauthority, _, rfl, rfl⟩
  exact ⟨hboss, info, hinfo, hauthority, rfl⟩

theorem updateOffer_effect {args : UpdateOfferFeeArgs} {set : Offer → Nat → Offer} {w' : World}
    (h : updateOffer d.world args set = .ok w') (hplain : action.isGovernance = false)
    (hsigner : action.signer = args.boss)
    (hset : ∀ (offer : Offer) (n : Nat), (set offer n).disabled = offer.disabled ∧
      (set offer n).tokenInMint = offer.tokenInMint ∧
      (set offer n).tokenOutMint = offer.tokenOutMint)
    : Effect clock d action { d with world := w' } := by
  simp only [updateOffer, bind_eq_ok, require_eq_ok, World.load_eq_ok, pure_eq_ok] at h
  rcases h with ⟨offer, hkey, _, _, _, _, _, _, _, hboss, _, _, rfl⟩
  exact .offer hplain (hsigner ▸ hboss) hkey (hset offer _).1 (hset offer _).2

end Governance

theorem act_effect (hneeds : needsState action = true) (h : d.act clock action = .ok d')
    : Effect clock d action d' := by
  cases action with
  | instruction i =>
    simp only [act, executeInstruction, bind_eq_ok] at h
    rcases h with ⟨d₁, hvaults, h⟩
    rcases getOrCreateConfigurableVaults_inv hvaults with ⟨vaults, hcreates, rfl⟩
    rcases inWorld_inv h with ⟨w', hw', rfl⟩
    exact .instruction hcreates hw'
  | takeOffer args approvalMessage =>
    rcases inWorld_inv h with ⟨w', hw', rfl⟩
    exact takeOffer_effect hw'
  | takeOfferPermissionless args =>
    rcases inWorld_inv h with ⟨w', hw', rfl⟩
    exact takeOfferPermissionless_effect hw'
  | updateOfferFee args =>
    rcases inWorld_inv h with ⟨w', hw', rfl⟩
    exact updateOffer_effect hw' rfl rfl (fun _ _ => ⟨rfl, rfl, rfl⟩)
  | updateOfferPermissionlessFee args =>
    rcases inWorld_inv h with ⟨w', hw', rfl⟩
    exact updateOffer_effect hw' rfl rfl (fun _ _ => ⟨rfl, rfl, rfl⟩)
  | setMainOffer boss offerKey =>
    rcases inWorld_inv h with ⟨w', hw', rfl⟩
    simp only [setMainOffer, bind_eq_ok, require_eq_ok, pure_eq_ok] at hw'
    rcases hw' with ⟨_, hboss, _, _, _, _, _, _, rfl⟩
    exact .state rfl hboss rfl rfl (.inl rfl) (.inl rfl)
  | initializeState => cases hneeds
  | closeState boss =>
    simp only [act, closeState, bind_eq_ok, require_eq_ok, pure_eq_ok] at h
    rcases h with ⟨_, hboss, rfl⟩
    exact .close hboss
  | proposeBoss boss newBoss =>
    simp only [act, proposeBoss, requireBoss, bind_eq_ok, require_eq_ok, pure_eq_ok] at h
    rcases h with ⟨_, hboss, _, hne, rfl⟩
    exact .propose hboss hne
  | acceptBoss newBoss =>
    simp only [act, acceptBoss, bind_eq_ok, require_eq_ok, pure_eq_ok] at h
    rcases h with ⟨_, _, _, hproposed, rfl⟩
    rw [← hproposed]
    exact .accept hproposed
  | addAdmin boss newAdmin =>
    simp only [act, addAdmin, requireBoss, bind_eq_ok, require_eq_ok, okOr_eq_ok, pure_eq_ok] at h
    rcases h with ⟨_, hboss, _, hnew, admins, hput, rfl⟩
    exact .admins hboss (.add hnew hput)
  | removeAdmin boss adminToRemove =>
    simp only [act, removeAdmin, requireBoss, bind_eq_ok, require_eq_ok, okOr_eq_ok,
      pure_eq_ok] at h
    rcases h with ⟨_, hboss, admins, htake, rfl⟩
    exact .admins hboss (.remove htake)
  | clearAdmins boss =>
    simp only [act, clearAdmins, requireBoss, bind_eq_ok, require_eq_ok, pure_eq_ok] at h
    rcases h with ⟨_, hboss, rfl⟩
    exact .admins hboss .clear
  | addApprover boss approver => exact addApprover_effect h
  | removeApprover boss approver => exact removeApprover_effect h
  | setKillSwitch signer enable => exact setKillSwitch_effect h
  | setOfferDisabled signer offerKey disabled =>
    simp only [act, setOfferDisabled, bind_eq_ok, StateResult.of_eq_ok, World.load_eq_ok,
      pure_eq_ok] at h
    rcases h with ⟨offer, hkey, _, hauthorized, rfl⟩
    rcases authorizeTargetedDisable_inv hauthorized with ⟨hdisable, henable⟩
    exact .disableOffer hkey hdisable henable
  | setRedemptionOfferDisabled signer redemptionOfferKey disabled =>
    simp only [act, setRedemptionOfferDisabled, bind_eq_ok, StateResult.of_eq_ok, pure_eq_ok] at h
    rcases h with ⟨redemptionOffer, hload, _, hauthorized, rfl⟩
    rcases authorizeTargetedDisable_inv hauthorized with ⟨hdisable, henable⟩
    exact .disableRedemptionOffer (loadRedemptionOfferBySeeds_inv hload).1 hdisable henable
  | setOnycMint boss onycMint =>
    simp only [act, setOnycMint, requireBoss, bind_eq_ok, require_eq_ok, StateResult.of_eq_ok,
      pure_eq_ok] at h
    rcases h with ⟨_, hboss, mint, hmint, rfl⟩
    rw [(World.loadMint_inv hmint).1]
    exact .state rfl hboss rfl rfl (.inr rfl) (.inl rfl)
  | setWorker boss newWorker =>
    simp only [act, setWorker, requireBoss, bind_eq_ok, require_eq_ok, pure_eq_ok] at h
    rcases h with ⟨_, hboss, _, _, rfl⟩
    exact .state rfl hboss rfl rfl (.inl rfl) (.inl rfl)
  | configureMaxSupply boss maxSupply =>
    simp only [act, configureMaxSupply, requireBoss, bind_eq_ok, require_eq_ok, pure_eq_ok] at h
    rcases h with ⟨_, hboss, rfl⟩
    exact .state rfl hboss rfl rfl (.inl rfl) (.inr rfl)
  | configureMaxMintAmount boss maxMintAmount =>
    simp only [act, configureMaxMintAmount, requireBoss, bind_eq_ok, require_eq_ok,
      pure_eq_ok] at h
    rcases h with ⟨_, hboss, rfl⟩
    exact .state rfl hboss rfl rfl (.inl rfl) (.inl rfl)
  | offerVaultDeposit args => exact offerVaultDeposit_effect h
  | offerVaultWithdraw args => exact offerVaultWithdraw_effect h
  | depositReserveVault depositor amount => exact depositReserveVault_effect h
  | withdrawReserveVault boss amount => exact withdrawReserveVault_effect h
  | setConfigurableVaultDestination boss kind withdrawalDestination =>
    simp only [act, setConfigurableVaultDestination, bind_eq_ok, require_eq_ok, pure_eq_ok] at h
    rcases h with ⟨_, hboss, _, _, _, _, rfl⟩
    exact .destination hboss rfl
  | withdrawConfigurableVault args => exact withdrawConfigurableVault_effect h
  | transferMintAuthorityToBoss boss mint =>
    rcases transferMintAuthority_inv h with ⟨hboss, info, hinfo, _, rfl⟩
    exact .authority rfl hboss hinfo (.inl hboss)
  | transferMintAuthorityToProgram boss mint =>
    rcases transferMintAuthority_inv h with ⟨hboss, info, hinfo, _, rfl⟩
    exact .authority rfl hboss hinfo (.inr ⟨rfl, rfl⟩)
  | setCirculatingSupplyExcludedAccounts boss owners =>
    simp only [act, setCirculatingSupplyExcludedAccounts, bind_eq_ok, require_eq_ok,
      pure_eq_ok] at h
    rcases h with ⟨_, hboss, _, hunique, rfl⟩
    exact .excludedAccounts hboss hunique
  | updateCirculatingSupplyExcludedBalance signer remainingAccounts =>
    simp only [act, updateCirculatingSupplyExcludedBalance, bind_eq_ok, pure_eq_ok] at h
    rcases h with ⟨_, _, _, _, _, _, _, _, amount, _, rfl⟩
    exact .stats rfl
  | refreshMarketStats signer tokenInMint =>
    simp only [act, refreshMarketStats, bind_eq_ok, StateResult.of_eq_ok, pure_eq_ok] at h
    rcases h with ⟨_, _, _, _, _, _, _, _, _, _, w', hrefresh, rfl⟩
    rw [refreshMarketStatsPda_inv hrefresh]
    exact .stats rfl

theorem initializeState_inv {boss : Signer} {onycMint : Pubkey}
    (h : initializeState d boss onycMint = .ok d')
    : d.Starts (.initializeState boss onycMint) d' := by
  simp only [initializeState, bind_eq_ok, require_eq_ok, StateResult.of_eq_ok, pure_eq_ok] at h
  rcases h with ⟨_, hclosed, mint, hmint, _, hauthority, rfl⟩
  rw [(World.loadMint_inv hmint).1]
  exact .intro hclosed hauthority

theorem perform_inv (h : d.perform clock action = .ok d')
    : d.stateIsOpen = true ∧ Effect clock d action d' ∨ d.Starts action d' := by
  simp only [perform, bind_eq_ok, require_eq_ok] at h
  rcases h with ⟨_, hopen, h⟩
  cases hneeds : needsState action with
  | true => exact .inl ⟨hopen hneeds, act_effect hneeds h⟩
  | false =>
    cases action with
    | initializeState boss onycMint => exact .inr (initializeState_inv h)
    | _ => cases hneeds

end Deployment

end OnreApp
