import OnreApp.Action.Governance
import OnreApp.Program.Guards

namespace OnreApp

open Checked TokenLedger

variable {clock : Clock} {d d' : Deployment} {action : Action} {actions : List (Clock × Action)}

structure Settings where
  market : MarketSettings
  stateIsOpen : Bool
  governance : Governance
  destinations : ConfigurableVaultKind → Pubkey
  excludedAccounts : Option (Vector Pubkey maxCirculatingSupplyExcludedAccounts)
  upgradeAuthority : Option Pubkey

structure Switches.OnlyHalts (s s' : Switches) : Prop where
  killed : s.killed = true → s'.killed = true
  offers : ∀ (key : Pubkey), s.offers key = some true → s'.offers key = some true
  redemptionOffers : ∀ (key : Pubkey),
    s.redemptionOffers key = some true → s'.redemptionOffers key = some true

theorem Switches.OnlyHalts.refl (s : Switches) : s.OnlyHalts s :=
  ⟨id, fun _ => id, fun _ => id⟩

theorem Switches.OnlyHalts.trans {s s₁ s' : Switches} (h : s.OnlyHalts s₁) (h' : s₁.OnlyHalts s')
    : s.OnlyHalts s' :=
  ⟨h'.killed ∘ h.killed, fun key => h'.offers key ∘ h.offers key,
    fun key => h'.redemptionOffers key ∘ h.redemptionOffers key⟩

namespace Deployment

def settings (d : Deployment) : Settings where
  market := d.world.settings
  stateIsOpen := d.stateIsOpen
  governance := d.governance
  destinations := fun kind =>
    ((d.configurableVaults kind).map ConfigurableVault.withdrawalDestination).getD .default
  excludedAccounts := d.excludedAccounts
  upgradeAuthority := d.upgradeAuthority

theorem OnlyCreates.destinations {vaults : ConfigurableVaultKind → Option ConfigurableVault}
    (h : d.OnlyCreates vaults) (kind : ConfigurableVaultKind)
    : ((vaults kind).map ConfigurableVault.withdrawalDestination).getD .default
        =
      ((d.configurableVaults kind).map ConfigurableVault.withdrawalDestination).getD .default := by
  rcases h kind with hkind | ⟨hnone, hkind⟩
  . rw [hkind]
  . rw [hkind, hnone]
    rfl

/-- The settings stay as they are; the switches too, unless an admin stops something. -/
structure Harmless (d : Deployment) (signer : Signer) (d' : Deployment) : Prop where
  settings : d'.settings = d.settings
  halts : d.world.switches.OnlyHalts d'.world.switches
  switches : signer.key ∉ d.admins → d'.world.switches = d.world.switches

theorem Harmless.of_keeps {signer : Signer} (hsettings : d'.settings = d.settings)
    (hswitches : d'.world.switches = d.world.switches) : Harmless d signer d' where
  settings := hsettings
  halts := by
    rw [hswitches]
    exact .refl _
  switches := fun _ => hswitches

theorem Harmless.of_halt {signer : Signer} (hadmin : d.isBossOrAdmin signer = true)
    (hboss : signer.key ≠ d.boss) (hsettings : d'.settings = d.settings)
    (hhalts : d.world.switches.OnlyHalts d'.world.switches) : Harmless d signer d' where
  settings := hsettings
  halts := hhalts
  switches := by
    intro hnot
    rw [isBossOrAdmin, Bool.or_eq_true, decide_eq_true_eq,
      contains_admins signer.key (by simp [Signer.key])] at hadmin
    rcases hadmin with hkey | hmem
    . exact absurd hkey hboss
    . exact absurd hmem hnot

section Halts

variable {key : Pubkey}

theorem settings_world {w' : World} (h : w'.settings = d.world.settings)
    : ({ d with world := w' } : Deployment).settings = d.settings := by
  unfold settings
  rw [h]

theorem onlyHalts_setOffer {w : World} {offer : Offer} (hkey : w.offers key = some offer)
    : w.switches.OnlyHalts (w.setOffer key { offer with disabled := true }).switches where
  killed := id
  offers := by
    intro k hk
    unfold World.switches World.setOffer at *
    by_cases hkk : k = key
    . subst hkk
      simp
    . simpa [hkk] using hk
  redemptionOffers := fun _ => id

theorem onlyHalts_setRedemptionOffer {w : World} {redemptionOffer : RedemptionOffer}
    (hkey : w.redemptionOffers key = some redemptionOffer)
    : w.switches.OnlyHalts
        (w.setRedemptionOffer key { redemptionOffer with disabled := true }).switches where
  killed := id
  offers := fun _ => id
  redemptionOffers := by
    intro k hk
    unfold World.switches World.setRedemptionOffer at *
    by_cases hkk : k = key
    . subst hkk
      simp
    . simpa [hkk] using hk

end Halts

theorem Effect.harmless (hboss : action.signer.key ≠ d.boss)
    (hproposed : action.signer.key ≠ d.governance.proposedBoss) (h : Effect clock d action d')
    : Harmless d action.signer d' := by
  cases h with
  | @instruction i _ _ hvaults hexecute =>
    have hfree : i.isBossOnly = false := by
      cases hcase : i.isBossOnly with
      | false => rfl
      | true => exact absurd (execute_boss hcase hexecute) hboss
    have hkeeps := execute_keeps hfree hexecute
    refine .of_keeps ?_ hkeeps.switches
    unfold settings
    simp only [hkeeps.settings, hvaults.destinations]
  | tokens => exact .of_keeps rfl rfl
  | offer _ hsigner => exact absurd hsigner hboss
  | @disableOffer _ _ _ disabled hkey hdisable henable =>
    cases disabled with
    | false => exact absurd (henable rfl) hboss
    | true =>
      exact .of_halt (hdisable rfl) hboss (settings_world (World.settings_setOffer hkey rfl))
        (onlyHalts_setOffer hkey)
  | @disableRedemptionOffer _ _ _ disabled hkey hdisable henable =>
    cases disabled with
    | false => exact absurd (henable rfl) hboss
    | true =>
      exact .of_halt (hdisable rfl) hboss
        (settings_world (World.settings_setRedemptionOffer hkey rfl))
        (onlyHalts_setRedemptionOffer hkey)
  | state _ hsigner => exact absurd hsigner hboss
  | @killSwitch _ enable henable hdisable =>
    cases enable with
    | false => exact absurd (hdisable rfl) hboss
    | true => exact .of_halt (henable rfl) hboss rfl ⟨fun _ => rfl, fun _ => id, fun _ => id⟩
  | propose hsigner => exact absurd hsigner hboss
  | accept hsigner => exact absurd hsigner hproposed
  | admins hsigner => exact absurd hsigner hboss
  | approvers hsigner => exact absurd hsigner hboss
  | close hsigner => exact absurd hsigner hboss
  | destination hsigner => exact absurd hsigner hboss
  | authority _ hsigner => exact absurd hsigner hboss
  | excludedAccounts hsigner => exact absurd hsigner hboss
  | stats => exact .of_keeps rfl rfl

theorem perform_harmless (hopen : d.stateIsOpen = true) (hboss : action.signer.key ≠ d.boss)
    (hproposed : action.signer.key ≠ d.governance.proposedBoss)
    (h : d.perform clock action = .ok d') : Harmless d action.signer d' := by
  rcases perform_inv h with ⟨_, heffect⟩ | ⟨hclosed, _⟩
  . exact heffect.harmless hboss hproposed
  . rw [hopen] at hclosed
    cases hclosed

section Runs

variable {d₁ : Deployment} (h : d₁.settings = d.settings)

include h

theorem boss_of_settings : d₁.boss = d.boss :=
  congrArg (fun s : Settings => s.market.state.boss) h

theorem governance_of_settings : d₁.governance = d.governance := congrArg Settings.governance h

theorem stateIsOpen_of_settings : d₁.stateIsOpen = d.stateIsOpen := congrArg Settings.stateIsOpen h

theorem harmless_of_settings {d₂ : Deployment} (hopen : d.stateIsOpen = true)
    (hsigner : action.signer.key ≠ d.boss ∧ action.signer.key ≠ d.governance.proposedBoss)
    (hstep : d₁.perform clock action = .ok d₂) : Harmless d₁ action.signer d₂ := by
  apply perform_harmless _ _ _ hstep
  . rw [stateIsOpen_of_settings h]
    exact hopen
  . rw [boss_of_settings h]
    exact hsigner.1
  . rw [governance_of_settings h]
    exact hsigner.2

end Runs

theorem run_settings (hopen : d.stateIsOpen = true)
    (hactions : ∀ call ∈ actions, call.2.signer.key ≠ d.boss ∧
      call.2.signer.key ≠ d.governance.proposedBoss)
    (h : d.run actions = .ok d')
    : d'.settings = d.settings ∧ d.world.switches.OnlyHalts d'.world.switches := by
  apply Run.run_inv
    (fun d₁ => d₁.settings = d.settings ∧ d.world.switches.OnlyHalts d₁.world.switches)
    (fun call => call.2.signer.key ≠ d.boss ∧ call.2.signer.key ≠ d.governance.proposedBoss)
    _ hactions ⟨rfl, .refl _⟩ h
  rintro d₁ d₂ call hsigner ⟨hsettings, hhalts⟩ hstep
  have hharmless := harmless_of_settings hsettings hopen hsigner hstep
  exact ⟨hharmless.settings.trans hsettings, hhalts.trans hharmless.halts⟩

theorem run_unprivileged (hopen : d.stateIsOpen = true)
    (hactions : ∀ call ∈ actions, call.2.signer.key ≠ d.boss ∧
      call.2.signer.key ≠ d.governance.proposedBoss)
    (h : d.run actions = .ok d')
    : d'.settings = d.settings ∧ d.world.switches.OnlyHalts d'.world.switches ∧
      ((∀ call ∈ actions, call.2.signer.key ∉ d.admins) →
        d'.world.switches = d.world.switches) := by
  have hkept := run_settings hopen hactions h
  refine ⟨hkept.1, hkept.2, ?_⟩
  intro hadmins
  -- the settings are carried along because they hold the list of admins
  have hswitches : d'.settings = d.settings ∧ d'.world.switches = d.world.switches := by
    apply Run.run_inv
      (fun d₁ => d₁.settings = d.settings ∧ d₁.world.switches = d.world.switches)
      (fun call => (call.2.signer.key ≠ d.boss ∧ call.2.signer.key ≠ d.governance.proposedBoss) ∧
        call.2.signer.key ∉ d.admins)
      _ (fun call hcall => ⟨hactions call hcall, hadmins call hcall⟩) ⟨rfl, rfl⟩ h
    rintro d₁ d₂ call ⟨hsigner, hnot⟩ ⟨hsettings, hsame⟩ hstep
    have hharmless := harmless_of_settings hsettings hopen hsigner hstep
    refine ⟨hharmless.settings.trans hsettings, (hharmless.switches ?_).trans hsame⟩
    rw [admins, governance_of_settings hsettings]
    exact hnot
  exact hswitches.2

theorem run_unprivileged_admin
    : ∃ (d d' : Deployment),
        d.run [(⟨1200, 0⟩, .instruction Sample.purchase),
          (⟨1300, 0⟩, .setOfferDisabled Sample.admin Sample.offer true)] = .ok d' ∧
        d'.settings = d.settings ∧ d.world.switches.OnlyHalts d'.world.switches ∧
        d.world.switches.offers Sample.offer = some false ∧
        d'.world.switches.offers Sample.offer = some true := by
  have hview : ((Sample.deployment.run (Sample.market ++ Sample.adminChanges ++
      [(⟨1150, 0⟩, .addAdmin Sample.boss Sample.admin.key)])).toOption.bind fun d =>
        (d.run [(⟨1200, 0⟩, .instruction Sample.purchase),
          (⟨1300, 0⟩, .setOfferDisabled Sample.admin Sample.offer true)]).toOption.bind fun d' =>
            some (d.stateIsOpen, d.boss, d.governance.proposedBoss,
              d.world.switches.offers Sample.offer, d'.world.switches.offers Sample.offer)) =
      some (true, Sample.boss.key, .default, some false, some true) := by decide +kernel
  rcases exists_ok_of_view hview with ⟨d, _, hview⟩
  rcases exists_ok_of_view hview with ⟨d', hrun, hfacts⟩
  simp only [Option.some.injEq, Prod.mk.injEq] at hfacts
  rcases hfacts with ⟨hopen, hboss, hproposed, hbefore, hafter⟩
  have hkept := run_unprivileged hopen (by rw [hboss, hproposed]; decide) hrun
  exact ⟨d, d', hrun, hkept.1, hkept.2.1, hbefore, hafter⟩

end Deployment

end OnreApp
