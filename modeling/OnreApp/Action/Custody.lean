import OnreApp.Action.Effect
import OnreApp.Lib.Run
import OnreApp.Program.Supply

namespace OnreApp

open Checked TokenLedger

variable {clock : Clock} {d d' : Deployment} {action : Action} {actions : List (Clock × Action)}

namespace Deployment

theorem Effect.follows (h : Effect clock d action d') : d.Follows action.signer d'.world := by
  cases h with
  | instruction _ hexecute => exact execute_follows hexecute
  | tokens _ _ hfollows => exact hfollows
  | _ => exact .of_ledger rfl

theorem perform_follows (h : d.perform clock action = .ok d')
    : d.Follows action.signer d'.world := by
  rcases perform_inv h with ⟨_, heffect⟩ | ⟨_, _⟩
  . exact heffect.follows
  . exact .of_ledger rfl

end Deployment

namespace Sample

def treasury : Pubkey := .external 50

def vaultRun : List (Clock × Action) := [
  (⟨1150, 0⟩, .setConfigurableVaultDestination boss .offerProceeds treasury),
  (⟨1150, 0⟩, .depositReserveVault user 5000000000),
  (⟨1160, 0⟩, .instruction (.takeOfferPermissionlessV2 ⟨user, usdc, onyc, .marketStats, 50000000⟩)),
  (⟨1200, 0⟩, .withdrawConfigurableVault ⟨user, .offerProceeds, usdc, treasury, 0⟩)
]

end Sample

theorem Sample.deployment_backed (m : Pubkey)
    : TokenLedger.Backed Sample.deployment.world.ledger m := by
  refine ⟨{Sample.user.key}, ?_, ?_⟩
  . intro k hk
    rw [Finset.mem_singleton] at hk
    exact if_neg fun h => hk h.1
  . rw [Finset.sum_singleton]
    simp [Sample.deployment, Sample.world]

namespace Deployment

theorem run_backed {m : Pubkey} (hbacked : TokenLedger.Backed d.world.ledger m)
    (h : d.run actions = .ok d') : TokenLedger.Backed d'.world.ledger m := by
  apply Run.run_inv (fun d => TokenLedger.Backed d.world.ledger m) (fun _ => True) _
    (fun _ _ => trivial) hbacked h
  intro d₁ d₂ call _ hbacked₁ hstep
  exact hbacked₁.follows (perform_follows hstep)

theorem run_supply_le {m : Pubkey} (hsupply : d.world.ledger.supply m ≤ u64Max)
    (h : d.run actions = .ok d') : d'.world.ledger.supply m ≤ u64Max := by
  apply Run.run_inv (fun d => d.world.ledger.supply m ≤ u64Max) (fun _ => True) _
    (fun _ _ => trivial) hsupply h
  intro d₁ d₂ call _ hsupply₁ hstep
  rcases perform_follows hstep with ⟨ops, hperforms, _⟩
  exact hperforms.supply_le hsupply₁

section Spending

theorem perform_charged (h : d.perform clock action = .ok d')
    : Charged d.world.ledger d'.world.ledger action.signer
        (action.payment d.world.state.onycMint) := by
  rcases perform_inv h with ⟨_, heffect⟩ | ⟨_, _⟩
  case inr => exact .of_ledger rfl
  cases heffect with
  | instruction _ hexecute => exact execute_charged hexecute
  | tokens _ _ _ hcharged => exact hcharged
  | _ => exact .of_ledger rfl

theorem Permitted.debited_external {signer : Signer} {op : LedgerOp} {id : Nat}
    (h : Permitted d signer op) (hne : signer.id ≠ id) (m : Pubkey)
    : op.debited (.external id) m = 0 := by
  cases h with
  | pay => simp [Op.debited, Signer.key, hne.symm]
  | issue => rfl
  | burnPayment _ hsource => rcases hsource with rfl | rfl <;> simp [Op.debited]
  | _ => simp [Op.debited]

def signedFor (d : Deployment) (signer : Signer) (m : Pubkey) (actions : List (Clock × Action))
    : Nat :=
  Run.total (fun d action => d.perform action.1 action.2)
    (fun d action =>
      if action.2.signer = signer then amountIn m (action.2.payment d.world.state.onycMint) else 0)
    d actions

theorem run_spent (h : d.run actions = .ok d') (signer : Signer) (m : Pubkey)
    : d.world.ledger.balance signer.key m
        ≤ d'.world.ledger.balance signer.key m + d.signedFor signer m actions := by
  apply Run.le_add_total _ (fun d => d.world.ledger.balance signer.key m) _ h
  intro d₁ d₂ call hstep
  by_cases hsigner : call.2.signer = signer
  . rw [if_pos hsigner, ← hsigner]
    exact (perform_charged hstep).signer m
  . rw [if_neg hsigner]
    apply (perform_follows hstep).balance_le
    intro op hop
    apply Permitted.debited_external hop
    intro hid
    apply hsigner
    cases hcall : call.2.signer
    cases signer
    simp_all

theorem run_spent_vaultRun
    : ∃ (d d' : Deployment),
        d.run Sample.vaultRun = .ok d' ∧
        d.signedFor Sample.user Sample.usdc Sample.vaultRun = 50000000 ∧
        d.world.ledger.balance Sample.user.key Sample.usdc
          ≤ d'.world.ledger.balance Sample.user.key Sample.usdc + 50000000 := by
  have hview : ((Sample.deployment.run Sample.market).toOption.bind fun d =>
      (d.run Sample.vaultRun).toOption.bind fun _ =>
        some (d.signedFor Sample.user Sample.usdc Sample.vaultRun)) = some 50000000 := by
    decide +kernel
  rcases exists_ok_of_view hview with ⟨d, _, hview⟩
  rcases exists_ok_of_view hview with ⟨d', hrun, hfacts⟩
  rw [Option.some.injEq] at hfacts
  have hspent := run_spent hrun Sample.user Sample.usdc
  rw [hfacts] at hspent
  exact ⟨d, d', hrun, hfacts, hspent⟩

theorem run_intermediary (h : d.run actions = .ok d') (m : Pubkey)
    : d.world.ledger.balance .permissionlessAuthority m
        ≤ d'.world.ledger.balance .permissionlessAuthority m := by
  apply Run.run_inv (fun d' => d.world.ledger.balance .permissionlessAuthority m
    ≤ d'.world.ledger.balance .permissionlessAuthority m) (fun _ => True) _ (by simp)
    (Nat.le_refl _) h
  intro d₁ d₂ call _ hle hstep
  exact Nat.le_trans hle ((perform_charged hstep).intermediary m)

theorem run_intermediary_vaultRun
    : ∃ (d d' : Deployment),
        d.run Sample.vaultRun = .ok d' ∧
        d.world.ledger.balance .permissionlessAuthority Sample.usdc
          ≤ d'.world.ledger.balance .permissionlessAuthority Sample.usdc := by
  have hview : ((Sample.deployment.run Sample.market).toOption.bind fun d =>
      (d.run Sample.vaultRun).toOption.bind fun _ => some ()) = some () := by decide +kernel
  rcases exists_ok_of_view hview with ⟨d, _, hview⟩
  rcases exists_ok_of_view hview with ⟨d', hrun, _⟩
  exact ⟨d, d', hrun, run_intermediary hrun Sample.usdc⟩

end Spending

section Movements

/-- An operation a run performed, with the state the action that performed it was taken in. -/
structure PerformedIn (d : Deployment) (actions : List (Clock × Action)) (op : LedgerOp)
    (d₁ : Deployment) (signer : Signer) : Prop where
  reached : ∃ (before : List (Clock × Action)) (call : Clock × Action)
    (after : List (Clock × Action)),
    actions = before ++ call :: after ∧ d.run before = .ok d₁ ∧ call.2.signer = signer
  permitted : Permitted d₁ signer op

theorem run_movements (h : d.run actions = .ok d')
    : ∃ (ops : List LedgerOp),
        Performs u64Max d.world.ledger ops d'.world.ledger ∧
        ∀ op ∈ ops, ∃ (d₁ : Deployment) (signer : Signer), PerformedIn d actions op d₁ signer := by
  -- the history so far is itself a run, so it is carried along with the operations
  have hall : d.run actions = .ok d' ∧ ∃ (ops : List LedgerOp),
      Performs u64Max d.world.ledger ops d'.world.ledger ∧
      ∀ op ∈ ops, ∃ (d₁ : Deployment) (signer : Signer), PerformedIn d actions op d₁ signer := by
    apply Run.run_history (fun history d' => d.run history = .ok d' ∧ ∃ (ops : List LedgerOp),
      Performs u64Max d.world.ledger ops d'.world.ledger ∧
      ∀ op ∈ ops, ∃ (d₁ : Deployment) (signer : Signer), PerformedIn d history op d₁ signer) _ _ h
    . exact ⟨rfl, [], .nil _, by simp⟩
    . rintro history d₁ d₂ call ⟨hrun, ops, hperforms, hops⟩ hstep
      rcases perform_follows hstep with ⟨ops', hperforms', hops'⟩
      refine ⟨Run.run_append hrun (Run.run_singleton.trans hstep), ops ++ ops',
        hperforms.append hperforms', ?_⟩
      intro op hop
      rcases List.mem_append.mp hop with hop | hop
      . rcases hops op hop with ⟨d₃, signer, ⟨before, call', after, rfl, hbefore⟩, hpermitted⟩
        exact ⟨d₃, signer, ⟨before, call', after ++ [call], by simp, hbefore⟩, hpermitted⟩
      . exact ⟨d₁, call.2.signer, ⟨history, call, [], rfl, hrun, rfl⟩, hops' op hop⟩
  exact hall.2

end Movements

section Payouts

def destinationOf (d : Deployment) (kind : ConfigurableVaultKind) : Pubkey :=
  ((d.configurableVaults kind).map ConfigurableVault.withdrawalDestination).getD .default

theorem perform_destination {kind : ConfigurableVaultKind} (h : d.perform clock action = .ok d')
    (hne : d.destinationOf kind ≠ d'.destinationOf kind)
    : action = .setConfigurableVaultDestination action.signer kind (d'.destinationOf kind) ∧
      action.signer.key = d.boss := by
  rcases perform_inv h with ⟨_, heffect⟩ | ⟨_, _⟩
  case inr => exact absurd rfl hne
  cases heffect with
  | instruction hvaults =>
    apply absurd _ hne
    unfold destinationOf
    dsimp only
    rcases hvaults kind with hkind | ⟨hnone, hkind⟩
    . rw [hkind]
    . rw [hkind, hnone]
      rfl
  | @destination boss kind' vault _ hboss hvault =>
    by_cases hkind : kind = kind'
    . subst hkind
      simp only [destinationOf, setVault, Function.update_self, Option.map_some, Option.getD_some]
      exact ⟨rfl, hboss⟩
    . apply absurd _ hne
      simp [destinationOf, setVault, Function.update_of_ne hkind]
  | _ => exact absurd rfl hne

/--
Where a destination comes from: it was stored at the start, or the boss of the time stored it later
and nobody has changed it since.
-/
def StoredByBoss (d : Deployment) (history : List (Clock × Action)) (kind : ConfigurableVaultKind)
    (destination : Pubkey) : Prop :=
  destination = d.destinationOf kind ∨
    ∃ (earlier : List (Clock × Action)) (change : Clock × Action) (later : List (Clock × Action))
      (d₁ d₂ : Deployment) (boss : Signer),
      history = earlier ++ change :: later ∧ d.run earlier = .ok d₁ ∧
      d₁.perform change.1 change.2 = .ok d₂ ∧
      change.2 = .setConfigurableVaultDestination boss kind destination ∧ boss.key = d₁.boss ∧
      Run.Throughout (fun d action => d.perform action.1 action.2)
        (fun t => t.destinationOf kind = destination) d₂ later

theorem run_destination (h : d.run actions = .ok d') (kind : ConfigurableVaultKind)
    : StoredByBoss d actions kind (d'.destinationOf kind) := by
  by_cases hsame : d'.destinationOf kind = d.destinationOf kind
  . exact .inl hsame
  . rcases Run.last_change (fun d => d.destinationOf kind) h hsame with
      ⟨earlier, change, later, d₁, d₂, hsplit, hrun, hchange, hold, hnew, _, hstays⟩
    rcases perform_destination hchange (hnew ▸ hold) with ⟨haction, hboss⟩
    rw [hnew] at haction
    exact .inr ⟨earlier, change, later, d₁, d₂, _, hsplit, hrun, hchange, haction, hboss, hstays⟩

theorem run_payouts (h : d.run actions = .ok d')
    : ∃ (ops : List LedgerOp),
        Performs u64Max d.world.ledger ops d'.world.ledger ∧
        ∀ (m destination : Pubkey) (kind : ConfigurableVaultKind) (n : Nat),
          .transfer m (.configurableVault kind) destination n ∈ ops →
          destination ≠ .default ∧
          ∃ (before : List (Clock × Action)) (call : Clock × Action)
            (after : List (Clock × Action)),
            actions = before ++ call :: after ∧ StoredByBoss d before kind destination := by
  rcases run_movements h with ⟨ops, hperforms, hops⟩
  refine ⟨ops, hperforms, ?_⟩
  intro m destination kind n hop
  rcases hops _ hop with ⟨d₁, signer, ⟨before, call, after, hsplit, hrun, _⟩, hpermitted⟩
  generalize hsource : Pubkey.configurableVault kind = source at hpermitted
  cases hpermitted with
  | @payOut _ _ kind' vault hvault hset =>
    cases hsource
    have hdestination : d₁.destinationOf kind = vault.withdrawalDestination := by
      rw [destinationOf, hvault]
      rfl
    refine ⟨hset, before, call, after, hsplit, ?_⟩
    rw [← hdestination]
    exact run_destination hrun kind
  | _ => cases hsource

theorem run_payouts_vaultRun
    : ∃ (d d' : Deployment) (ops : List LedgerOp),
        d.run Sample.vaultRun = .ok d' ∧ d.destinationOf .offerProceeds = .default ∧
        d'.world.ledger.balance Sample.treasury Sample.usdc = 150000000 ∧
        Performs u64Max d.world.ledger ops d'.world.ledger ∧
        ∀ (m destination : Pubkey) (kind : ConfigurableVaultKind) (n : Nat),
          .transfer m (.configurableVault kind) destination n ∈ ops → destination ≠ .default := by
  have hview : ((Sample.deployment.run Sample.market).toOption.bind fun d =>
      (d.run Sample.vaultRun).toOption.bind fun d' =>
        some (d.destinationOf .offerProceeds,
          d'.world.ledger.balance Sample.treasury Sample.usdc)) = some (.default, 150000000) := by
    decide +kernel
  rcases exists_ok_of_view hview with ⟨d, _, hview⟩
  rcases exists_ok_of_view hview with ⟨d', hrun, hfacts⟩
  simp only [Option.some.injEq, Prod.mk.injEq] at hfacts
  rcases run_payouts hrun with ⟨ops, hperforms, hops⟩
  refine ⟨d, d', ops, hrun, hfacts.1, hfacts.2, hperforms, ?_⟩
  intro m destination kind n hop
  exact (hops m destination kind n hop).1

end Payouts

section Supply

theorem perform_authorityOf {m : Pubkey} (h : d.perform clock action = .ok d')
    (hnone : d.authorityOf m ≠ some .mintAuthority)
    (hnot : ∀ (boss : Signer), action ≠ .transferMintAuthorityToProgram boss m)
    : d'.authorityOf m ≠ some .mintAuthority := by
  rcases perform_inv h with ⟨_, heffect⟩ | ⟨_, _⟩
  case inr => exact hnone
  cases heffect with
  | instruction _ hexecute =>
    rw [authorityOf, (execute_framed hexecute).mints]
    exact hnone
  | @authority _ mint new _ _ hboss _ hnew =>
    simp only [authorityOf, Function.update_apply]
    split
    . next heq =>
      subst heq
      rcases hnew with rfl | ⟨_, haction⟩
      . rw [← hboss]
        simp [Signer.key]
      . exact absurd haction (hnot _)
    . exact hnone
  | _ => exact hnone

theorem Permitted.supply {signer : Signer} {op : LedgerOp} {m : Pubkey} (h : Permitted d signer op)
    (hnone : d.authorityOf m ≠ some .mintAuthority) : op.minted m = 0 ∧ op.burned m = 0 := by
  have hne : ∀ {mint : Pubkey}, d.authorityOf mint = some .mintAuthority → m ≠ mint := by
    rintro mint hauthority rfl
    exact hnone hauthority
  cases h with
  | issue hauthority => simp [Op.minted, Op.burned, hne hauthority]
  | burnPayment hauthority => simp [Op.minted, Op.burned, hne hauthority]
  | burnReserve hauthority => simp [Op.minted, Op.burned, hne hauthority]
  | _ => exact ⟨rfl, rfl⟩

theorem run_supply_fixed {m : Pubkey} (hnone : d.authorityOf m ≠ some .mintAuthority)
    (hactions : ∀ call ∈ actions, ∀ (boss : Signer),
      call.2 ≠ .transferMintAuthorityToProgram boss m)
    (h : d.run actions = .ok d')
    : d'.world.ledger.supply m = d.world.ledger.supply m ∧
      d'.authorityOf m ≠ some .mintAuthority := by
  apply Run.run_inv (fun d' => d'.world.ledger.supply m = d.world.ledger.supply m ∧
    d'.authorityOf m ≠ some .mintAuthority)
    (fun call => ∀ (boss : Signer), call.2 ≠ .transferMintAuthorityToProgram boss m) _ hactions
    ⟨rfl, hnone⟩ h
  rintro d₁ d₂ call hcall ⟨hsupply, hnone₁⟩ hstep
  refine ⟨?_, perform_authorityOf hstep hnone₁ hcall⟩
  rw [← hsupply]
  apply (perform_follows hstep).supply_eq
  intro op hop
  exact Permitted.supply hop hnone₁

theorem run_supply_fixed_vaultRun
    : ∃ (d d' : Deployment),
        d.run Sample.vaultRun = .ok d' ∧ d.authorityOf Sample.usdc = none ∧
        d'.world.ledger.supply Sample.usdc = d.world.ledger.supply Sample.usdc := by
  have hview : ((Sample.deployment.run Sample.market).toOption.bind fun d =>
      (d.run Sample.vaultRun).toOption.bind fun _ => some (d.authorityOf Sample.usdc)) =
      some none := by decide +kernel
  rcases exists_ok_of_view hview with ⟨d, _, hview⟩
  rcases exists_ok_of_view hview with ⟨d', hrun, hfacts⟩
  rw [Option.some.injEq] at hfacts
  have hnone : d.authorityOf Sample.usdc ≠ some .mintAuthority := by
    rw [hfacts]
    simp
  refine ⟨d, d', hrun, hfacts, (run_supply_fixed hnone ?_ hrun).1⟩
  simp [Sample.vaultRun]

end Supply

end Deployment

namespace Sample

def lowered : List (Clock × Action) := [
  (⟨1150, 0⟩, .configureMaxSupply boss 150000000000),
  (⟨1160, 0⟩, .takeOffer ⟨user, usdc, onyc, 50000000⟩ none)
]

end Sample

/-- Everything but raising the cap beyond a bound, or calling another mint ONyc. -/
def Action.KeepsCap (onycMint : Pubkey) (bound : Nat) : Action → Prop
  | .configureMaxSupply _ maxSupply => 0 < maxSupply ∧ maxSupply ≤ bound
  | .setOnycMint _ mint => mint = onycMint
  | .initializeState _ _ => False
  | _ => True

namespace Deployment

section Cap

structure Capped (onycMint : Pubkey) (bound : Nat) (d : Deployment) : Prop where
  onycMint_eq : d.world.state.onycMint = onycMint
  pos : 0 < d.world.state.maxSupply
  le : d.world.state.maxSupply ≤ bound
  supply : d.world.ledger.supply onycMint ≤ bound

theorem Effect.capped {onycMint : Pubkey} {bound : Nat} (hcapped : Capped onycMint bound d)
    (hkeeps : action.KeepsCap onycMint bound) (h : Effect clock d action d')
    : Capped onycMint bound d' := by
  rcases hcapped with ⟨rfl, hpos, hle, hsupply⟩
  cases h with
  | @instruction i vaults w' _ hexecute =>
    have hstate := (execute_framed hexecute).state
    rcases (execute_effect hexecute).performs with ⟨ops, hperforms, hcaps⟩
    refine ⟨congrArg State.onycMint hstate, hstate ▸ hpos, hstate ▸ hle, ?_⟩
    apply hperforms.supply_le_of_capped hsupply
    intro destination n supplyAfter hmem
    exact Nat.le_trans (hcaps.maxSupply hpos destination n supplyAfter hmem) hle
  | tokens _ _ _ _ _ hcap =>
    refine ⟨rfl, hpos, hle, ?_⟩
    exact Nat.le_trans (hcap hpos _) (Nat.max_le.mpr ⟨hsupply, hle⟩)
  | @state _ state _ _ _ _ honyc hmaxSupply =>
    have hmint : state.onycMint = d.world.state.onycMint := by
      rcases honyc with hsame | haction
      . exact hsame
      . rw [haction] at hkeeps
        exact hkeeps
    rcases hmaxSupply with hsame | haction
    . exact ⟨hmint, hsame ▸ hpos, hsame ▸ hle, hsupply⟩
    . rw [haction] at hkeeps
      exact ⟨hmint, hkeeps.1, hkeeps.2, hsupply⟩
  | _ => exact ⟨rfl, hpos, hle, hsupply⟩

theorem run_maxSupply {bound : Nat} (hpos : 0 < d.world.state.maxSupply)
    (hle : d.world.state.maxSupply ≤ bound)
    (hsupply : d.world.ledger.supply d.world.state.onycMint ≤ bound)
    (hactions : ∀ call ∈ actions, call.2.KeepsCap d.world.state.onycMint bound)
    (h : d.run actions = .ok d')
    : d'.world.ledger.supply d.world.state.onycMint ≤ bound := by
  have hcapped : Capped d.world.state.onycMint bound d' := by
    apply Run.run_inv (Capped d.world.state.onycMint bound)
      (fun call => call.2.KeepsCap d.world.state.onycMint bound) _ hactions
      ⟨rfl, hpos, hle, hsupply⟩ h
    intro d₁ d₂ call hkeeps hcapped hstep
    rcases perform_inv hstep with ⟨_, heffect⟩ | hstart
    . exact heffect.capped hcapped hkeeps
    . generalize call.2 = action at hkeeps hstart
      cases hstart
      exact absurd hkeeps id
  exact hcapped.supply

theorem run_maxSupply_lowered
    : ∃ (d' : Deployment),
        Sample.deployment.run (Sample.market ++ Sample.lowered) = .ok d' ∧
        d'.world.state.maxSupply = 150000000000 ∧
        0 < d'.world.ledger.supply Sample.onyc ∧
        d'.world.ledger.supply Sample.onyc ≤ 200000000000 := by
  have hview : (Sample.deployment.run (Sample.market ++ Sample.lowered)).toOption.bind (fun d' =>
      some (d'.world.state.maxSupply, d'.world.ledger.supply Sample.onyc)) =
      some (150000000000, 149985001498) := by decide +kernel
  rcases exists_ok_of_view hview with ⟨d', hrun, hfacts⟩
  simp only [Option.some.injEq, Prod.mk.injEq] at hfacts
  refine ⟨d', hrun, hfacts.1, by omega, ?_⟩
  apply run_maxSupply (d := Sample.deployment) (by decide) (by decide) (by decide) ?_ hrun
  simp [Sample.market, Sample.launch, Sample.lowered, Action.KeepsCap]

end Cap

section Reserve

theorem Permitted.debited_reserve {signer : Signer} {op : LedgerOp} (h : Permitted d signer op)
    (hboss : signer.key ≠ d.boss) (m : Pubkey) : op.debited .reserveVaultAuthority m = 0 := by
  cases h with
  | withdrawReserve hsigner => exact absurd hsigner hboss
  | burnReserve _ hsigner => exact absurd hsigner hboss
  | burnPayment _ hsource => rcases hsource with rfl | rfl <;> simp [Op.debited]
  | issue => rfl
  | _ => simp [Op.debited, Signer.key]

theorem perform_reserve {m : Pubkey} (h : d.perform clock action = .ok d')
    (hboss : action.signer.key ≠ d.boss)
    : d.world.ledger.balance .reserveVaultAuthority m
        ≤ d'.world.ledger.balance .reserveVaultAuthority m := by
  apply (perform_follows h).balance_le
  intro op hop
  exact Permitted.debited_reserve hop hboss m

theorem run_reserve {m : Pubkey} (h : d.run actions = .ok d')
    (hless : d'.world.ledger.balance .reserveVaultAuthority m
      < d.world.ledger.balance .reserveVaultAuthority m)
    : ∃ (before : List (Clock × Action)) (call : Clock × Action) (after : List (Clock × Action))
        (d₁ d₂ : Deployment),
        actions = before ++ call :: after ∧ d.run before = .ok d₁ ∧
        d₁.perform call.1 call.2 = .ok d₂ ∧
        d₂.world.ledger.balance .reserveVaultAuthority m
          < d₁.world.ledger.balance .reserveVaultAuthority m ∧
        call.2.signer.key = d₁.boss := by
  rcases Run.exists_drop (fun d => d.world.ledger.balance .reserveVaultAuthority m) h hless with
    ⟨before, call, after, d₁, d₂, hsplit, hrun, hstep, hfalls⟩
  refine ⟨before, call, after, d₁, d₂, hsplit, hrun, hstep, hfalls, ?_⟩
  by_contra hboss
  have hle := perform_reserve (m := m) hstep hboss
  omega

theorem run_reserve_withdrawn
    : ∃ (d d' : Deployment),
        d.run [(⟨1300, 0⟩, .withdrawReserveVault Sample.boss 1000000000)] = .ok d' ∧
        d'.world.ledger.balance .reserveVaultAuthority Sample.onyc
          < d.world.ledger.balance .reserveVaultAuthority Sample.onyc ∧
        ∃ (before : List (Clock × Action)) (call : Clock × Action) (d₁ : Deployment),
          d.run before = .ok d₁ ∧ call.2.signer.key = d₁.boss := by
  have hview : ((Sample.deployment.run (Sample.market ++ Sample.vaultRun)).toOption.bind fun d =>
      (d.run [(⟨1300, 0⟩, .withdrawReserveVault Sample.boss 1000000000)]).toOption.bind fun d' =>
        some (d.world.ledger.balance .reserveVaultAuthority Sample.onyc,
          d'.world.ledger.balance .reserveVaultAuthority Sample.onyc)) =
      some (5000002568, 4000002568) := by decide +kernel
  rcases exists_ok_of_view hview with ⟨d, _, hview⟩
  rcases exists_ok_of_view hview with ⟨d', hrun, hfacts⟩
  simp only [Option.some.injEq, Prod.mk.injEq] at hfacts
  have hless : d'.world.ledger.balance .reserveVaultAuthority Sample.onyc
      < d.world.ledger.balance .reserveVaultAuthority Sample.onyc := by omega
  rcases run_reserve hrun hless with ⟨before, call, _, d₁, _, _, hrun₁, _, _, hboss⟩
  exact ⟨d, d', hrun, hless, before, call, d₁, hrun₁, hboss⟩

end Reserve

end Deployment

end OnreApp
