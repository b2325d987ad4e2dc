import OnreApp.Action.Effect
import OnreApp.Lib.Run

namespace OnreApp

open Checked TokenLedger

variable {clock : Clock} {d d' : Deployment} {action : Action}
  {actions : List (Clock × Action)}

namespace Deployment

section KillSwitch

/--
The two ways out of a killed program: the boss lifts the switch, or a new state starts. The upgrade
authority starts it, and anybody does when the program has none.
-/
inductive LiftsKillSwitch (d : Deployment) : Action → Prop where
  | lift {boss : Signer} (hboss : boss.key = d.boss) : LiftsKillSwitch d (.setKillSwitch boss false)
  | start {boss : Signer} {onycMint : Pubkey} (hclosed : d.stateIsOpen = false)
      (hauthority : ∀ authority ∈ d.upgradeAuthority, boss.key = authority)
      : LiftsKillSwitch d (.initializeState boss onycMint)

theorem perform_killed (hkilled : d.world.state.isKilled = true)
    (h : d.perform clock action = .ok d')
    : (d'.world.state.isKilled = true ∧ d.world.Quiet d'.world) ∨ d.LiftsKillSwitch action := by
  rcases perform_inv h with ⟨_, heffect⟩ | ⟨hclosed, hauthority⟩
  case inr => exact .inr (.start hclosed hauthority)
  cases heffect with
  | @instruction i _ _ _ hexecute =>
    have hsetup : i.isSetup = true := by
      cases hcase : i.isSetup with
      | true => rfl
      | false =>
        have := execute_not_killed hcase hexecute
        rw [hkilled] at this
        cases this
    refine .inl ⟨?_, execute_quiet hsetup hexecute⟩
    rw [(execute_framed hexecute).state]
    exact hkilled
  | tokens _ hnot =>
    rw [hkilled] at hnot
    cases hnot
  | state _ _ _ hkept => exact .inl ⟨hkept.trans hkilled, rfl, rfl, rfl⟩
  | @killSwitch _ enable _ hdisable =>
    cases enable with
    | true => exact .inl ⟨rfl, rfl, rfl, rfl⟩
    | false => exact .inr (.lift (hdisable rfl))
  | offer => exact .inl ⟨hkilled, rfl, rfl, rfl⟩
  | disableOffer => exact .inl ⟨hkilled, rfl, rfl, rfl⟩
  | disableRedemptionOffer => exact .inl ⟨hkilled, rfl, rfl, rfl⟩
  | propose => exact .inl ⟨hkilled, rfl, rfl, rfl⟩
  | accept => exact .inl ⟨hkilled, rfl, rfl, rfl⟩
  | admins => exact .inl ⟨hkilled, rfl, rfl, rfl⟩
  | approvers => exact .inl ⟨hkilled, rfl, rfl, rfl⟩
  | close => exact .inl ⟨hkilled, rfl, rfl, rfl⟩
  | destination => exact .inl ⟨hkilled, rfl, rfl, rfl⟩
  | authority => exact .inl ⟨hkilled, rfl, rfl, rfl⟩
  | excludedAccounts => exact .inl ⟨hkilled, rfl, rfl, rfl⟩
  | stats => exact .inl ⟨hkilled, rfl, rfl, rfl⟩

theorem run_killed (hkilled : d.world.state.isKilled = true) (h : d.run actions = .ok d')
    : (d'.world.state.isKilled = true ∧ d.world.Quiet d'.world) ∨
      ∃ (before : List (Clock × Action)) (lift : Clock × Action) (after : List (Clock × Action))
        (d₁ : Deployment),
        actions = before ++ lift :: after ∧ d.run before = .ok d₁ ∧
        d₁.world.state.isKilled = true ∧ d.world.Quiet d₁.world ∧ d₁.LiftsKillSwitch lift.2 := by
  apply Run.kept_or_broken (fun d => d.world.state.isKilled = true)
    (fun d d' => d.world.Quiet d'.world) (fun d action => d.LiftsKillSwitch action.2) _ _ _ hkilled h
  . exact fun d => .refl d.world
  . exact fun _ _ _ hquiet hquiet' => hquiet.trans hquiet'
  . exact fun _ _ _ => perform_killed

end KillSwitch

end Deployment

namespace Sample

def kill : List (Clock × Action) := [
  (⟨1150, 0⟩, .addAdmin boss admin.key),
  (⟨1150, 0⟩, .setKillSwitch admin true)
]

def revival : List (Clock × Action) := [
  (⟨1160, 0⟩, .proposeBoss boss heir.key),
  (⟨1170, 0⟩, .setKillSwitch boss false),
  (⟨1200, 0⟩, .instruction purchase)
]

end Sample

namespace Deployment

theorem run_killed_revival
    : ∃ (d₁ d₂ : Deployment),
        d₁.world.state.isKilled = true ∧ d₁.run Sample.revival = .ok d₂ ∧
        d₂.world.ledger.balance Sample.user.key Sample.usdc
          < d₁.world.ledger.balance Sample.user.key Sample.usdc ∧
        ∃ (before : List (Clock × Action)) (lift : Clock × Action) (d₃ : Deployment),
          d₁.run before = .ok d₃ ∧ d₁.world.Quiet d₃.world ∧ d₃.LiftsKillSwitch lift.2 := by
  have hview : ((Sample.deployment.run (Sample.market ++ Sample.kill)).toOption.bind fun d₁ =>
      (d₁.run Sample.revival).toOption.bind fun d₂ =>
        some (d₁.world.state.isKilled, d₁.world.ledger.balance Sample.user.key Sample.usdc,
          d₂.world.ledger.balance Sample.user.key Sample.usdc)) =
      some (true, 900000000, 850000000) := by decide +kernel
  rcases exists_ok_of_view hview with ⟨d₁, _, hview⟩
  rcases exists_ok_of_view hview with ⟨d₂, hrun, hfacts⟩
  simp only [Option.some.injEq, Prod.mk.injEq] at hfacts
  rcases hfacts with ⟨hkilled, hbefore, hafter⟩
  refine ⟨d₁, d₂, hkilled, hrun, by omega, ?_⟩
  rcases run_killed hkilled hrun with ⟨_, hquiet⟩ | ⟨before, lift, _, d₃, _, hrun₃, _, hquiet, hlift⟩
  . rw [hquiet.ledger] at hafter
    omega
  . exact ⟨before, lift, d₃, hrun₃, hquiet, hlift⟩


section Ownership

structure Ownership where
  boss : Pubkey
  proposedBoss : Pubkey
  isOpen : Bool

def ownership (d : Deployment) : Ownership where
  boss := d.boss
  proposedBoss := d.governance.proposedBoss
  isOpen := d.stateIsOpen

/-- The protocol that hands the program over, with who may take each step. -/
inductive Ownership.Step (upgradeAuthority : Option Pubkey) (o : Ownership)
    : Action → Ownership → Prop where
  | keep {action : Action} (hopen : o.isOpen = true) : Step upgradeAuthority o action o
  | propose {boss : Signer} {newBoss : Pubkey} (hopen : o.isOpen = true) (hboss : boss.key = o.boss)
      : Step upgradeAuthority o (.proposeBoss boss newBoss) { o with proposedBoss := newBoss }
  | accept {newBoss : Signer} (hopen : o.isOpen = true) (hproposed : newBoss.key = o.proposedBoss)
      : Step upgradeAuthority o (.acceptBoss newBoss)
          { o with boss := newBoss.key, proposedBoss := .default }
  | close {boss : Signer} (hopen : o.isOpen = true) (hboss : boss.key = o.boss)
      : Step upgradeAuthority o (.closeState boss) { o with isOpen := false }
  | start {boss : Signer} {onycMint : Pubkey} (hclosed : o.isOpen = false)
      (hauthority : ∀ authority ∈ upgradeAuthority, boss.key = authority)
      : Step upgradeAuthority o (.initializeState boss onycMint) ⟨boss.key, .default, true⟩

theorem Ownership.Step.of_eq (hopen : d.stateIsOpen = true) (hboss : d'.boss = d.boss)
    (hproposed : d'.governance.proposedBoss = d.governance.proposedBoss)
    (hkept : d'.stateIsOpen = d.stateIsOpen)
    : Ownership.Step d.upgradeAuthority d.ownership action d'.ownership := by
  have heq : d'.ownership = d.ownership := by
    unfold Deployment.ownership
    rw [hboss, hproposed, hkept]
  rw [heq]
  exact .keep hopen

theorem Effect.ownership (hopen : d.stateIsOpen = true) (h : Effect clock d action d')
    : Ownership.Step d.upgradeAuthority d.ownership action d'.ownership := by
  cases h with
  | instruction _ hexecute =>
    exact .of_eq hopen (congrArg State.boss (execute_framed hexecute).state) rfl rfl
  | state _ _ hkept => exact .of_eq hopen hkept rfl rfl
  | propose hboss => exact .propose hopen hboss
  | accept hproposed => exact .accept hopen hproposed
  | approvers _ happrovers => exact .of_eq hopen rfl happrovers.frame.1 rfl
  | close hboss => exact .close hopen hboss
  | tokens => exact .keep hopen
  | offer => exact .keep hopen
  | disableOffer => exact .keep hopen
  | disableRedemptionOffer => exact .keep hopen
  | killSwitch => exact .keep hopen
  | admins => exact .keep hopen
  | destination => exact .keep hopen
  | authority => exact .keep hopen
  | excludedAccounts => exact .keep hopen
  | stats => exact .keep hopen

theorem perform_ownership (h : d.perform clock action = .ok d')
    : Ownership.Step d.upgradeAuthority d.ownership action d'.ownership := by
  rcases perform_inv h with ⟨hopen, heffect⟩ | ⟨hclosed, hauthority⟩
  . exact heffect.ownership hopen
  . exact .start hclosed hauthority

/--
Where the ownership at the end of a run comes from: a proposal that stands was made by the boss of
today, and a closed program was closed by him, unless it all was so from the beginning.
-/
structure Ownership.Traced (initial : Ownership) (history : List (Clock × Action)) (o : Ownership)
    : Prop where
  proposed : o.proposedBoss = .default ∨ o.boss = initial.boss ∧ o.proposedBoss = initial.proposedBoss ∨
    ∃ (clock : Clock) (boss : Signer),
      (clock, .proposeBoss boss o.proposedBoss) ∈ history ∧ boss.key = o.boss
  closed : o.isOpen = false → o.boss = initial.boss ∧ initial.isOpen = false ∨
    ∃ (clock : Clock) (boss : Signer), (clock, .closeState boss) ∈ history ∧ boss.key = o.boss

theorem Ownership.Traced.step {initial o o' : Ownership} {history : List (Clock × Action)}
    {upgradeAuthority : Option Pubkey} (htraced : Traced initial history o)
    (h : Step upgradeAuthority o action o') : Traced initial (history ++ [(clock, action)]) o' := by
  have hmem : ∀ {call : Clock × Action}, call ∈ history → call ∈ history ++ [(clock, action)] :=
    List.mem_append_left _
  have hproposed : o.proposedBoss = .default ∨
      o.boss = initial.boss ∧ o.proposedBoss = initial.proposedBoss ∨
      ∃ (clock' : Clock) (boss : Signer),
        (clock', .proposeBoss boss o.proposedBoss) ∈ history ++ [(clock, action)] ∧
          boss.key = o.boss := by
    rcases htraced.proposed with hnone | hinitial | ⟨clock', boss, hhistory, hboss⟩
    . exact .inl hnone
    . exact .inr (.inl hinitial)
    . exact .inr (.inr ⟨clock', boss, hmem hhistory, hboss⟩)
  cases h with
  | keep hopen => exact ⟨hproposed, by simp [hopen]⟩
  | @propose boss _ hopen hboss =>
    refine ⟨.inr (.inr ⟨clock, boss, ?_, hboss⟩), by simp [hopen]⟩
    exact List.mem_append_right _ List.mem_cons_self
  | accept hopen => exact ⟨.inl rfl, by simp [hopen]⟩
  | @close boss hopen hboss =>
    refine ⟨hproposed, fun _ => .inr ⟨clock, boss, ?_, hboss⟩⟩
    exact List.mem_append_right _ List.mem_cons_self
  | start => exact ⟨.inl rfl, by simp⟩

theorem run_traced (h : d.run actions = .ok d')
    : Ownership.Traced d.ownership actions d'.ownership := by
  apply Run.run_history (fun history d' => Ownership.Traced d.ownership history d'.ownership) _ _ h
  . exact ⟨.inr (.inl ⟨rfl, rfl⟩), fun hclosed => .inl ⟨rfl, hclosed⟩⟩
  . intro history d₁ d₂ call htraced hstep
    exact htraced.step (perform_ownership hstep)

/--
How a key can have become the boss, in the state the change was made in. A program without upgrade
authority lets any signer set up a new state.
-/
inductive BecomesBoss (d : Deployment) (history : List (Clock × Action)) (d₁ : Deployment)
    (newBoss : Pubkey) : Action → Prop where
  | accept {signer : Signer} (hkey : signer.key = newBoss)
      (hproposed : d₁.boss = d.boss ∧ d.governance.proposedBoss = newBoss ∨
        ∃ (clock : Clock) (boss : Signer),
          (clock, .proposeBoss boss newBoss) ∈ history ∧ boss.key = d₁.boss)
      : BecomesBoss d history d₁ newBoss (.acceptBoss signer)
  | start {signer : Signer} {onycMint : Pubkey} (hkey : signer.key = newBoss)
      (hauthority : ∀ authority ∈ d₁.upgradeAuthority, signer.key = authority)
      (hclosed : d₁.boss = d.boss ∧ d.stateIsOpen = false ∨
        ∃ (clock : Clock) (boss : Signer),
          (clock, .closeState boss) ∈ history ∧ boss.key = d₁.boss)
      : BecomesBoss d history d₁ newBoss (.initializeState signer onycMint)

theorem perform_boss {history : List (Clock × Action)} {d₁ d₂ : Deployment}
    (hrun : d.run history = .ok d₁) (h : d₁.perform clock action = .ok d₂) (hne : d₁.boss ≠ d₂.boss)
    : BecomesBoss d history d₁ d₂.boss action := by
  have htraced := run_traced hrun
  have hboss : d₂.ownership.boss ≠ d₁.ownership.boss := hne.symm
  generalize hd₂ : d₂.ownership = o at *
  have hkey : d₂.boss = o.boss := congrArg Ownership.boss hd₂
  rw [hkey]
  have hstep := perform_ownership h
  rw [hd₂] at hstep
  cases hstep with
  | keep => exact absurd rfl hboss
  | propose => exact absurd rfl hboss
  | close => exact absurd rfl hboss
  | accept hopen hproposed =>
    refine .accept rfl ?_
    rcases htraced.proposed with hnone | ⟨hsame, hinitial⟩ | hhistory
    . rw [hnone] at hproposed
      cases hproposed
    . exact .inl ⟨hsame, hinitial.symm.trans hproposed.symm⟩
    . rw [← hproposed] at hhistory
      exact .inr hhistory
  | start hclosed hauthority => exact .start rfl hauthority (htraced.closed hclosed)

theorem run_boss (h : d.run actions = .ok d') (hne : d'.boss ≠ d.boss)
    : ∃ (before : List (Clock × Action)) (change : Clock × Action) (after : List (Clock × Action))
        (d₁ d₂ : Deployment),
        actions = before ++ change :: after ∧ d.run before = .ok d₁ ∧
        d₁.perform change.1 change.2 = .ok d₂ ∧ d₁.boss ≠ d'.boss ∧
        BecomesBoss d before d₁ d'.boss change.2 ∧
        Run.Throughout (fun d action => d.perform action.1 action.2) (fun t => t.boss = d'.boss)
          d₂ after := by
  rcases Run.last_change boss h hne with
    ⟨before, change, after, d₁, d₂, hsplit, hrun, hchange, hold, hnew, _, hstays⟩
  refine ⟨before, change, after, d₁, d₂, hsplit, hrun, hchange, hold, ?_, hstays⟩
  rw [← hnew]
  exact perform_boss hrun hchange (hnew ▸ hold)

end Ownership

end Deployment

namespace Sample

def handover : List (Clock × Action) := [
  (⟨1000, 0⟩, .proposeBoss boss heir.key),
  (⟨1100, 0⟩, .acceptBoss heir),
  (⟨1200, 0⟩, .setWorker heir admin.key)
]

end Sample

namespace Deployment

theorem run_boss_handover
    : ∃ (d' : Deployment),
        Sample.deployment.run Sample.handover = .ok d' ∧ d'.boss = Sample.heir.key ∧
        ∃ (before : List (Clock × Action)) (change : Clock × Action) (d₁ : Deployment),
          Sample.deployment.run before = .ok d₁ ∧
          BecomesBoss Sample.deployment before d₁ Sample.heir.key change.2 := by
  have hview : ((Sample.deployment.run Sample.handover).toOption.bind fun d' => some d'.boss) =
      some Sample.heir.key := by decide +kernel
  rcases exists_ok_of_view hview with ⟨d', hrun, hboss⟩
  rw [Option.some.injEq] at hboss
  have hne : d'.boss ≠ Sample.deployment.boss := by
    rw [hboss]
    decide
  rcases run_boss hrun hne with ⟨before, change, _, d₁, _, _, hrun₁, _, _, hbecomes, _⟩
  rw [hboss] at hbecomes
  exact ⟨d', hrun, hboss, before, change, d₁, hrun₁, hbecomes⟩


section GovernanceStep

inductive GovernanceStep (g : Governance) : Action → Governance → Prop where
  | plain {action : Action} (hplain : action.isGovernance = false) : GovernanceStep g action g
  | propose {boss : Signer} {newBoss : Pubkey}
      : GovernanceStep g (.proposeBoss boss newBoss) { g with proposedBoss := newBoss }
  | accept {newBoss : Signer}
      : GovernanceStep g (.acceptBoss newBoss) { g with proposedBoss := .default }
  | close {boss : Signer} : GovernanceStep g (.closeState boss) g
  | admins {action : Action} {admins : Vector Pubkey maxAdmins} (h : AdminStep g.admins action admins)
      : GovernanceStep g action { g with admins }
  | approvers {action : Action} {g' : Governance} (h : ApproverStep g action g')
      : GovernanceStep g action g'
  | start {boss : Signer} {onycMint : Pubkey}
      : GovernanceStep g (.initializeState boss onycMint) .initial

theorem perform_governance (h : d.perform clock action = .ok d')
    : GovernanceStep d.governance action d'.governance := by
  rcases perform_inv h with ⟨_, heffect⟩ | ⟨_, _⟩
  case inr => exact .start
  cases heffect with
  | tokens hplain => exact .plain hplain
  | offer hplain => exact .plain hplain
  | state hplain => exact .plain hplain
  | authority hplain => exact .plain hplain
  | stats hplain => exact .plain hplain
  | propose => exact .propose
  | accept => exact .accept
  | close => exact .close
  | admins _ hadmins => exact .admins hadmins
  | approvers _ happrovers => exact .approvers happrovers
  | _ => exact .plain rfl

end GovernanceStep

section Admins

def admins (d : Deployment) : Finset Pubkey := Slots.members .default d.governance.admins

def adminsAfter (admins : Finset Pubkey) : Action → Finset Pubkey
  | .addAdmin _ newAdmin => insert newAdmin admins
  | .removeAdmin _ adminToRemove => admins.erase adminToRemove
  | .clearAdmins _ => ∅
  | .initializeState _ _ => ∅
  | _ => admins

theorem contains_admins (key : Pubkey) (hne : key ≠ .default)
    : d.governance.admins.contains key = true ↔ key ∈ d.admins := by
  rw [Vector.contains_iff_mem, ← Vector.mem_toList_iff, Slots.mem_toList, admins, Slots.mem_members]
  simp [hne]

theorem AdminStep.refines {slots slots' : Vector Pubkey maxAdmins}
    (hdistinct : Slots.Distinct .default slots) (h : AdminStep slots action slots')
    : Slots.Distinct .default slots' ∧
      Slots.members .default slots' = adminsAfter (Slots.members .default slots) action := by
  cases h with
  | @add _ newAdmin _ hnew hput =>
    have habsent : ∀ (i : Fin maxAdmins), slots.get i ≠ newAdmin := by
      intro i hi
      have hcontains : slots.contains newAdmin = true := by
        rw [Vector.contains_iff_mem, ← Vector.mem_toList_iff, Slots.mem_toList]
        exact ⟨i, hi⟩
      rw [hnew] at hcontains
      cases hcontains
    have hne : newAdmin ≠ .default := by
      rcases Slots.put_inv hput with ⟨i, hi, _⟩
      intro heq
      exact habsent i (hi.trans heq.symm)
    refine ⟨hdistinct.put ?_ hput, Slots.members_put hne hput⟩
    rw [Slots.mem_members]
    rintro ⟨_, i, hi⟩
    exact habsent i hi
  | remove htake => exact ⟨hdistinct.take htake, hdistinct.members_take htake⟩
  | clear => exact ⟨Slots.distinct_replicate, Slots.members_replicate⟩

theorem adminsAfter_eq {admins : Finset Pubkey} (hplain : action.isGovernance = false)
    : adminsAfter admins action = admins := by
  cases action <;> first | rfl | cases hplain

theorem GovernanceStep.refines_admins {g g' : Governance}
    (hdistinct : Slots.Distinct .default g.admins)
    (h : GovernanceStep g action g')
    : Slots.Distinct .default g'.admins ∧
      Slots.members .default g'.admins = adminsAfter (Slots.members .default g.admins) action := by
  cases h with
  | plain hplain =>
    rw [adminsAfter_eq hplain]
    exact ⟨hdistinct, rfl⟩
  | propose => exact ⟨hdistinct, rfl⟩
  | accept => exact ⟨hdistinct, rfl⟩
  | close => exact ⟨hdistinct, rfl⟩
  | admins h => exact AdminStep.refines hdistinct h
  | approvers h =>
    rw [h.frame.2]
    cases h <;> exact ⟨hdistinct, rfl⟩
  | start => exact ⟨Slots.distinct_replicate, Slots.members_replicate⟩

section Roster

/-- Adding to and removing from a set of at most twenty keys, the default key being none of them. -/
def Roster.add (roster : Finset Pubkey) (newAdmin : Pubkey) : StateResult (Finset Pubkey) := do
  requireState (newAdmin ∉ roster ∧ (newAdmin = .default → roster.card = maxAdmins))
    .adminAlreadyExists
  requireState (roster.card ≠ maxAdmins) .maxAdminsReached
  return insert newAdmin roster

def Roster.remove (roster : Finset Pubkey) (adminToRemove : Pubkey)
    : StateResult (Finset Pubkey) := do
  requireState
    (adminToRemove ∈ roster ∨ adminToRemove = .default ∧ roster.card ≠ maxAdmins) .adminNotFound
  return roster.erase adminToRemove

variable (hdistinct : Slots.Distinct .default d.governance.admins) (boss : Signer)

include hdistinct

theorem contains_admins_iff (key : Pubkey)
    : d.governance.admins.contains key = true ↔
        key ∈ d.admins ∨ key = .default ∧ d.admins.card ≠ maxAdmins := by
  rw [Vector.contains_iff_mem, ← Vector.mem_toList_iff, Slots.mem_toList, hdistinct.exists_get_iff]
  rfl

theorem addAdmin_refines (newAdmin : Pubkey)
    : (addAdmin d boss newAdmin).map admins
        =
      (do d.requireBoss boss
          Roster.add d.admins newAdmin) := by
  by_cases hboss : boss.key = d.boss
  case neg =>
    simp only [addAdmin, requireBoss, Checked.require, hboss, if_false]
    rfl
  simp only [addAdmin, requireBoss, Roster.add, Checked.require, hboss, if_true, ok_bind]
  have hcontains := contains_admins_iff hdistinct newAdmin
  cases hmember : d.governance.admins.contains newAdmin with
  | true =>
    have hrefused : ¬ (newAdmin ∉ d.admins ∧
        (newAdmin = .default → d.admins.card = maxAdmins)) := by
      rcases hcontains.mp hmember with hmem | ⟨hdefault, hfree⟩
      . exact fun h => h.1 hmem
      . exact fun h => hfree (h.2 hdefault)
    rw [if_neg hrefused]
    rfl
  | false =>
    have hnew : newAdmin ∉ d.admins ∧ (newAdmin = .default → d.admins.card = maxAdmins) := by
      rw [hmember] at hcontains
      simp only [Bool.false_eq_true, false_iff, not_or, not_and, not_not] at hcontains
      exact hcontains
    rw [if_pos hnew, if_pos rfl, ok_bind, ok_bind]
    cases hput : Slots.put .default d.governance.admins newAdmin with
    | none =>
      have hfull : d.admins.card = maxAdmins := hdistinct.put_eq_none.mp hput
      rw [if_neg (fun hne => hne hfull)]
      rfl
    | some slots =>
      have hfree : d.admins.card ≠ maxAdmins := by
        intro hfull
        rw [hdistinct.put_eq_none.mpr hfull] at hput
        cases hput
      have hstep : AdminStep d.governance.admins (.addAdmin boss newAdmin) slots :=
        .add hmember hput
      have hmembers := (AdminStep.refines hdistinct hstep).2
      rw [if_pos hfree]
      exact congrArg Except.ok hmembers

theorem removeAdmin_refines (adminToRemove : Pubkey)
    : (removeAdmin d boss adminToRemove).map admins
        =
      (do d.requireBoss boss
          Roster.remove d.admins adminToRemove) := by
  by_cases hboss : boss.key = d.boss
  case neg =>
    simp only [removeAdmin, requireBoss, Checked.require, hboss, if_false]
    rfl
  simp only [removeAdmin, requireBoss, Roster.remove, Checked.require, hboss, if_true, ok_bind]
  have hexists := hdistinct.exists_get_iff (a := adminToRemove)
  cases htake : Slots.take .default d.governance.admins adminToRemove with
  | none =>
    have hrefused : ¬ (adminToRemove ∈ d.admins ∨
        adminToRemove = .default ∧ d.admins.card ≠ maxAdmins) := by
      intro hmem
      rcases hexists.mpr hmem with ⟨i, hi⟩
      rw [Slots.take, Option.map_eq_none_iff, Slots.find_eq_none] at htake
      exact htake i hi
    rw [if_neg hrefused]
    rfl
  | some slots =>
    have hfound : adminToRemove ∈ d.admins ∨
        adminToRemove = .default ∧ d.admins.card ≠ maxAdmins := by
      rcases Slots.take_inv htake with ⟨i, hi, _⟩
      exact hexists.mp ⟨i, hi⟩
    have hstep : AdminStep d.governance.admins (.removeAdmin boss adminToRemove) slots :=
      .remove htake
    have hmembers := (AdminStep.refines hdistinct hstep).2
    rw [if_pos hfound]
    exact congrArg Except.ok hmembers

end Roster

/-- The admins of `d` are the members of `roster`, and every change to them succeeds as there. -/
structure Rostered (d : Deployment) (roster : Finset Pubkey) : Prop where
  distinct : Slots.Distinct .default d.governance.admins
  members : d.admins = roster
  add : ∀ (boss : Signer) (newAdmin : Pubkey),
    (addAdmin d boss newAdmin).map admins
      =
    (do d.requireBoss boss
        Roster.add roster newAdmin)
  remove : ∀ (boss : Signer) (adminToRemove : Pubkey),
    (removeAdmin d boss adminToRemove).map admins
      =
    (do d.requireBoss boss
        Roster.remove roster adminToRemove)
  authorized : ∀ (signer : Signer),
    d.isBossOrAdmin signer = true ↔ signer.key = d.boss ∨ signer.key ∈ roster

theorem rostered (hdistinct : Slots.Distinct .default d.governance.admins)
    : Rostered d d.admins where
  distinct := hdistinct
  members := rfl
  add := addAdmin_refines hdistinct
  remove := removeAdmin_refines hdistinct
  authorized := by
    intro signer
    rw [isBossOrAdmin, Bool.or_eq_true, decide_eq_true_eq,
      contains_admins signer.key (by simp [Signer.key])]

end Admins

end Deployment

namespace Sample

def adminChanges : List (Clock × Action) := [
  (⟨1000, 0⟩, .addAdmin boss admin.key),
  (⟨1000, 0⟩, .addAdmin boss heir.key),
  (⟨1100, 0⟩, .removeAdmin boss admin.key)
]

end Sample

namespace Deployment

section Approvers

def approverSet (g : Governance) : Finset Pubkey :=
  ({g.approver1, g.approver2} : Finset Pubkey).erase .default

def approversAfter (approvers : Finset Pubkey) : Action → Finset Pubkey
  | .addApprover _ approver => insert approver approvers
  | .removeApprover _ approver => approvers.erase approver
  | .initializeState _ _ => ∅
  | _ => approvers

theorem approversAfter_eq {approvers : Finset Pubkey} (hplain : action.isGovernance = false)
    : approversAfter approvers action = approvers := by
  cases action <;> first | rfl | cases hplain

def ApproversDistinct (g : Governance) : Prop :=
  g.approver1 = g.approver2 → g.approver1 = .default

theorem ApproverStep.refines {g g' : Governance} (hdistinct : ApproversDistinct g)
    (h : ApproverStep g action g')
    : ApproversDistinct g' ∧ approverSet g' = approversAfter (approverSet g) action := by
  unfold ApproversDistinct at *
  cases h with
  | first hne hnew hfree =>
    refine ⟨fun heq => absurd heq.symm hnew.2, ?_⟩
    ext key
    simp only [approverSet, approversAfter, hfree, Finset.mem_erase, Finset.mem_insert,
      Finset.mem_singleton]
    grind
  | second hne hnew hfree =>
    refine ⟨fun heq => absurd heq hnew.1, ?_⟩
    ext key
    simp only [approverSet, approversAfter, hfree, Finset.mem_erase, Finset.mem_insert,
      Finset.mem_singleton]
    grind
  | removeFirst hne heq =>
    refine ⟨fun _ => rfl, ?_⟩
    ext key
    simp only [approverSet, approversAfter, Finset.mem_erase, Finset.mem_insert,
      Finset.mem_singleton]
    grind
  | removeSecond hne hother heq =>
    refine ⟨fun hsame => hsame, ?_⟩
    ext key
    simp only [approverSet, approversAfter, Finset.mem_erase, Finset.mem_insert,
      Finset.mem_singleton]
    grind

theorem GovernanceStep.refines_approvers {g g' : Governance} (hdistinct : ApproversDistinct g)
    (h : GovernanceStep g action g')
    : ApproversDistinct g' ∧ approverSet g' = approversAfter (approverSet g) action := by
  cases h with
  | plain hplain =>
    rw [approversAfter_eq hplain]
    exact ⟨hdistinct, rfl⟩
  | propose => exact ⟨hdistinct, rfl⟩
  | accept => exact ⟨hdistinct, rfl⟩
  | close => exact ⟨hdistinct, rfl⟩
  | admins h => cases h <;> exact ⟨hdistinct, rfl⟩
  | approvers h => exact ApproverStep.refines hdistinct h
  | start => exact ⟨fun _ => rfl, rfl⟩

theorem run_approvers (hdistinct : ApproversDistinct d.governance) (h : d.run actions = .ok d')
    : ApproversDistinct d'.governance ∧
      approverSet d'.governance
        = (actions.map Prod.snd).foldl approversAfter (approverSet d.governance) := by
  apply Run.run_history (fun history d' => ApproversDistinct d'.governance ∧
    approverSet d'.governance
      = (history.map Prod.snd).foldl approversAfter (approverSet d.governance)) ⟨hdistinct, rfl⟩ _ h
  rintro history d₁ d₂ ⟨clock, action⟩ ⟨hdistinct₁, hset₁⟩ hstep
  rcases (perform_governance hstep).refines_approvers hdistinct₁ with ⟨hdistinct₂, hset₂⟩
  rw [List.map_append, List.foldl_append, ← hset₁]
  exact ⟨hdistinct₂, hset₂⟩

structure Chain where
  programId : PubkeyBytes
  address : Pubkey → PubkeyBytes
  address_default : address .default = .default

def approval (d : Deployment) (chain : Chain) (clock : Clock) (user : Signer) (tx : Transaction)
    (message : Option ApprovalMessage) : Option (Result Unit) :=
  message.map (verifyApprovalMessageGeneric clock chain.programId (chain.address user.key)
    (chain.address d.governance.approver1) (chain.address d.governance.approver2) (some tx))

/--
The offer, the user and the approval of `take_offer` and `take_offer_v2`. The other purchases carry
no message and none is asked of them, even if the offer needs approval.
-/
def approvedPurchase : Action → Option (Pubkey × Signer × Option (Result Unit))
  | .takeOffer args approvalMessage =>
    some (.offer args.tokenInMint args.tokenOutMint, args.user, approvalMessage)
  | .instruction (.takeOfferV2 args approvalMessage) =>
    some (.offer args.tokenInMint args.tokenOutMint, args.user, approvalMessage)
  | _ => none

theorem perform_approved {offerKey : Pubkey} {user : Signer} {offer : Offer}
    {approvalMessage : Option (Result Unit)}
    (haction : approvedPurchase action = some (offerKey, user, approvalMessage))
    (hoffer : d.world.offers offerKey = some offer) (hneeds : offer.needsApproval = true)
    (h : d.perform clock action = .ok d') : approvalMessage = some (.ok ()) := by
  unfold approvedPurchase at haction
  split at haction
  . next args _ =>
    cases haction
    simp only [perform, bind_eq_ok] at h
    rcases h with ⟨_, _, h⟩
    rcases inWorld_inv h with ⟨w', hw', _⟩
    rcases takeOffer_inv hw' with ⟨_, _, _, _, _, _, hpurchase, happroval, _⟩
    cases hoffer.symm.trans hpurchase.tradesAt.load
    exact verifyOfferApproval_inv hneeds happroval
  . next args _ =>
    cases haction
    rcases takeOfferV2_inv (perform_instruction_inv h) with
      ⟨_, _, _, _, _, _, _, htrades, _, _, _, _, happroval, _⟩
    cases hoffer.symm.trans htrades.load
    exact verifyOfferApproval_inv hneeds happroval
  . cases haction

theorem run_approved_purchase {d₁ : Deployment} {offerKey : Pubkey} {user : Signer} {offer : Offer}
    {chain : Chain} {tx : Transaction} {message : Option ApprovalMessage}
    {verifies : PubkeyBytes → Bytes → Bytes → Prop} (hdistinct : ApproversDistinct d.governance)
    (hrun : d.run actions = .ok d₁)
    (haction : approvedPurchase action
      = some (offerKey, user, d₁.approval chain clock user tx message))
    (hoffer : d₁.world.offers offerKey = some offer) (hneeds : offer.needsApproval = true)
    (hnative : tx.NativeVerified verifies) (h : d₁.perform clock action = .ok d')
    : ∃ (msg : ApprovalMessage) (approver : Pubkey) (signature : Bytes),
        message = some msg ∧
        approver ∈ (actions.map Prod.snd).foldl approversAfter (approverSet d.governance) ∧
        verifies (chain.address approver) msg.serialize signature ∧
        msg.programId = chain.programId ∧ msg.userPubkey = chain.address user.key ∧
        clock.time ≤ msg.expiryUnix.toNat := by
  have happroved := perform_approved haction hoffer hneeds h
  rw [approval, Option.map_eq_some_iff] at happroved
  rcases happroved with ⟨msg, hmessage, hverified⟩
  rcases verifyApprovalMessageGeneric_signed hnative hverified with
    ⟨key, signature, ⟨hset, hlisted⟩, hsigned⟩
  rw [verifyApprovalMessageGeneric_iff] at hverified
  rcases hverified with ⟨_, hprogram, huser, hexpiry⟩
  have happrover : ∃ approver ∈ approverSet d₁.governance, chain.address approver = key := by
    rcases hlisted with rfl | rfl
    . refine ⟨d₁.governance.approver1, ?_, rfl⟩
      simp only [approverSet, Finset.mem_erase, Finset.mem_insert, true_or, and_true]
      rintro heq
      rw [heq, chain.address_default] at hset
      exact hset rfl
    . refine ⟨d₁.governance.approver2, ?_, rfl⟩
      simp only [approverSet, Finset.mem_erase, Finset.mem_insert, Finset.mem_singleton, or_true,
        and_true]
      rintro heq
      rw [heq, chain.address_default] at hset
      exact hset rfl
  rcases happrover with ⟨approver, hmem, rfl⟩
  rw [(run_approvers hdistinct hrun).2] at hmem
  exact ⟨msg, approver, signature, hmessage, hmem, hsigned, hprogram, huser, hexpiry⟩

end Approvers

end Deployment

namespace Sample

def approverKey : Pubkey := .external 77

def chain : Deployment.Chain where
  programId := approval.programId
  address := fun key =>
    if key = approverKey then approver
    else if key = user.key then approval.userPubkey
    else .default
  address_default := rfl

def approvedLaunch : List (Clock × Action) := [
  (⟨1000, 0⟩, .instruction (.makeOffer ⟨boss, usdc, onyc, 0, true, false⟩)),
  (⟨1000, 0⟩, .instruction (.vectorCall ⟨boss, usdc, onyc,
    .add ⟨none, 1000, 1000000000, 36500, 86400⟩⟩)),
  (⟨1000, 0⟩, .addApprover boss approverKey)
]

def approvedArgs : TakeOfferV1Args := ⟨user, usdc, onyc, 50000000⟩

end Sample

open Sample in
theorem run_approved_purchase_once
    : ∃ (d₁ d' : Deployment),
        deployment.run approvedLaunch = .ok d₁ ∧
        d₁.perform ⟨1999, 0⟩ (.takeOffer approvedArgs
          (d₁.approval chain ⟨1999, 0⟩ user approvalTransaction (some approval))) = .ok d' ∧
        ∃ (key : Pubkey) (signature : Bytes),
          key ∈ ({approverKey} : Finset Pubkey) ∧
          approvalVerifies (chain.address key) approval.serialize signature := by
  have hview : ((deployment.run approvedLaunch).toOption.bind fun d₁ =>
      (d₁.perform ⟨1999, 0⟩ (.takeOffer approvedArgs (d₁.approval chain ⟨1999, 0⟩ user
        approvalTransaction (some approval)))).toOption.bind fun _ =>
          some ((d₁.world.offers offer).map Offer.needsApproval)) = some (some true) := by
    decide +kernel
  rcases exists_ok_of_view hview with ⟨d₁, hrun, hview⟩
  rcases exists_ok_of_view hview with ⟨d', hpurchase, hfacts⟩
  rw [Option.some.injEq, Option.map_eq_some_iff] at hfacts
  rcases hfacts with ⟨approved, hoffer, hneeds⟩
  rcases Deployment.run_approved_purchase (fun _ => rfl) hrun rfl hoffer hneeds
    approvalTransaction_nativeVerified hpurchase with
    ⟨msg, key, signature, hmessage, hmem, hsigned, _⟩
  cases hmessage
  have hset : (approvedLaunch.map Prod.snd).foldl Deployment.approversAfter
      (Deployment.approverSet deployment.governance) = {approverKey} := by decide +kernel
  rw [hset] at hmem
  exact ⟨d₁, d', hrun, hpurchase, key, signature, hmem, hsigned⟩

end OnreApp
