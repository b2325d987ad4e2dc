import OnreApp.Action.Custody

/-!
The ledger has one account for each owner and mint, the associated one. The circulating supply is
what the owners that are not excluded hold, as long as all of the supply is in associated token
accounts.
-/

namespace OnreApp

open Checked TokenLedger

open scoped BigOperators

variable {clock : Clock} {d d' : Deployment} {action : Action} {actions : List (Clock × Action)}

namespace Sample

def exclusion : List (Clock × Action) := market ++ [
  (⟨1200, 0⟩, .depositReserveVault user 5000000000),
  (⟨1200, 0⟩, .setCirculatingSupplyExcludedAccounts boss
    ((Vector.replicate maxCirculatingSupplyExcludedAccounts .default).set 3 .reserveVaultAuthority
      (by decide)))
]

end Sample

section Owners

variable {owners : Vector Pubkey maxCirculatingSupplyExcludedAccounts}

theorem activeOwners_nodup (h : validateUniqueNonDefaultOwners owners = .ok ())
    : (activeOwners owners).Nodup := by
  simp only [validateUniqueNonDefaultOwners, require_eq_ok] at h
  unfold activeOwners List.Nodup
  rw [List.pairwise_filter, List.pairwise_iff_getElem]
  intro j i hj hi hlt _ hset heq
  rw [Vector.length_toList] at hj hi
  rw [decide_eq_true_eq] at hset
  exact h ⟨i, hi⟩ ⟨j, hj⟩ hset hlt heq

theorem addExcludedBalances_inv {ledger : Ledger} {onycMint : Pubkey} {amount total : Nat}
    {pairs : List (Pubkey × TokenAccountKey)}
    (h : addExcludedBalances ledger onycMint amount pairs = .ok total)
    : total
        =
      amount + ((pairs.map Prod.fst).map fun owner => ledger.balance owner onycMint).sum := by
  induction pairs generalizing amount with
  | nil =>
    cases h
    rfl
  | cons pair rest ih =>
    rcases pair with ⟨owner, account⟩
    simp only [addExcludedBalances, bind_eq_ok, require_eq_ok, okOr_eq_ok, checkedAdd_eq_some] at h
    rcases h with ⟨_, _, _, ⟨_, rfl⟩, h⟩
    rw [ih h]
    simp only [List.map_cons, List.sum_cons]
    omega

end Owners

namespace Deployment

def UniqueExcluded (d : Deployment) : Prop :=
  ∀ owners ∈ d.excludedAccounts, (activeOwners owners).Nodup

theorem perform_uniqueExcluded (hunique : d.UniqueExcluded) (h : d.perform clock action = .ok d')
    : d'.UniqueExcluded := by
  rcases perform_inv h with ⟨_, heffect⟩ | ⟨_, _⟩
  case inr => exact hunique
  cases heffect with
  | @excludedAccounts _ owners _ hvalid =>
    intro owners' howners
    cases howners
    exact activeOwners_nodup hvalid
  | _ => exact hunique

theorem run_uniqueExcluded (hunique : d.UniqueExcluded) (h : d.run actions = .ok d')
    : d'.UniqueExcluded := by
  apply Run.run_inv UniqueExcluded (fun _ => True) _ (fun _ _ => trivial) hunique h
  intro d₁ d₂ call _ hunique₁ hstep
  exact perform_uniqueExcluded hunique₁ hstep

theorem updateExcludedBalance_inv {signer : Signer} {accounts : List TokenAccountKey}
    (h : d.perform clock (.updateCirculatingSupplyExcludedBalance signer accounts) = .ok d')
    : ∃ (mint : MintAccount) (owners : Vector Pubkey maxCirculatingSupplyExcludedAccounts),
        d.world.loadMint d.world.state.onycMint = .ok mint ∧ d.excludedAccounts = some owners ∧
        d' = { d with
          world := { d.world with
            circulatingSupplyExcludedBalance := some
              ((activeOwners owners).map fun owner =>
                d.world.ledger.balance owner d.world.state.onycMint).sum
          } } := by
  simp only [perform, act, updateCirculatingSupplyExcludedBalance, bind_eq_ok, require_eq_ok,
    StateResult.of_eq_ok, World.load_eq_ok, pure_eq_ok] at h
  rcases h with ⟨_, _, mint, hmint, owners, howners, _, _, _, hlength, amount, hamount, rfl⟩
  refine ⟨mint, owners, hmint, howners, ?_⟩
  have htotal := addExcludedBalances_inv hamount
  rw [List.map_fst_zip (Nat.le_of_eq hlength.symm), (World.loadMint_inv hmint).1,
    Nat.zero_add] at htotal
  rw [htotal]

theorem run_circulatingSupply {d₁ d₂ : Deployment} {signer : Signer}
    {accounts : List TokenAccountKey} (hunique : d.UniqueExcluded)
    (hbacked : ∀ (m : Pubkey), TokenLedger.Backed d.world.ledger m) (hrun : d.run actions = .ok d₁)
    (hupdate : d₁.perform clock (.updateCirculatingSupplyExcludedBalance signer accounts) = .ok d₂)
    : ∃ (owners : Vector Pubkey maxCirculatingSupplyExcludedAccounts) (holders : Finset Pubkey),
        d₂.excludedAccounts = some owners ∧
        (∀ k ∉ holders, d₂.world.ledger.balance k d₂.world.state.onycMint = 0) ∧
        getCirculatingSupplyV2 d₂.world
          =
        .ok (∑ k ∈ holders with k ∉ activeOwners owners,
          d₂.world.ledger.balance k d₂.world.state.onycMint) := by
  rcases updateExcludedBalance_inv hupdate with ⟨mint, owners, hmint, howners, rfl⟩
  have hnodup := run_uniqueExcluded hunique hrun owners howners
  rcases (run_backed (hbacked d₁.world.state.onycMint) hrun).sum_others
    (activeOwners owners).toFinset with ⟨holders, hzero, hsum⟩
  rw [List.sum_toFinset _ hnodup] at hsum
  simp only [List.mem_toFinset] at hsum
  refine ⟨owners, holders, howners, hzero, ?_⟩
  rcases World.loadMint_inv hmint with ⟨_, hsupply⟩
  refine bind_eq_ok.mpr ⟨mint, hmint, ?_⟩
  simp only [calculateCirculatingSupply, loadCirculatingSupplyExcludedBalanceAmount, okOr_eq_ok,
    checkedSub_eq_some, Option.getD_some, hsupply]
  omega

theorem run_circulatingSupply_reserve
    : ∃ (d₁ d₂ : Deployment) (owners : Vector Pubkey maxCirculatingSupplyExcludedAccounts)
        (holders : Finset Pubkey),
        Sample.deployment.run Sample.exclusion = .ok d₁ ∧
        d₁.perform ⟨1300, 0⟩ (.updateCirculatingSupplyExcludedBalance Sample.user
          [⟨.reserveVaultAuthority, Sample.onyc⟩]) = .ok d₂ ∧
        d₂.excludedAccounts = some owners ∧
        getCirculatingSupplyV2 d₂.world
          =
        .ok (∑ k ∈ holders with k ∉ activeOwners owners,
          d₂.world.ledger.balance k d₂.world.state.onycMint) := by
  have hview : ((Sample.deployment.run Sample.exclusion).toOption.bind fun d₁ =>
      (d₁.perform ⟨1300, 0⟩ (.updateCirculatingSupplyExcludedBalance Sample.user
        [⟨.reserveVaultAuthority, Sample.onyc⟩])).toOption.bind fun d₂ =>
          d₂.world.circulatingSupplyExcludedBalance) = some 5000000000 := by decide +kernel
  rcases exists_ok_of_view hview with ⟨d₁, hrun, hview⟩
  rcases exists_ok_of_view hview with ⟨d₂, hupdate, _⟩
  have hunique : Sample.deployment.UniqueExcluded := by
    intro owners howners
    cases howners
  rcases run_circulatingSupply hunique Sample.deployment_backed hrun hupdate with
    ⟨owners, holders, howners, _, hsupply⟩
  exact ⟨d₁, d₂, owners, holders, hrun, hupdate, howners, hsupply⟩

end Deployment

end OnreApp
