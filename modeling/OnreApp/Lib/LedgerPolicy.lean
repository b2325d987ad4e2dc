import OnreApp.Lib.LedgerTrace
import Mathlib.Algebra.BigOperators.Group.Finset.Piecewise
import Mathlib.Algebra.Order.BigOperators.Group.Finset

/-!
Policies for the operations on a ledger. A step follows a policy when it performs only operations
that the policy allows.
-/

namespace TokenLedger

open scoped BigOperators

variable {κ μ : Type} [DecidableEq κ] [DecidableEq μ] {cap : Nat} {l l₁ l' : Ledger κ μ}
  {P Q : Op κ μ → Prop} {k : κ} {m : μ}

def Follows (cap : Nat) (P : Op κ μ → Prop) (l l' : Ledger κ μ) : Prop :=
  ∃ (ops : List (Op κ μ)), Performs cap l ops l' ∧ ∀ op ∈ ops, P op

namespace Follows

theorem refl (l : Ledger κ μ) : Follows cap P l l := ⟨[], .nil l, by simp⟩

theorem trans (h : Follows cap P l l₁) (h' : Follows cap P l₁ l') : Follows cap P l l' := by
  rcases h with ⟨ops, hperforms, hops⟩
  rcases h' with ⟨ops', hperforms', hops'⟩
  refine ⟨ops ++ ops', hperforms.append hperforms', ?_⟩
  intro op hop
  rcases List.mem_append.mp hop with hop | hop
  . exact hops op hop
  . exact hops' op hop

theorem mono (h : Follows cap P l l') (hPQ : ∀ (op : Op κ μ), P op → Q op)
    : Follows cap Q l l' := by
  rcases h with ⟨ops, hperforms, hops⟩
  exact ⟨ops, hperforms, fun op hop => hPQ op (hops op hop)⟩

theorem balance_le (h : Follows cap P l l') (hP : ∀ (op : Op κ μ), P op → op.debited k m = 0)
    : l.balance k m ≤ l'.balance k m := by
  rcases h with ⟨ops, hperforms, hops⟩
  have hbalance := hperforms.balance k m
  have hzero : debited k m ops = 0 := by
    unfold debited
    rw [List.sum_eq_zero_iff_forall_eq_nat]
    intro n hn
    rcases List.mem_map.mp hn with ⟨op, hop, rfl⟩
    exact hP op (hops op hop)
  omega

theorem supply_eq (h : Follows cap P l l')
    (hP : ∀ (op : Op κ μ), P op → op.minted m = 0 ∧ op.burned m = 0)
    : l'.supply m = l.supply m := by
  rcases h with ⟨ops, hperforms, hops⟩
  have hsupply := hperforms.supply m
  have hminted : minted m ops = 0 := by
    unfold minted
    rw [List.sum_eq_zero_iff_forall_eq_nat]
    intro n hn
    rcases List.mem_map.mp hn with ⟨op, hop, rfl⟩
    exact (hP op (hops op hop)).1
  have hburned : burned m ops = 0 := by
    unfold burned
    rw [List.sum_eq_zero_iff_forall_eq_nat]
    intro n hn
    rcases List.mem_map.mp hn with ⟨op, hop, rfl⟩
    exact (hP op (hops op hop)).2
  omega

end Follows

section Backed

def Op.accounts : Op κ μ → Finset κ
  | .transfer _ source destination _ => {source, destination}
  | .mintTo _ destination _ _ => {destination}
  | .burn _ source _ => {source}

/-- Finitely many owners hold the whole supply. -/
def Backed (l : Ledger κ μ) (m : μ) : Prop :=
  ∃ (owners : Finset κ), (∀ k ∉ owners, l.balance k m = 0) ∧
    ∑ k ∈ owners, l.balance k m = l.supply m

omit [DecidableEq μ] in
theorem Backed.sum_le (h : Backed l m) (owners : Finset κ)
    : ∑ k ∈ owners, l.balance k m ≤ l.supply m := by
  rcases h with ⟨all, hzero, hsum⟩
  calc
    ∑ k ∈ owners, l.balance k m ≤ ∑ k ∈ owners ∪ all, l.balance k m :=
      Finset.sum_le_sum_of_subset Finset.subset_union_left
    _ = ∑ k ∈ all, l.balance k m :=
      (Finset.sum_subset Finset.subset_union_right fun k _ hk => hzero k hk).symm
    _ = l.supply m := hsum

omit [DecidableEq μ] in
theorem Backed.sum_others (h : Backed l m) (excluded : Finset κ)
    : ∃ (holders : Finset κ), (∀ k ∉ holders, l.balance k m = 0) ∧
        ∑ k ∈ excluded, l.balance k m + ∑ k ∈ holders with k ∉ excluded, l.balance k m
          =
        l.supply m := by
  rcases h with ⟨all, hzero, hsum⟩
  refine ⟨all, hzero, ?_⟩
  have hexcluded : ∑ k ∈ all with k ∈ excluded, l.balance k m = ∑ k ∈ excluded, l.balance k m := by
    apply Finset.sum_subset
    . intro k hk
      exact (Finset.mem_filter.mp hk).2
    . intro k hk hnot
      apply hzero
      intro hall
      exact hnot (Finset.mem_filter.mpr ⟨hall, hk⟩)
  rw [← hexcluded, Finset.sum_filter_add_sum_filter_not, hsum]

theorem sum_endpoint {owners : Finset κ} {account : κ} {mint : μ} (h : account ∈ owners) (n : Nat)
    : ∑ k ∈ owners, (if k = account ∧ m = mint then n else 0) = if m = mint then n else 0 := by
  simp [ite_and, h]

theorem Op.sum_credited (op : Op κ μ) {owners : Finset κ} (h : op.accounts ⊆ owners)
    : ∑ k ∈ owners, op.credited k m + op.burned m
        =
      ∑ k ∈ owners, op.debited k m + op.minted m := by
  cases op with
  | transfer mint source destination n =>
    have hsource : source ∈ owners := h (by simp [accounts])
    have hdestination : destination ∈ owners := h (by simp [accounts])
    simp only [credited, debited, burned, minted, sum_endpoint hsource, sum_endpoint hdestination]
  | mintTo mint destination n supplyAfter =>
    have hdestination : destination ∈ owners := h (by simp [accounts])
    simp [credited, debited, burned, minted, sum_endpoint hdestination]
  | burn mint source n =>
    have hsource : source ∈ owners := h (by simp [accounts])
    simp [credited, debited, burned, minted, sum_endpoint hsource]

theorem sum_credited {ops : List (Op κ μ)} {owners : Finset κ}
    (h : ∀ op ∈ ops, op.accounts ⊆ owners)
    : ∑ k ∈ owners, credited k m ops + burned m ops
        =
      ∑ k ∈ owners, debited k m ops + minted m ops := by
  induction ops with
  | nil => simp
  | cons op ops ih =>
    have hop := op.sum_credited (m := m) (h op List.mem_cons_self)
    have hops := ih fun op' hop' => h op' (List.mem_cons_of_mem op hop')
    simp only [credited_cons, debited_cons, burned_cons, minted_cons, Finset.sum_add_distrib]
    omega

theorem credited_eq_zero {ops : List (Op κ μ)} (h : ∀ op ∈ ops, k ∉ op.accounts)
    : credited k m ops = 0 := by
  unfold credited
  rw [List.sum_eq_zero_iff_forall_eq_nat]
  intro n hn
  rcases List.mem_map.mp hn with ⟨op, hop, rfl⟩
  have hk := h op hop
  cases op with
  | transfer => simp_all [Op.accounts, Op.credited]
  | mintTo => simp_all [Op.accounts, Op.credited]
  | burn => rfl

theorem Backed.performs {ops : List (Op κ μ)} (h : Backed l m) (hperforms : Performs cap l ops l')
    : Backed l' m := by
  rcases h with ⟨owners, hzero, hsum⟩
  -- the owners of before, and everybody an operation names
  let all := owners ∪ ops.toFinset.biUnion Op.accounts
  have haccounts : ∀ op ∈ ops, op.accounts ⊆ all := by
    intro op hop k hk
    apply Finset.mem_union_right
    exact Finset.mem_biUnion.mpr ⟨op, List.mem_toFinset.mpr hop, hk⟩
  have hbefore : ∑ k ∈ all, l.balance k m = l.supply m := by
    rw [← hsum]
    exact (Finset.sum_subset Finset.subset_union_left fun k _ hk => hzero k hk).symm
  have hmoved : ∑ k ∈ all, l'.balance k m + ∑ k ∈ all, debited k m ops
      = ∑ k ∈ all, l.balance k m + ∑ k ∈ all, credited k m ops := by
    rw [← Finset.sum_add_distrib, ← Finset.sum_add_distrib]
    exact Finset.sum_congr rfl fun k _ => hperforms.balance k m
  have hnet := sum_credited (m := m) haccounts
  have hsupply := hperforms.supply m
  refine ⟨all, ?_, by omega⟩
  intro k hk
  have hbalance := hperforms.balance k m
  rw [credited_eq_zero fun op hop hmem => hk (haccounts op hop hmem)] at hbalance
  have hnone := hzero k fun hmem => hk (Finset.mem_union_left _ hmem)
  omega

theorem Backed.transfer_ok {source destination : κ} {n : Nat} (h : Backed l m)
    (hcap : l.supply m ≤ cap) (hle : n ≤ l.balance source m)
    : ∃ (l' : Ledger κ μ), l.transfer cap m source destination n = .ok l' := by
  unfold Ledger.transfer
  rw [if_neg (Nat.not_lt.mpr hle)]
  refine ⟨_, if_pos ?_⟩
  simp only [Ledger.setBalance, and_true]
  by_cases heq : destination = source
  . have hone := h.sum_le {source}
    rw [Finset.sum_singleton] at hone
    rw [if_pos heq]
    omega
  . have htwo := h.sum_le {source, destination}
    rw [Finset.sum_pair (Ne.symm heq)] at htwo
    rw [if_neg heq]
    omega

theorem Performs.supply_le {ops : List (Op κ μ)} (h : Performs cap l ops l')
    (hle : l.supply m ≤ cap) : l'.supply m ≤ cap := by
  induction h with
  | nil => exact hle
  | transfer hop _ ih =>
    apply ih
    rw [Ledger.transfer_supply hop]
    exact hle
  | @mintTo l l₁ l' mint destination n _ hop _ ih =>
    apply ih
    rw [Ledger.mintTo_supply hop m]
    unfold Ledger.mintTo at hop
    dsimp only at hop
    split at hop
    . next hcap =>
      split
      . next heq =>
        subst heq
        exact hcap.2
      . exact hle
    . cases hop
  | burn hop _ ih =>
    have hstep := Ledger.burn_supply hop m
    exact ih (by omega)

theorem Performs.supply_le_of_capped {ops : List (Op κ μ)} {bound : Nat}
    (h : Performs cap l ops l') (hle : l.supply m ≤ bound)
    (hmints : ∀ (destination : κ) (n supplyAfter : Nat),
      .mintTo m destination n supplyAfter ∈ ops → supplyAfter ≤ bound)
    : l'.supply m ≤ bound := by
  induction h with
  | nil => exact hle
  | transfer hop _ ih =>
    apply ih
    . rw [Ledger.transfer_supply hop]
      exact hle
    . intro destination n supplyAfter hmem
      exact hmints destination n supplyAfter (List.mem_cons_of_mem _ hmem)
  | @mintTo l l₁ l' mint destination n _ hop _ ih =>
    apply ih
    . rw [Ledger.mintTo_supply hop m]
      split
      . next heq =>
        subst heq
        exact hmints destination n _ List.mem_cons_self
      . exact hle
    . intro destination' n' supplyAfter hmem
      exact hmints destination' n' supplyAfter (List.mem_cons_of_mem _ hmem)
  | burn hop _ ih =>
    have hstep := Ledger.burn_supply hop m
    apply ih
    . omega
    . intro destination n supplyAfter hmem
      exact hmints destination n supplyAfter (List.mem_cons_of_mem _ hmem)

theorem Backed.follows (h : Backed l m) (hfollows : Follows cap P l l') : Backed l' m := by
  rcases hfollows with ⟨_, hperforms, _⟩
  exact h.performs hperforms

end Backed

theorem Performs.balance_eq {ops₁ ops₂ : List (Op κ μ)} {l₂ : Ledger κ μ}
    (h₁ : Performs cap l ops₁ l₁) (h₂ : Performs cap l ops₂ l₂)
    (hflow : debited k m ops₁ + credited k m ops₂ = debited k m ops₂ + credited k m ops₁)
    : l₂.balance k m = l₁.balance k m := by
  have hbalance₁ := h₁.balance k m
  have hbalance₂ := h₂.balance k m
  omega

end TokenLedger
