import OnreApp.Lib.Checked
import Mathlib.Logic.Function.Basic

/-!
A ledger of fungible tokens: one balance per owner and mint, one supply per mint, and the three
operations a token program offers. Every operation moves exactly the given amount or fails, and it
is recorded in the log (newest first).
-/

namespace TokenLedger

inductive Error where
  | insufficientFunds
  | overflow
  deriving DecidableEq, Repr

inductive Op (κ μ : Type) where
  | transfer (mint : μ) (source destination : κ) (amount : Nat)
  | mintTo (mint : μ) (destination : κ) (amount supplyAfter : Nat)
  | burn (mint : μ) (source : κ) (amount : Nat)
  deriving DecidableEq, Repr

structure Ledger (κ μ : Type) where
  balance : κ → μ → Nat
  supply : μ → Nat
  log : List (Op κ μ)

namespace Ledger

variable {κ μ : Type}

def empty : Ledger κ μ where
  balance := fun _ _ => 0
  supply := fun _ => 0
  log := []

def record (l : Ledger κ μ) (op : Op κ μ) : Ledger κ μ :=
  { l with log := op :: l.log }

@[simp]
theorem record_balance (l : Ledger κ μ) (op : Op κ μ) : (l.record op).balance = l.balance := rfl

@[simp]
theorem record_supply (l : Ledger κ μ) (op : Op κ μ) : (l.record op).supply = l.supply := rfl

variable [DecidableEq μ]

def setSupply (l : Ledger κ μ) (mint : μ) (amount : Nat) : Ledger κ μ :=
  { l with supply := fun m => if m = mint then amount else l.supply m }

@[simp]
theorem setSupply_balance (l : Ledger κ μ) (m : μ) (n : Nat) :
    (l.setSupply m n).balance = l.balance := rfl

variable [DecidableEq κ]

def setBalance (l : Ledger κ μ) (owner : κ) (mint : μ) (amount : Nat) : Ledger κ μ :=
  { l with
    balance := fun k m => if k = owner ∧ m = mint then amount else l.balance k m }

@[simp]
theorem setBalance_supply (l : Ledger κ μ) (k : κ) (m : μ) (n : Nat) :
    (l.setBalance k m n).supply = l.supply := rfl

/--
Move `amount` from `source` to `destination`; both amounts are bounded by `cap`. The destination is
read after the debit, so a transfer of an account to itself changes nothing.
-/
def transfer (cap : Nat) (l : Ledger κ μ) (mint : μ) (source destination : κ) (amount : Nat)
    : Except Error (Ledger κ μ) :=
  if l.balance source mint < amount then
    .error .insufficientFunds
  else
    let debited := l.setBalance source mint (l.balance source mint - amount)
    let credit := debited.balance destination mint + amount
    if credit ≤ cap then
      .ok ((debited.setBalance destination mint credit).record
        (.transfer mint source destination amount))
    else
      .error .overflow

def mintTo (cap : Nat) (l : Ledger κ μ) (mint : μ) (destination : κ) (amount : Nat)
    : Except Error (Ledger κ μ) :=
  let credit := l.balance destination mint + amount
  let supply := l.supply mint + amount
  if credit ≤ cap ∧ supply ≤ cap then
    .ok (((l.setBalance destination mint credit).setSupply mint supply).record
      (.mintTo mint destination amount supply))
  else
    .error .overflow

def burn (l : Ledger κ μ) (mint : μ) (source : κ) (amount : Nat)
    : Except Error (Ledger κ μ) :=
  if l.balance source mint < amount then
    .error .insufficientFunds
  else if l.supply mint < amount then
    .error .overflow
  else
    .ok (((l.setBalance source mint (l.balance source mint - amount)).setSupply mint
      (l.supply mint - amount)).record (.burn mint source amount))

variable {cap n : Nat} {l l' : Ledger κ μ} {mint : μ} {source destination : κ}

section Transfer

theorem transfer_inv (h : transfer cap l mint source destination n = .ok l')
    : n ≤ l.balance source mint ∧
      l' =
        let debited := l.setBalance source mint (l.balance source mint - n)
        (debited.setBalance destination mint (debited.balance destination mint + n)).record
          (.transfer mint source destination n) := by
  unfold transfer at h
  split at h
  . cases h
  . dsimp only at h
    split at h
    . cases h
      exact ⟨by omega, rfl⟩
    . cases h

theorem transfer_eq_insufficientFunds
    (h : transfer cap l mint source destination n = .error .insufficientFunds)
    : l.balance source mint < n := by
  unfold transfer at h
  split at h
  . next hlt => exact hlt
  . dsimp only at h
    split at h <;> cases h

theorem transfer_supply (h : transfer cap l mint source destination n = .ok l')
    : l'.supply = l.supply := by
  rw [(transfer_inv h).2]
  rfl

theorem transfer_log (h : transfer cap l mint source destination n = .ok l')
    : l'.log = .transfer mint source destination n :: l.log := by
  rw [(transfer_inv h).2]
  rfl

theorem transfer_balance (h : transfer cap l mint source destination n = .ok l')
    : ∀ (k : κ) (m : μ),
        l'.balance k m + (if k = source ∧ m = mint then n else 0)
          =
        l.balance k m + (if k = destination ∧ m = mint then n else 0) := by
  intro k m
  rcases transfer_inv h with ⟨hle, rfl⟩
  simp only [record_balance, setBalance]
  by_cases hs : k = source ∧ m = mint
  . rcases hs with ⟨rfl, rfl⟩
    by_cases hd : k = destination
    . subst hd
      simp only [and_self, ↓reduceIte]
      omega
    . simp only [hd, false_and, and_self, ↓reduceIte]
      omega
  . by_cases hd : k = destination ∧ m = mint
    . rcases hd with ⟨rfl, rfl⟩
      simp_all
    . simp [hs, hd]

end Transfer

section MintTo

theorem mintTo_inv (h : mintTo cap l mint destination n = .ok l')
    : l' =
        ((l.setBalance destination mint (l.balance destination mint + n)).setSupply mint
          (l.supply mint + n)).record (.mintTo mint destination n (l.supply mint + n)) := by
  unfold mintTo at h
  dsimp only at h
  split at h
  . cases h
    rfl
  . cases h

theorem mintTo_supply (h : mintTo cap l mint destination n = .ok l')
    : ∀ (m : μ), l'.supply m = l.supply m + (if m = mint then n else 0) := by
  intro m
  rw [mintTo_inv h]
  simp only [record_supply, setSupply, setBalance_supply]
  split <;> simp_all

theorem mintTo_balance (h : mintTo cap l mint destination n = .ok l')
    : ∀ (k : κ) (m : μ),
        l'.balance k m = l.balance k m + (if k = destination ∧ m = mint then n else 0) := by
  intro k m
  rw [mintTo_inv h]
  simp only [record_balance, setSupply_balance, setBalance]
  split
  . next heq =>
    rcases heq with ⟨rfl, rfl⟩
    rfl
  . rfl

theorem mintTo_log (h : mintTo cap l mint destination n = .ok l')
    : l'.log = .mintTo mint destination n (l.supply mint + n) :: l.log := by
  rw [mintTo_inv h]
  rfl

end MintTo

section Burn

theorem burn_inv (h : burn l mint source n = .ok l')
    : n ≤ l.balance source mint ∧ n ≤ l.supply mint ∧
      l' =
        ((l.setBalance source mint (l.balance source mint - n)).setSupply mint
          (l.supply mint - n)).record (.burn mint source n) := by
  unfold burn at h
  split at h
  . cases h
  . split at h
    . cases h
    . cases h
      exact ⟨by omega, by omega, rfl⟩

theorem burn_eq_insufficientFunds (h : burn l mint source n = .error .insufficientFunds)
    : l.balance source mint < n := by
  unfold burn at h
  split at h
  . next hlt => exact hlt
  . split at h <;> cases h

theorem burn_supply (h : burn l mint source n = .ok l')
    : ∀ (m : μ), l'.supply m + (if m = mint then n else 0) = l.supply m := by
  intro m
  rcases burn_inv h with ⟨_, hle, rfl⟩
  simp only [record_supply, setSupply, setBalance_supply]
  split
  . next heq =>
    subst heq
    omega
  . rfl

theorem burn_balance (h : burn l mint source n = .ok l')
    : ∀ (k : κ) (m : μ),
        l'.balance k m + (if k = source ∧ m = mint then n else 0) = l.balance k m := by
  intro k m
  rcases burn_inv h with ⟨hle, _, rfl⟩
  simp only [record_balance, setSupply_balance, setBalance]
  split
  . next heq =>
    rcases heq with ⟨rfl, rfl⟩
    omega
  . rfl

theorem burn_log (h : burn l mint source n = .ok l') : l'.log = .burn mint source n :: l.log := by
  rcases burn_inv h with ⟨_, _, rfl⟩
  rfl

end Burn

end Ledger

end TokenLedger
