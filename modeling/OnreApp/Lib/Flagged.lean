import OnreApp.Lib.Checked
import Mathlib.Logic.Function.Iterate

/-!
Saturating arithmetic with a flag. A computation written in `Flagged` has the value of the plain one
and, beside it, whether some operation on the way did not fit.
-/

structure Flagged (α : Type) where
  value : α
  saturated : Bool

namespace Flagged

open Checked

instance : Monad Flagged where
  pure a := ⟨a, false⟩
  bind x f := ⟨(f x.value).value, x.saturated || (f x.value).saturated⟩

def add (max a b : Nat) : Flagged Nat := ⟨saturatingAdd max a b, max < a + b⟩

def sub (a b : Nat) : Flagged Nat := ⟨a - b, a < b⟩

def mul (max a b : Nat) : Flagged Nat := ⟨saturatingMul max a b, max < a * b⟩

def addInt (lo hi a b : Int) : Flagged Int :=
  ⟨saturatingAddInt lo hi a b, a + b < lo ∨ hi < a + b⟩

def mulInt (lo hi a b : Int) : Flagged Int :=
  ⟨saturatingMulInt lo hi a b, a * b < lo ∨ hi < a * b⟩

def iterate {α : Type} (f : α → Flagged α) : Nat → α → Flagged α
  | 0, a => pure a
  | n + 1, a => do
    let b ← iterate f n a
    f b

variable {α β : Type}

@[simp]
theorem value_pure (a : α) : (pure a : Flagged α).value = a := rfl

@[simp]
theorem saturated_pure (a : α) : (pure a : Flagged α).saturated = false := rfl

@[simp]
theorem value_bind (x : Flagged α) (f : α → Flagged β) : (x >>= f).value = (f x.value).value := rfl

@[simp]
theorem saturated_bind (x : Flagged α) (f : α → Flagged β)
    : (x >>= f).saturated = (x.saturated || (f x.value).saturated) := rfl

@[simp]
theorem value_add (max a b : Nat) : (add max a b).value = saturatingAdd max a b := rfl

@[simp]
theorem value_sub (a b : Nat) : (sub a b).value = a - b := rfl

@[simp]
theorem value_mul (max a b : Nat) : (mul max a b).value = saturatingMul max a b := rfl

@[simp]
theorem value_addInt (lo hi a b : Int)
    : (addInt lo hi a b).value = saturatingAddInt lo hi a b := rfl

@[simp]
theorem value_mulInt (lo hi a b : Int)
    : (mulInt lo hi a b).value = saturatingMulInt lo hi a b := rfl

theorem saturated_add_eq_false {max a b : Nat} (h : a + b ≤ max)
    : (add max a b).saturated = false := by
  apply decide_eq_false
  omega

theorem saturated_sub_eq_false {a b : Nat} (h : b ≤ a) : (sub a b).saturated = false := by
  apply decide_eq_false
  omega

theorem saturated_mul_eq_false {max a b : Nat} (h : a * b ≤ max)
    : (mul max a b).saturated = false := by
  apply decide_eq_false
  omega

theorem saturated_addInt_eq_false {lo hi a b : Int} (h : lo ≤ a + b ∧ a + b ≤ hi)
    : (addInt lo hi a b).saturated = false := by
  apply decide_eq_false
  omega

theorem saturated_mulInt_eq_false {lo hi a b : Int} (h : lo ≤ a * b ∧ a * b ≤ hi)
    : (mulInt lo hi a b).saturated = false := by
  apply decide_eq_false
  omega

theorem value_iterate {f : α → Flagged α} {g : α → α} (h : ∀ a, (f a).value = g a) (n : Nat) (a : α)
    : (iterate f n a).value = g^[n] a := by
  induction n with
  | zero => rfl
  | succ n ih => rw [iterate, value_bind, h, ih, Function.iterate_succ_apply']

theorem value_foldlM {f : α → β → Flagged α} {g : α → β → α} (h : ∀ a b, (f a b).value = g a b)
    (l : List β) (a : α) : (l.foldlM f a).value = l.foldl g a := by
  induction l generalizing a with
  | nil => rfl
  | cons b l ih => rw [List.foldlM_cons, value_bind, ih, h, List.foldl_cons]

theorem exact_foldlM {f : α → β → Flagged α} {P : Nat → α → Prop} {l : List β} {a : α} (k : Nat)
    (hstep : ∀ i a b, i < k + l.length → P i a →
      (f a b).saturated = false ∧ P (i + 1) (f a b).value)
    (ha : P k a)
    : (l.foldlM f a).saturated = false ∧ P (k + l.length) (l.foldlM f a).value := by
  induction l generalizing a k with
  | nil => exact ⟨rfl, ha⟩
  | cons b l ih =>
    rw [List.length_cons] at hstep ⊢
    rcases hstep k a b (by omega) ha with ⟨hexact, hnext⟩
    have hrest := ih (k + 1) (by
      intro i a b hi
      apply hstep
      omega) hnext
    rw [List.foldlM_cons, saturated_bind, value_bind, hexact]
    rw [Nat.add_right_comm, Nat.add_assoc] at hrest
    exact hrest

theorem exact_bind {x : Flagged α} {f : α → Flagged β} (h : (x >>= f).saturated = false)
    : x.saturated = false ∧ (f x.value).saturated = false := by
  rw [saturated_bind, Bool.or_eq_false_iff] at h
  exact h

theorem value_mul_of_exact {max a b : Nat} (h : (mul max a b).saturated = false)
    : (mul max a b).value = a * b := by
  have hfits := of_decide_eq_false h
  rw [value_mul]
  unfold saturatingMul
  omega

theorem value_add_of_exact {max a b : Nat} (h : (add max a b).saturated = false)
    : (add max a b).value = a + b := by
  have hfits := of_decide_eq_false h
  rw [value_add]
  unfold saturatingAdd
  omega

theorem value_foldlM_of_exact {f : α → β → Flagged α} {g : α → β → α}
    (hstep : ∀ a b, (f a b).saturated = false → (f a b).value = g a b) {l : List β} {a : α}
    (h : (l.foldlM f a).saturated = false) : (l.foldlM f a).value = l.foldl g a := by
  induction l generalizing a with
  | nil => rfl
  | cons b l ih =>
    rw [List.foldlM_cons] at h ⊢
    rcases exact_bind h with ⟨hhead, htail⟩
    rw [value_bind, ih htail, hstep a b hhead, List.foldl_cons]

end Flagged
