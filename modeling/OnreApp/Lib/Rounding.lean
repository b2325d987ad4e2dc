import Mathlib.Tactic.Ring
import Mathlib.Algebra.Order.BigOperators.Group.List
import Mathlib.Algebra.Order.Floor.Defs
import Mathlib.Data.List.Forall2
import Mathlib.Data.Nat.Log

namespace Rounding

theorem div_le_div_of_cross {a b c d : Nat} (hb : 0 < b) (hd : 0 < d) (h : a * d ≤ c * b) :
    a / b ≤ c / d := by
  rw [Nat.le_div_iff_mul_le hd]
  apply Nat.le_of_mul_le_mul_right _ hb
  calc
    a / b * d * b = a / b * b * d := by ring
    _ ≤ a * d := Nat.mul_le_mul_right d (Nat.div_mul_le_self a b)
    _ ≤ c * b := h

theorem log2_le_log2 {a b : Nat} (ha : a ≠ 0) (h : a ≤ b) : a.log2 ≤ b.log2 := by
  rw [Nat.le_log2 (by omega)]
  apply Nat.le_trans (Nat.log2_self_le ha) h

theorem sum_div_le (l : List Nat) (k d : Nat) :
    (l.map fun a => a * k / d).sum ≤ l.sum * k / d := by
  induction l with
  | nil => simp
  | cons a l ih =>
    rw [List.map_cons, List.sum_cons, List.sum_cons]
    rw [Nat.add_mul]
    apply Nat.le_trans (Nat.add_le_add_left ih _)
    apply Nat.div_add_div_le_add_div

theorem add_div_le_succ (a b d : Nat) : (a + b) / d ≤ a / d + b / d + 1 := by
  rcases Nat.eq_zero_or_pos d with rfl | hd
  . simp
  . rw [Nat.add_div hd]
    split <;> omega

theorem discounted_add_le (a y c s t : Nat) (hy : 0 < y) :
    a * (s + t) / (y + c * (s + t)) ≤ a * s / (y + c * s) + a * t / (y + c * t) + 1 := by
  have hs : a * s / (y + c * (s + t)) ≤ a * s / (y + c * s) := by
    apply Nat.div_le_div_left _ (by omega)
    apply Nat.add_le_add_left
    apply Nat.mul_le_mul_left
    omega
  have ht : a * t / (y + c * (s + t)) ≤ a * t / (y + c * t) := by
    apply Nat.div_le_div_left _ (by omega)
    apply Nat.add_le_add_left
    apply Nat.mul_le_mul_left
    omega
  rw [Nat.mul_add]
  have := add_div_le_succ (a * s) (a * t) (y + c * (s + t))
  omega

theorem ceil_le_iff {a b c : Nat} (hb : 0 < b) : (a + (b - 1)) / b ≤ c ↔ a ≤ c * b := by
  rw [← Nat.lt_succ_iff]
  rw [Nat.div_lt_iff_lt_mul hb]
  rw [Nat.succ_mul]
  omega

theorem le_mul_div_iff_ceil_le {target supply price unit : Nat} (hprice : 0 < price)
    (hunit : 0 < unit) :
    target ≤ supply * price / unit ↔ (target * unit + (price - 1)) / price ≤ supply := by
  rw [ceil_le_iff hprice]
  rw [Nat.le_div_iff_mul_le hunit]

theorem ceil_add_le {d : Nat} (hd : 0 < d) (a b : Nat) :
    (a + b + (d - 1)) / d ≤ (a + (d - 1)) / d + (b + (d - 1)) / d := by
  rw [← Nat.lt_succ_iff]
  rw [Nat.div_lt_iff_lt_mul hd]
  have ha := Nat.lt_div_mul_add (a := a + (d - 1)) hd
  have hb := Nat.lt_div_mul_add (a := b + (d - 1)) hd
  rw [Nat.succ_mul, Nat.add_mul]
  omega

theorem ceil_sum_le (l : List Nat) (k : Nat) {d : Nat} (hd : 0 < d) :
    (l.sum * k + (d - 1)) / d ≤ (l.map fun a => (a * k + (d - 1)) / d).sum := by
  induction l with
  | nil =>
    simp only [List.sum_nil, Nat.zero_mul, Nat.zero_add, List.map_nil]
    rw [Nat.div_eq_of_lt (by omega)]
  | cons a l ih =>
    rw [List.map_cons, List.sum_cons, List.sum_cons]
    rw [Nat.add_mul]
    apply Nat.le_trans (ceil_add_le hd _ _)
    apply Nat.add_le_add_left ih _

section Exchange

/--
An exchange of `a` that keeps a fee of `rate / unit`, rounded up and at least `minimum`, and pays
the rest out at `num / den`, rounded down.
-/
structure Exchange (rate unit minimum num den : Nat) (a fee net out : Nat) : Prop where
  fee_eq : fee = max ((a * rate + (unit - 1)) / unit) minimum
  fee_add_net : fee + net = a
  out_eq : out = net * num / den

variable {ρ : Type} {fee net out : ρ → Nat} {rate unit minimum num den : Nat}
variable {amounts : List Nat} {results : List ρ}

theorem Exchange.fee_sum
    (h : List.Forall₂
      (fun a r => Exchange rate unit minimum num den a (fee r) (net r) (out r))
      amounts results) :
    (results.map fee).sum
      = (amounts.map fun a => max ((a * rate + (unit - 1)) / unit) minimum).sum := by
  induction h with
  | nil => rfl
  | cons hr _ ih =>
    rw [List.map_cons, List.map_cons, List.sum_cons, List.sum_cons]
    rw [hr.fee_eq, ih]

theorem Exchange.fee_sum_add_net_sum
    (h : List.Forall₂
      (fun a r => Exchange rate unit minimum num den a (fee r) (net r) (out r))
      amounts results) :
    (results.map fee).sum + (results.map net).sum = amounts.sum := by
  induction h with
  | nil => rfl
  | cons hr _ ih =>
    rw [List.map_cons, List.map_cons, List.sum_cons, List.sum_cons, List.sum_cons]
    have := hr.fee_add_net
    omega

theorem Exchange.out_sum_le
    (h : List.Forall₂
      (fun a r => Exchange rate unit minimum num den a (fee r) (net r) (out r))
      amounts results) :
    (results.map out).sum ≤ (results.map net).sum * num / den := by
  have hout : results.map out = (results.map net).map fun n => n * num / den := by
    induction h with
    | nil => rfl
    | cons hr _ ih =>
      rw [List.map_cons, List.map_cons, List.map_cons]
      rw [hr.out_eq, ih]
  rw [hout]
  apply sum_div_le

theorem max_ceil_sum_le (hunit : 0 < unit) (hne : amounts ≠ []) :
    max ((amounts.sum * rate + (unit - 1)) / unit) minimum
      ≤
    (amounts.map fun a => max ((a * rate + (unit - 1)) / unit) minimum).sum := by
  apply Nat.max_le.mpr
  constructor
  . apply Nat.le_trans (ceil_sum_le amounts rate hunit)
    apply List.sum_le_sum
    intro a _
    apply Nat.le_max_left
  . cases amounts with
    | nil => exact absurd rfl hne
    | cons a amounts =>
      rw [List.map_cons, List.sum_cons]
      apply Nat.le_trans (Nat.le_max_right _ _)
      apply Nat.le_add_right

theorem forall₂_of_sum_le {R S : Nat → ρ → Prop} {bound : Nat} (hsum : amounts.sum ≤ bound)
    (himp : ∀ a r, a ≤ bound → R a r → S a r) (h : List.Forall₂ R amounts results) :
    List.Forall₂ S amounts results := by
  have hbound : ∀ a ∈ amounts, a ≤ bound := by
    intro a ha
    apply Nat.le_trans _ hsum
    apply List.single_le_sum _ _ ha
    intros
    apply Nat.zero_le
  have hboth := (List.forall₂_and_left amounts results).mpr ⟨hbound, h⟩
  apply hboth.imp
  intro a r hr
  exact himp a r hr.1 hr.2

theorem Exchange.split {feeTotal netTotal outTotal : Nat} (hunit : 0 < unit) (hne : amounts ≠ [])
    (h : List.Forall₂
      (fun a r => Exchange rate unit minimum num den a (fee r) (net r) (out r))
      amounts results)
    (htotal : Exchange rate unit minimum num den amounts.sum feeTotal netTotal outTotal) :
    feeTotal ≤ (results.map fee).sum ∧ (results.map out).sum ≤ outTotal := by
  have hfee : feeTotal ≤ (results.map fee).sum := by
    rw [htotal.fee_eq, Exchange.fee_sum h]
    apply max_ceil_sum_le hunit hne
  refine ⟨hfee, ?_⟩
  rw [htotal.out_eq]
  apply Nat.le_trans (Exchange.out_sum_le h)
  apply Nat.div_le_div_right
  apply Nat.mul_le_mul_right
  have hparts := Exchange.fee_sum_add_net_sum h
  have hwhole := htotal.fee_add_net
  omega

end Exchange

end Rounding
