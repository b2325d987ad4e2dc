import Mathlib.Algebra.Order.Ring.Nat
import Mathlib.Tactic.Ring

/-!
The integers that are floating point numbers with 53 bits of precision, and the decimal text of such
a number: the shortest one that is rounded to the number, up to `10 ^ 21` without an exponent.
-/

namespace Double

def spacing (n : Nat) : Nat := 2 ^ (Nat.log2 n + 1 - 53)

/-- The number nearest to `n`, with an even last bit where two are equally near. -/
def nearest (n : Nat) : Nat :=
  let lower := n - n % spacing n
  let upper := lower + spacing n
  if n - lower < upper - n then
    lower
  else if upper - n < n - lower then
    upper
  else if lower / spacing n % 2 = 0 then
    lower
  else
    upper

def IsExact (n : Nat) : Prop := nearest n = n

instance (n : Nat) : Decidable (IsExact n) := inferInstanceAs (Decidable (nearest n = n))

/-- The multiple of `unit` that is rounded to `n`, the nearer one where two are. -/
def shortened (n unit : Nat) : Option Nat :=
  let lower := n - n % unit
  let upper := lower + unit
  if nearest lower = n ∧ (n - lower ≤ upper - n ∨ nearest upper ≠ n) then
    some lower
  else if nearest upper = n then
    some upper
  else
    none

def shortest (n : Nat) : Nat :=
  ((List.range 22).reverse.findSome? fun (i : Nat) => shortened n (10 ^ i)).getD n

-- 2 ^ 60 is written with the 16 digits that tell it from the numbers next to it
example : shortest (2 ^ 60) = 1152921504606847000 := by decide

theorem spacing_pos (n : Nat) : 0 < spacing n := Nat.two_pow_pos _

theorem spacing_of_lt {n : Nat} (h : n < 2 ^ 53) : spacing n = 1 := by
  unfold spacing
  by_cases hzero : n = 0
  . rw [hzero]
    rfl
  . rw [← Nat.log2_lt hzero] at h
    rw [show n.log2 + 1 - 53 = 0 by omega]
    rfl

theorem nearest_of_lt {n : Nat} (h : n < 2 ^ 53) : nearest n = n := by
  unfold nearest
  rw [spacing_of_lt h]
  simp [Nat.mod_one]

theorem spacing_mul_le {n : Nat} (h : 2 ^ 53 ≤ n) : spacing n * 2 ^ 52 ≤ n - n % spacing n := by
  have hpos : n ≠ 0 := by omega
  have hlog : 53 ≤ n.log2 := (Nat.le_log2 hpos).mpr h
  have hpow : spacing n * 2 ^ 52 = 2 ^ n.log2 := by
    unfold spacing
    rw [← Nat.pow_add]
    congr 1
    omega
  have hquot : 2 ^ 52 ≤ n / spacing n := by
    rw [Nat.le_div_iff_mul_le (spacing_pos n), Nat.mul_comm, hpow]
    apply Nat.log2_self_le hpos
  calc spacing n * 2 ^ 52
      ≤ spacing n * (n / spacing n) := Nat.mul_le_mul_left _ hquot
    _ = n - n % spacing n := by
        have := Nat.mod_add_div n (spacing n)
        omega

theorem le_nearest (n : Nat) : n - n % spacing n ≤ nearest n := by
  unfold nearest
  simp only
  split
  . rfl
  . split
    . apply Nat.le_add_right
    . split
      . rfl
      . apply Nat.le_add_right

theorem two_mul_dist_nearest_le (n : Nat) : 2 * ((n : Int) - nearest n).natAbs ≤ spacing n := by
  have hmod := Nat.mod_lt n (spacing_pos n)
  have hle := Nat.mod_le n (spacing n)
  unfold nearest
  simp only
  split
  . omega
  . split
    . omega
    . split
      . omega
      . omega

theorem dist_nearest_mul_le (n : Nat)
    : ((n : Int) - nearest n).natAbs * 2 ^ 53 ≤ nearest n := by
  by_cases hlt : n < 2 ^ 53
  . rw [nearest_of_lt hlt]
    simp
  . have hspacing := spacing_mul_le (Nat.not_lt.mp hlt)
    calc ((n : Int) - nearest n).natAbs * 2 ^ 53
        = 2 * ((n : Int) - nearest n).natAbs * 2 ^ 52 := by ring
      _ ≤ spacing n * 2 ^ 52 := Nat.mul_le_mul_right _ (two_mul_dist_nearest_le n)
      _ ≤ nearest n := hspacing.trans (le_nearest n)

theorem nearest_of_shortened {n unit c : Nat} (h : shortened n unit = some c) : nearest c = n := by
  unfold shortened at h
  simp only at h
  split at h
  . next hlower =>
    injection h with h
    rw [← h]
    exact hlower.1
  . split at h
    . next hupper =>
      injection h with h
      rwa [← h]
    . contradiction

theorem nearest_shortest {n : Nat} (h : IsExact n) : nearest (shortest n) = n := by
  unfold shortest
  cases hfind : (List.range 22).reverse.findSome? fun (i : Nat) => shortened n (10 ^ i) with
  | none => exact h
  | some c =>
    rcases List.exists_of_findSome?_eq_some hfind with ⟨i, _, hc⟩
    exact nearest_of_shortened hc

theorem isExact_of_lt {n : Nat} (h : n < 2 ^ 53) : IsExact n := nearest_of_lt h

theorem dist_shortest_mul_le {n : Nat} (h : IsExact n)
    : ((shortest n : Int) - n).natAbs * 2 ^ 53 ≤ n := by
  have hdist := dist_nearest_mul_le (shortest n)
  rwa [nearest_shortest h] at hdist

theorem shortest_of_lt {n : Nat} (h : n < 2 ^ 53) : shortest n = n := by
  have hdist := dist_shortest_mul_le (isExact_of_lt h)
  omega

end Double
