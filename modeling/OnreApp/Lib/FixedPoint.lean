import Mathlib.Algebra.Order.Field.Rat
import Mathlib.Algebra.Order.Ring.Pow
import Mathlib.Tactic.FieldSimp
import Mathlib.Tactic.Linarith
import Mathlib.Tactic.Positivity
import Mathlib.Tactic.Ring

/-!
Fixed point numbers with scale `s`: the natural number `a` stands for `a / s`. Products are rounded
half up, powers are computed by repeated squaring with every product rounded. The rounding of one
product of numbers that are at least one is between the factors `roundDown s` and `roundUp s`; a
power has one such factor for each unit of its exponent.
-/

namespace FixedPoint

def mul (s a b : Nat) : Nat :=
  (a * b + s / 2) / s

def pow (s acc base n : Nat) : Nat :=
  if n = 0 then
    acc
  else
    pow s (if n % 2 = 1 then mul s acc base else acc) (mul s base base) (n / 2)
termination_by n
decreasing_by omega

def keep (s : Nat) : ℚ :=
  1 - 1 / s

def roundDown (s : Nat) : ℚ :=
  1 - 1 / (2 * s)

def roundUp (s : Nat) : ℚ :=
  1 + 1 / (2 * s)

variable {s a b : Nat}

section Mul

theorem mul_mono {a' b' : Nat} (ha : a ≤ a') (hb : b ≤ b') : mul s a b ≤ mul s a' b' := by
  unfold mul
  apply Nat.div_le_div_right
  apply Nat.add_le_add_right
  exact Nat.mul_le_mul ha hb

theorem mul_scale (hs : 0 < s) (a : Nat) : mul s a s = a := by
  unfold mul
  rw [Nat.add_comm, Nat.add_mul_div_right _ _ hs]
  rw [Nat.div_eq_of_lt (by omega)]
  rw [Nat.zero_add]

theorem mul_comm_factors (s a b : Nat) : mul s a b = mul s b a := by
  rw [mul, mul, Nat.mul_comm]

theorem le_mul (hs : 0 < s) (hb : s ≤ b) : a ≤ mul s a b := by
  calc
    a = mul s a s := (mul_scale hs a).symm
    _ ≤ mul s a b := mul_mono (Nat.le_refl a) hb

theorem mul_le_left (hs : 0 < s) (hb : b ≤ s) : mul s a b ≤ a := by
  calc
    mul s a b ≤ mul s a s := mul_mono (Nat.le_refl a) hb
    _ = a := mul_scale hs a

theorem mul_eq_add (hs : 0 < s) (hb : s ≤ b) : mul s a b = a + mul s a (b - s) := by
  unfold mul
  rw [show a * b + s / 2 = a * (b - s) + s / 2 + a * s by
    rw [Nat.mul_sub]
    have := Nat.mul_le_mul_left a hb
    omega]
  rw [Nat.add_mul_div_right _ _ hs, Nat.add_comm]

theorem mul_zero_right (hs : 0 < s) : mul s a 0 = 0 := by
  unfold mul
  rw [Nat.mul_zero, Nat.zero_add]
  apply Nat.div_eq_of_lt
  omega

theorem cast_mul_le (hs : 0 < s) (a b : Nat) : (mul s a b : ℚ) ≤ a * b / s + 1 / 2 := by
  have hs' : (0 : ℚ) < s := by exact_mod_cast hs
  have hdiv : mul s a b * s ≤ a * b + s / 2 := by
    apply Nat.div_mul_le_self
  have htwice : 2 * (mul s a b * s) ≤ 2 * (a * b) + s := by omega
  have hcast : 2 * ((mul s a b : ℚ) * s) ≤ 2 * (a * b) + s := by exact_mod_cast htwice
  have hsplit : (a * b / s + 1 / 2 : ℚ) = (2 * (a * b) + s) / (2 * s) := by
    field_simp
  rw [hsplit, le_div_iff₀ (by positivity)]
  linarith

theorem lt_cast_mul (hs : 0 < s) (a b : Nat) : (a * b / s - 1 / 2 : ℚ) < mul s a b := by
  have hs' : (0 : ℚ) < s := by exact_mod_cast hs
  have hdiv : a * b + s / 2 < mul s a b * s + s := by
    apply Nat.lt_div_mul_add hs
  have htwice : 2 * (a * b) < 2 * (mul s a b * s) + s := by omega
  have hcast : (2 * (a * b) : ℚ) < 2 * (mul s a b * s) + s := by exact_mod_cast htwice
  have hsplit : (a * b / s - 1 / 2 : ℚ) = (2 * (a * b) - s) / (2 * s) := by
    field_simp
  rw [hsplit, div_lt_iff₀ (by positivity)]
  linarith

end Mul

section Round

theorem half_le_product (hs : 0 < s) (ha : s ≤ a) (hb : s ≤ b)
    : (1 / 2 : ℚ) ≤ a * b / s * (1 / (2 * s)) := by
  have hs' : (0 : ℚ) < s := by exact_mod_cast hs
  have hprod : (s * s : ℚ) ≤ a * b := by exact_mod_cast Nat.mul_le_mul ha hb
  have hsplit : (a * b / s * (1 / (2 * s)) : ℚ) = a * b / (2 * (s * s)) := by
    field_simp
  rw [hsplit, le_div_iff₀ (by positivity)]
  linarith

theorem roundDown_product_le (hs : 0 < s) (ha : s ≤ a) (hb : s ≤ b)
    : roundDown s * (a * b / s) ≤ mul s a b := by
  have hhalf := half_le_product hs ha hb
  have hround := lt_cast_mul hs a b
  unfold roundDown
  linarith

theorem mul_le_roundUp_product (hs : 0 < s) (ha : s ≤ a) (hb : s ≤ b)
    : (mul s a b : ℚ) ≤ roundUp s * (a * b / s) := by
  have hhalf := half_le_product hs ha hb
  have hround := cast_mul_le hs a b
  unfold roundUp
  linarith

theorem roundDown_nonneg (hs : 0 < s) : 0 ≤ roundDown s := by
  have hs' : (1 : ℚ) ≤ s := by exact_mod_cast hs
  unfold roundDown
  rw [sub_nonneg, div_le_one (by linarith)]
  linarith

theorem roundUp_nonneg : 0 ≤ roundUp s := by
  unfold roundUp
  positivity

end Round

section Keep

theorem keep_nonneg (hs : 0 < s) : 0 ≤ keep s := by
  have hs' : (1 : ℚ) ≤ s := by exact_mod_cast hs
  unfold keep
  rw [sub_nonneg, div_le_one (by linarith)]
  exact hs'

theorem keep_le_one : keep s ≤ 1 := by
  unfold keep
  rw [sub_le_self_iff]
  positivity

theorem le_keep_pow (hs : 0 < s) (n : Nat) : 1 - n / s ≤ keep s ^ n := by
  have hkeep := keep_nonneg hs
  have hbernoulli := one_add_mul_le_pow (a := -(1 / s : ℚ)) (by unfold keep at hkeep; linarith) n
  calc
    (1 - n / s : ℚ) = 1 + n * -(1 / s) := by ring
    _ ≤ (1 + -(1 / s)) ^ n := hbernoulli
    _ = keep s ^ n := by rw [keep, sub_eq_add_neg]

theorem keep_le_roundDown (s : Nat) : keep s ≤ roundDown s := by
  have hhalf : (0 : ℚ) ≤ 1 / (2 * s) := by positivity
  have hsplit : (1 / s : ℚ) = 1 / (2 * s) + 1 / (2 * s) := by ring
  unfold keep roundDown
  linarith

theorem keep_mul_roundUp_le_one (hs : 0 < s) : keep s * roundUp s ≤ 1 := by
  have hs' : (0 : ℚ) < s := by exact_mod_cast hs
  have hexpand : keep s * roundUp s = 1 - 1 / (2 * s) - 1 / s * (1 / (2 * s)) := by
    unfold keep roundUp
    field_simp
    ring
  have hfirst : (0 : ℚ) ≤ 1 / (2 * s) := by positivity
  have hsecond : (0 : ℚ) ≤ 1 / s * (1 / (2 * s)) := by positivity
  rw [hexpand]
  linarith

theorem keep_product_le (hs : 0 < s) (ha : s ≤ a) (hb : s ≤ b)
    : keep s * (a * b / s) ≤ mul s a b := by
  refine le_trans ?_ (roundDown_product_le hs ha hb)
  apply mul_le_mul_of_nonneg_right (keep_le_roundDown s)
  positivity

theorem keep_mul_le (hs : 0 < s) (ha : s ≤ a) (hb : s ≤ b)
    : keep s * mul s a b ≤ a * b / s := by
  calc
    keep s * mul s a b
      ≤ keep s * (roundUp s * (a * b / s)) := by
        apply mul_le_mul_of_nonneg_left _ (keep_nonneg hs)
        exact mul_le_roundUp_product hs ha hb
    _ = keep s * roundUp s * (a * b / s) := by ring
    _ ≤ 1 * (a * b / s) := by
        apply mul_le_mul_of_nonneg_right (keep_mul_roundUp_le_one hs)
        positivity
    _ = a * b / s := one_mul _

end Keep

section Pow

theorem pow_at_zero (s acc base : Nat) : pow s acc base 0 = acc := by
  unfold pow
  rfl

theorem pow_two_mul (s acc base n : Nat)
    : pow s acc base (2 * n) = pow s acc (mul s base base) n := by
  rcases Nat.eq_zero_or_pos n with rfl | hn
  . rw [Nat.mul_zero, pow_at_zero, pow_at_zero]
  . rw [pow]
    rw [if_neg (by omega), if_neg (by omega)]
    rw [Nat.mul_div_cancel_left n (by omega)]

theorem pow_two_mul_add_one (s acc base n : Nat)
    : pow s acc base (2 * n + 1) = pow s (mul s acc base) (mul s base base) n := by
  rw [pow]
  rw [if_neg (by omega), if_pos (by omega)]
  rw [show (2 * n + 1) / 2 = n by omega]

theorem le_pow (hs : 0 < s) {base : Nat} (hbase : s ≤ base) (acc n : Nat)
    : acc ≤ pow s acc base n := by
  induction n using Nat.strong_induction_on generalizing acc base with
  | _ n ih =>
    rcases Nat.even_or_odd' n with ⟨m, rfl | rfl⟩
    . rcases Nat.eq_zero_or_pos m with rfl | hm
      . rw [Nat.mul_zero, pow_at_zero]
      . rw [pow_two_mul]
        apply ih m (by omega)
        exact Nat.le_trans hbase (le_mul hs hbase)
    . rw [pow_two_mul_add_one]
      apply Nat.le_trans (le_mul hs hbase)
      apply ih m (by omega)
      exact Nat.le_trans hbase (le_mul hs hbase)

theorem pow_mono (n : Nat) {acc acc' base base' : Nat} (hacc : acc ≤ acc') (hbase : base ≤ base')
    : pow s acc base n ≤ pow s acc' base' n := by
  induction n using Nat.strong_induction_on generalizing acc acc' base base' with
  | _ n ih =>
    rcases Nat.even_or_odd' n with ⟨m, rfl | rfl⟩
    . rcases Nat.eq_zero_or_pos m with rfl | hm
      . rw [Nat.mul_zero, pow_at_zero, pow_at_zero]
        exact hacc
      . rw [pow_two_mul, pow_two_mul]
        apply ih m (by omega) hacc
        exact mul_mono hbase hbase
    . rw [pow_two_mul_add_one, pow_two_mul_add_one]
      apply ih m (by omega)
      . exact mul_mono hacc hbase
      . exact mul_mono hbase hbase

section Error

variable (hs : 0 < s)

include hs

theorem sq_roundDown_le {base : Nat} (hbase : s ≤ base)
    : (roundDown s * (base / s)) ^ 2 ≤ roundDown s * (mul s base base / s) := by
  calc
    (roundDown s * (base / s)) ^ 2
      = roundDown s * (roundDown s * (base * base / s) / s) := by ring
    _ ≤ roundDown s * (mul s base base / s) := by
      apply mul_le_mul_of_nonneg_left _ (roundDown_nonneg hs)
      apply div_le_div_of_nonneg_right (roundDown_product_le hs hbase hbase)
      positivity

theorem le_sq_roundUp {base : Nat} (hbase : s ≤ base)
    : roundUp s * (mul s base base / s) ≤ (roundUp s * (base / s)) ^ 2 := by
  calc
    roundUp s * (mul s base base / s)
      ≤ roundUp s * (roundUp s * (base * base / s) / s) := by
      apply mul_le_mul_of_nonneg_left _ roundUp_nonneg
      apply div_le_div_of_nonneg_right (mul_le_roundUp_product hs hbase hbase)
      positivity
    _ = (roundUp s * (base / s)) ^ 2 := by ring

/--
The invariant of the loop: what is still to be multiplied into the accumulator is the remaining power
of the current base, with one factor of the rounding for each unit of the remaining exponent.
-/
theorem roundDown_pow_le (n : Nat)
    : ∀ {acc base : Nat}, s ≤ acc → s ≤ base →
        acc * (roundDown s * (base / s)) ^ n ≤ (pow s acc base n : ℚ) := by
  have hdown := roundDown_nonneg hs
  induction n using Nat.strong_induction_on with
  | _ n ih =>
    intro acc base hacc hbase
    have hsquare : s ≤ mul s base base := Nat.le_trans hbase (le_mul hs hbase)
    have hsq := sq_roundDown_le hs hbase
    rcases Nat.even_or_odd' n with ⟨m, rfl | rfl⟩
    . rcases Nat.eq_zero_or_pos m with rfl | hm
      . rw [Nat.mul_zero, pow_at_zero, pow_zero, mul_one]
      . rw [pow_two_mul, pow_mul]
        refine le_trans ?_ (ih m (by omega) hacc hsquare)
        gcongr
    . have hproduct : acc * (roundDown s * (base / s)) ≤ (mul s acc base : ℚ) := by
        calc
          acc * (roundDown s * (base / s)) = roundDown s * (acc * base / s : ℚ) := by ring
          _ ≤ mul s acc base := roundDown_product_le hs hacc hbase
      rw [pow_two_mul_add_one, pow_succ', pow_mul, ← mul_assoc]
      refine le_trans ?_ (ih m (by omega) (Nat.le_trans hacc (le_mul hs hbase)) hsquare)
      gcongr

theorem pow_le_roundUp_pow (n : Nat)
    : ∀ {acc base : Nat}, s ≤ acc → s ≤ base →
        (pow s acc base n : ℚ) ≤ acc * (roundUp s * (base / s)) ^ n := by
  have hup := roundUp_nonneg (s := s)
  induction n using Nat.strong_induction_on with
  | _ n ih =>
    intro acc base hacc hbase
    have hsquare : s ≤ mul s base base := Nat.le_trans hbase (le_mul hs hbase)
    have hsq := le_sq_roundUp hs hbase
    rcases Nat.even_or_odd' n with ⟨m, rfl | rfl⟩
    . rcases Nat.eq_zero_or_pos m with rfl | hm
      . rw [Nat.mul_zero, pow_at_zero, pow_zero, mul_one]
      . rw [pow_two_mul, pow_mul]
        refine le_trans (ih m (by omega) hacc hsquare) ?_
        gcongr
    . have hproduct : (mul s acc base : ℚ) ≤ acc * (roundUp s * (base / s)) := by
        calc
          (mul s acc base : ℚ) ≤ roundUp s * (acc * base / s) :=
            mul_le_roundUp_product hs hacc hbase
          _ = acc * (roundUp s * (base / s)) := by ring
      rw [pow_two_mul_add_one, pow_succ', pow_mul, ← mul_assoc]
      refine le_trans (ih m (by omega) (Nat.le_trans hacc (le_mul hs hbase)) hsquare) ?_
      gcongr

end Error

/--
Two runs over the same base and digits, the second ahead of the first by the factor `x`. Each of the
at most `l` products on either side costs one factor `keep s`.
-/
theorem keep_pow_le (hs : 0 < s) {x : ℚ} (hx : 0 ≤ x) (l : Nat)
    : ∀ {base acc₁ acc₂ n k : Nat}, s ≤ base → s ≤ acc₁ → s ≤ acc₂ → n < 2 ^ l →
        keep s ^ k * (acc₁ * x) ≤ acc₂ →
        keep s ^ (k + 2 * l) * (pow s acc₁ base n * x) ≤ pow s acc₂ base n := by
  have hkeep := keep_nonneg hs
  induction l with
  | zero =>
    intro base acc₁ acc₂ n k _ _ _ hn h
    obtain rfl : n = 0 := by omega
    rw [pow_at_zero, pow_at_zero]
    exact h
  | succ l ih =>
    intro base acc₁ acc₂ n k hbase hacc₁ hacc₂ hn h
    have hsquare : s ≤ mul s base base := Nat.le_trans hbase (le_mul hs hbase)
    rcases Nat.even_or_odd' n with ⟨m, rfl | rfl⟩
    . rw [pow_two_mul, pow_two_mul]
      apply le_trans _ (ih hsquare hacc₁ hacc₂ (by omega) h)
      apply mul_le_mul_of_nonneg_right _ (by positivity)
      apply pow_le_pow_of_le_one hkeep keep_le_one
      omega
    . rw [pow_two_mul_add_one, pow_two_mul_add_one]
      rw [show k + 2 * (l + 1) = (k + 2) + 2 * l by omega]
      apply ih hsquare (Nat.le_trans hacc₁ (le_mul hs hbase))
        (Nat.le_trans hacc₂ (le_mul hs hbase)) (by omega)
      calc
        keep s ^ (k + 2) * (mul s acc₁ base * x)
          = keep s ^ (k + 1) * x * (keep s * mul s acc₁ base) := by ring
        _ ≤ keep s ^ (k + 1) * x * (acc₁ * base / s) := by
          apply mul_le_mul_of_nonneg_left (keep_mul_le hs hacc₁ hbase)
          positivity
        _ = keep s * (keep s ^ k * (acc₁ * x) * (base / s)) := by ring
        _ ≤ keep s * (acc₂ * (base / s)) := by
          apply mul_le_mul_of_nonneg_left _ hkeep
          apply mul_le_mul_of_nonneg_right h
          positivity
        _ = keep s * (acc₂ * base / s) := by ring
        _ ≤ mul s acc₂ base := keep_product_le hs hacc₂ hbase

theorem keep_pow_succ_le (hs : 0 < s) (l : Nat)
    : ∀ {base acc₁ acc₂ n k : Nat} {x : ℚ}, 0 ≤ x → s ≤ base → s ≤ acc₁ → s ≤ acc₂ →
        n < 2 ^ l → keep s ^ k * (acc₁ * x) ≤ acc₂ →
        keep s ^ (k + 2 * l + 1) * (pow s acc₁ base n * (x * (base / s)))
          ≤
        pow s acc₂ base (n + 1) := by
  have hkeep := keep_nonneg hs
  have hs' : (0 : ℚ) < s := by exact_mod_cast hs
  have hmul {base acc₁ acc₂ k : Nat} {x : ℚ} (hbase : s ≤ base) (hacc₂ : s ≤ acc₂)
      (h : keep s ^ k * (acc₁ * x) ≤ acc₂)
      : keep s ^ (k + 1) * (acc₁ * (x * (base / s))) ≤ mul s acc₂ base := by
    calc
      keep s ^ (k + 1) * (acc₁ * (x * (base / s)))
        = keep s * (keep s ^ k * (acc₁ * x) * (base / s)) := by ring
      _ ≤ keep s * (acc₂ * (base / s)) := by
        apply mul_le_mul_of_nonneg_left _ hkeep
        apply mul_le_mul_of_nonneg_right h
        positivity
      _ = keep s * (acc₂ * base / s) := by ring
      _ ≤ mul s acc₂ base := keep_product_le hs hacc₂ hbase
  induction l with
  | zero =>
    intro base acc₁ acc₂ n k x _ hbase _ hacc₂ hn h
    obtain rfl : n = 0 := by omega
    rw [pow_at_zero, show 0 + 1 = 2 * 0 + 1 by rfl, pow_two_mul_add_one, pow_at_zero]
    exact hmul hbase hacc₂ h
  | succ l ih =>
    intro base acc₁ acc₂ n k x hx hbase hacc₁ hacc₂ hn h
    have hsquare : s ≤ mul s base base := Nat.le_trans hbase (le_mul hs hbase)
    have hbase' : (0 : ℚ) < base := by exact_mod_cast Nat.lt_of_lt_of_le hs hbase
    rcases Nat.even_or_odd' n with ⟨m, rfl | rfl⟩
    . rw [pow_two_mul, pow_two_mul_add_one]
      have hahead := keep_pow_le hs (x := x * (base / s)) (n := m) (by positivity) l hsquare hacc₁
        (Nat.le_trans hacc₂ (le_mul hs hbase)) (by omega) (hmul hbase hacc₂ h)
      apply le_trans _ hahead
      apply mul_le_mul_of_nonneg_right _ (by positivity)
      apply pow_le_pow_of_le_one hkeep keep_le_one
      omega
    . rw [pow_two_mul_add_one, show 2 * m + 1 + 1 = 2 * (m + 1) by omega, pow_two_mul]
      have howed : keep s ^ (k + 1) * (mul s acc₁ base * (x * (s / base))) ≤ acc₂ := by
        calc
          keep s ^ (k + 1) * (mul s acc₁ base * (x * (s / base)))
            = keep s ^ k * (x * (s / base)) * (keep s * mul s acc₁ base) := by ring
          _ ≤ keep s ^ k * (x * (s / base)) * (acc₁ * base / s) := by
            apply mul_le_mul_of_nonneg_left (keep_mul_le hs hacc₁ hbase)
            positivity
          _ = keep s ^ k * (acc₁ * x) := by field_simp
          _ ≤ acc₂ := h
      have hsucc := ih (n := m) (by positivity) hsquare (Nat.le_trans hacc₁ (le_mul hs hbase)) hacc₂
        (by omega) howed
      apply le_trans _ hsucc
      have hsquared : keep s * (x * (base / s)) ≤ x * (s / base) * (mul s base base / s) := by
        calc
          keep s * (x * (base / s))
            = x * (s / base) * (keep s * (base * base / s) / s) := by field_simp
          _ ≤ x * (s / base) * (mul s base base / s) := by
            apply mul_le_mul_of_nonneg_left _ (by positivity)
            apply div_le_div_of_nonneg_right (keep_product_le hs hbase hbase)
            exact hs'.le
      calc
        keep s ^ (k + 2 * (l + 1) + 1)
            * (pow s (mul s acc₁ base) (mul s base base) m * (x * (base / s)))
          = keep s ^ (k + 1 + 2 * l + 1)
            * (pow s (mul s acc₁ base) (mul s base base) m * (keep s * (x * (base / s)))) := by
          ring
        _ ≤ _ := by
          apply mul_le_mul_of_nonneg_left _ (by positivity)
          apply mul_le_mul_of_nonneg_left hsquared
          positivity

end Pow

section Growth

variable {f : Nat}

def growth (s l f : Nat) : ℚ :=
  (1 - (2 * l + 1) / s) * (f / s) - 1

theorem pow_succ_growth (hs : 0 < s) (hf : s ≤ f) {l n : Nat} (hn : n < 2 ^ l)
    : pow s s f n * (1 + growth s l f) ≤ (pow s s f (n + 1) : ℚ) := by
  have hkeep := le_keep_pow hs (2 * l + 1)
  have hone : keep s ^ 0 * (s * (1 : ℚ)) ≤ s := by simp
  have hsucc := keep_pow_succ_le hs l zero_le_one hf (Nat.le_refl s) (Nat.le_refl s) hn hone
  rw [Nat.zero_add, one_mul] at hsucc
  apply le_trans _ hsucc
  push_cast at hkeep
  calc
    pow s s f n * (1 + growth s l f)
      = (1 - (2 * l + 1) / s) * (pow s s f n * (f / s) : ℚ) := by
      unfold growth
      ring
    _ ≤ keep s ^ (2 * l + 1) * (pow s s f n * (f / s) : ℚ) := by
      apply mul_le_mul_of_nonneg_right hkeep
      positivity

theorem pow_add_growth (hs : 0 < s) (hf : s ≤ f) {l : Nat} (hgrowth : 0 ≤ growth s l f)
    (n m : Nat) (hn : n + m ≤ 2 ^ l)
    : pow s s f n * (1 + m * growth s l f) ≤ (pow s s f (n + m) : ℚ) := by
  induction m with
  | zero => simp
  | succ m ih =>
    have hstep := pow_succ_growth hs hf (l := l) (n := n + m) (by omega)
    apply le_trans _ hstep
    have hsquare : (0 : ℚ) ≤ pow s s f n * (m * (growth s l f * growth s l f)) := by positivity
    calc
      pow s s f n * (1 + ((m + 1 : Nat) : ℚ) * growth s l f)
        ≤ pow s s f n * (1 + m * growth s l f) * (1 + growth s l f) := by
        push_cast
        linarith
      _ ≤ pow s s f (n + m) * (1 + growth s l f) := by
        apply mul_le_mul_of_nonneg_right (ih (by omega))
        linarith

theorem pow_mono_exponent (hs : 0 < s) (hf : s ≤ f) {l : Nat} (hgrowth : 0 ≤ growth s l f)
    {n m : Nat} (hnm : n ≤ m) (hm : m ≤ 2 ^ l) : pow s s f n ≤ pow s s f m := by
  have hgrown := pow_add_growth hs hf hgrowth n (m - n) (by omega)
  rw [Nat.add_sub_cancel' hnm] at hgrown
  have hgain : (0 : ℚ) ≤ pow s s f n * ((m - n : Nat) * growth s l f) := by positivity
  have hcast : (pow s s f n : ℚ) ≤ pow s s f m := by linarith
  exact_mod_cast hcast

end Growth

section Compound

variable {d f b e₁ e₂ l : Nat}

def whole (s f b n : Nat) : Nat :=
  mul s b (pow s s f n)

/--
The principal `b` after the time `e`, in periods of length `d`: compounded over the whole periods,
and from there on the straight line towards the (rounded) product of that value and the factor.
-/
def compound (s d f b e : Nat) : Nat :=
  whole s f b (e / d) + mul d (mul s (whole s f b (e / d)) f - whole s f b (e / d)) (e % d)

def gain (s f a : Nat) : Nat :=
  mul s a (f - s)

def rate (s f : Nat) : ℚ :=
  f / s - 1

theorem rate_nonneg (hs : 0 < s) (hf : s ≤ f) : 0 ≤ rate s f := by
  have hs' : (0 : ℚ) < s := by exact_mod_cast hs
  unfold rate
  rw [sub_nonneg, one_le_div hs']
  exact_mod_cast hf

theorem rate_eq (hs : 0 < s) (hf : s ≤ f) : ((f - s : Nat) : ℚ) / s = rate s f := by
  have hs' : (s : ℚ) ≠ 0 := by exact_mod_cast hs.ne'
  rw [Nat.cast_sub hf, sub_div, div_self hs', rate]

theorem compound_eq (hs : 0 < s) (hf : s ≤ f) (b e : Nat)
    : compound s d f b e
        =
      whole s f b (e / d) + mul d (gain s f (whole s f b (e / d))) (e % d) := by
  rw [compound, mul_eq_add hs hf, Nat.add_sub_cancel_left, gain]

theorem le_whole (hs : 0 < s) (hf : s ≤ f) (b n : Nat) : b ≤ whole s f b n := by
  apply le_mul hs
  apply le_pow hs hf

theorem whole_mono (hs : 0 < s) (hf : s ≤ f) (hgrowth : 0 ≤ growth s l f) {n m : Nat}
    (hnm : n ≤ m) (hm : m ≤ 2 ^ l) : whole s f b n ≤ whole s f b m := by
  apply mul_mono (Nat.le_refl b)
  exact pow_mono_exponent hs hf hgrowth hnm hm

theorem whole_le_compound (e : Nat) : whole s f b (e / d) ≤ compound s d f b e := by
  apply Nat.le_add_right

theorem le_compound (hs : 0 < s) (hf : s ≤ f) (b e : Nat) : b ≤ compound s d f b e := by
  apply Nat.le_trans (le_whole hs hf b (e / d))
  apply whole_le_compound

theorem compound_le_next (hs : 0 < s) (hd : 0 < d) (hf : s ≤ f) (b e : Nat)
    : compound s d f b e ≤ whole s f b (e / d) + gain s f (whole s f b (e / d)) := by
  rw [compound_eq hs hf]
  apply Nat.add_le_add_left
  exact mul_le_left hd (Nat.mod_lt e hd).le

theorem compound_mono_parts (hs : 0 < s) (hf : s ≤ f)
    (hwhole : whole s f b (e₁ / d) ≤ whole s f b (e₂ / d)) (hpart : e₁ % d ≤ e₂ % d)
    : compound s d f b e₁ ≤ compound s d f b e₂ := by
  rw [compound_eq hs hf, compound_eq hs hf]
  apply Nat.add_le_add hwhole
  apply mul_mono _ hpart
  exact mul_mono hwhole (Nat.le_refl _)

theorem compound_mono_same (hs : 0 < s) (hf : s ≤ f) (hperiod : e₁ / d = e₂ / d) (he : e₁ ≤ e₂)
    : compound s d f b e₁ ≤ compound s d f b e₂ := by
  apply compound_mono_parts hs hf
  . rw [hperiod]
  . have h₁ := Nat.div_add_mod e₁ d
    have h₂ := Nat.div_add_mod e₂ d
    rw [hperiod] at h₁
    omega

theorem compound_mono_whole (hs : 0 < s) (hf : s ≤ f) (hgrowth : 0 ≤ growth s l f)
    (hpart : e₁ % d = 0) (he : e₁ ≤ e₂) (hl : e₂ / d ≤ 2 ^ l)
    : compound s d f b e₁ ≤ compound s d f b e₂ := by
  apply compound_mono_parts hs hf (whole_mono hs hf hgrowth (Nat.div_le_div_right he) hl)
  rw [hpart]
  apply Nat.zero_le

theorem compound_mono_first (hs : 0 < s) (hd : 0 < d) (hf : s ≤ f) (hgrowth : 0 ≤ growth s l f)
    (hfirst : e₁ < d) (he : e₁ ≤ e₂) (hl : e₂ / d ≤ 2 ^ l)
    : compound s d f b e₁ ≤ compound s d f b e₂ := by
  have hzero : e₁ / d = 0 := Nat.div_eq_of_lt hfirst
  by_cases hsame : e₂ / d = 0
  . exact compound_mono_same hs hf (hzero.trans hsame.symm) he
  . have hone : whole s f b 1 = mul s b f := by
      rw [whole, show 1 = 2 * 0 + 1 by rfl, pow_two_mul_add_one, pow_at_zero]
      rw [mul_comm_factors s s f, mul_scale hs]
    have hstart : whole s f b 0 = b := by
      rw [whole, pow_at_zero, mul_scale hs]
    calc
      compound s d f b e₁ ≤ b + gain s f b := by
        have hnext := compound_le_next hs hd hf b e₁
        rw [hzero, hstart] at hnext
        exact hnext
      _ = whole s f b 1 := by rw [hone, mul_eq_add hs hf, gain]
      _ ≤ whole s f b (e₂ / d) := whole_mono hs hf hgrowth (Nat.pos_of_ne_zero hsame) hl
      _ ≤ compound s d f b e₂ := whole_le_compound e₂

end Compound

-- over the end of a later period the value can fall, since its line starts from a rounded value

section Fall

variable {d f b e₁ e₂ l : Nat}

theorem part_sub_mem (hd : 0 < d) (hpart : e₂ % d < e₁ % d)
    : (0 : ℚ) ≤ (e₁ % d : Nat) / d - (e₂ % d : Nat) / d
        ∧ ((e₁ % d : Nat) / d - (e₂ % d : Nat) / d : ℚ) ≤ 1 := by
  have hd' : (0 : ℚ) < d := by exact_mod_cast hd
  rw [← sub_div]
  constructor
  . apply div_nonneg _ hd'.le
    rw [sub_nonneg]
    exact_mod_cast hpart.le
  . rw [div_le_one hd']
    have hlt : ((e₁ % d : Nat) : ℚ) < d := by exact_mod_cast Nat.mod_lt e₁ hd
    have hnonneg : (0 : ℚ) ≤ (e₂ % d : Nat) := by positivity
    linarith

theorem elapsed_eq (hd : 0 < d) (he : e₁ ≤ e₂)
    : ((e₂ - e₁ : Nat) : ℚ) / d
        =
      (e₂ / d - e₁ / d : Nat) - ((e₁ % d : Nat) / d - (e₂ % d : Nat) / d) := by
  have hd' : (d : ℚ) ≠ 0 := by exact_mod_cast hd.ne'
  have h₁ : (d * (e₁ / d : Nat) + (e₁ % d : Nat) : ℚ) = e₁ := by
    exact_mod_cast Nat.div_add_mod e₁ d
  have h₂ : (d * (e₂ / d : Nat) + (e₂ % d : Nat) : ℚ) = e₂ := by
    exact_mod_cast Nat.div_add_mod e₂ d
  rw [Nat.cast_sub he, Nat.cast_sub (Nat.div_le_div_right he), ← h₁, ← h₂]
  field_simp
  ring

theorem gain_bounds (hs : 0 < s) (hf : s ≤ f) (a : Nat)
    : a * rate s f - 1 / 2 < gain s f a ∧ (gain s f a : ℚ) ≤ a * rate s f + 1 / 2 := by
  have hlt := lt_cast_mul hs a (f - s)
  have hle := cast_mul_le hs a (f - s)
  rw [mul_div_assoc, rate_eq hs hf] at hlt hle
  exact ⟨hlt, hle⟩

theorem whole_growth (hs : 0 < s) (hf : s ≤ f) (hgrowth : 0 ≤ growth s l f) {n m : Nat}
    (hnm : n ≤ m) (hm : m ≤ 2 ^ l) (hb : 0 < b)
    : ∃ x : ℚ, whole s f b n - 1 / 2 ≤ x ∧ 3 / 4 * whole s f b n ≤ x ∧
        whole s f b n - 1 + (m - n : Nat) * (growth s l f * x) < whole s f b m := by
  have hs' : (0 : ℚ) < s := by exact_mod_cast hs
  have hgrown := pow_add_growth hs hf hgrowth n (m - n) (by omega)
  rw [Nat.add_sub_cancel' hnm] at hgrown
  have hnear : whole s f b n ≤ (b * pow s s f n / s + 1 / 2 : ℚ) := cast_mul_le hs b _
  have hlater : (b * pow s s f m / s - 1 / 2 : ℚ) < whole s f b m := lt_cast_mul hs b _
  have hscaled : b * pow s s f n / s * (1 + (m - n : Nat) * growth s l f)
      ≤ (b * pow s s f m / s : ℚ) := by
    rw [div_mul_eq_mul_div, mul_assoc]
    apply div_le_div_of_nonneg_right _ hs'.le
    apply mul_le_mul_of_nonneg_left hgrown
    positivity
  have hprincipal : (1 : ℚ) ≤ b * pow s s f n / s := by
    rw [le_div_iff₀ hs']
    exact_mod_cast Nat.mul_le_mul hb (le_pow hs hf s n)
  refine ⟨b * pow s s f n / s, ?_, ?_, ?_⟩
  . linarith
  . -- a value of one is exact enough because the principal is not below it
    by_cases hone : whole s f b n ≤ 1
    . have hone' : (whole s f b n : ℚ) ≤ 1 := by exact_mod_cast hone
      linarith
    . have htwo : (2 : ℚ) ≤ whole s f b n := by exact_mod_cast Nat.lt_of_not_le hone
      linarith
  . linarith

theorem fall_short (hs : 0 < s) (hd : 0 < d) (hf : s ≤ f)
    (hwhole : whole s f b (e₁ / d) ≤ whole s f b (e₂ / d))
    (hfall : compound s d f b e₂ < compound s d f b e₁)
    : e₂ % d < e₁ % d
        ∧ whole s f b (e₂ / d) < whole s f b (e₁ / d) + gain s f (whole s f b (e₁ / d)) := by
  constructor
  . by_contra hpart
    have := compound_mono_parts hs hf hwhole (Nat.le_of_not_lt hpart)
    omega
  . have hnext := compound_le_next hs hd hf b e₁
    have hlater : whole s f b (e₂ / d) ≤ compound s d f b e₂ := whole_le_compound e₂
    omega

theorem fall_overshoot (hs : 0 < s) (hd : 0 < d) (hf : s ≤ f)
    (hwhole : whole s f b (e₁ / d) ≤ whole s f b (e₂ / d))
    (hfall : compound s d f b e₂ < compound s d f b e₁)
    : (whole s f b (e₂ / d) - whole s f b (e₁ / d) : ℚ)
        <
      gain s f (whole s f b (e₁ / d)) * ((e₁ % d : Nat) / d - (e₂ % d : Nat) / d) := by
  rw [compound_eq hs hf, compound_eq hs hf] at hfall
  have hgain : mul d (gain s f (whole s f b (e₁ / d))) (e₂ % d)
      ≤ mul d (gain s f (whole s f b (e₂ / d))) (e₂ % d) := by
    apply mul_mono _ (Nat.le_refl _)
    exact mul_mono hwhole (Nat.le_refl _)
  have hunits : whole s f b (e₂ / d) + mul d (gain s f (whole s f b (e₁ / d))) (e₂ % d) + 1
      ≤ whole s f b (e₁ / d) + mul d (gain s f (whole s f b (e₁ / d))) (e₁ % d) := by
    omega
  have hcast : (whole s f b (e₂ / d) + mul d (gain s f (whole s f b (e₁ / d))) (e₂ % d) + 1 : ℚ)
      ≤ whole s f b (e₁ / d) + mul d (gain s f (whole s f b (e₁ / d))) (e₁ % d) := by
    exact_mod_cast hunits
  have h₁ := cast_mul_le hd (gain s f (whole s f b (e₁ / d))) (e₁ % d)
  have h₂ := lt_cast_mul hd (gain s f (whole s f b (e₁ / d))) (e₂ % d)
  rw [mul_div_assoc] at h₁ h₂
  linarith

/--
The interest `a * (m - v)` between two values over `m` periods, `v` of them not elapsed. A period
gains `a`, rounded to `k`, and the second value starts `j` below the end of the first one's line.
-/
theorem fall_interest_lt {k j m : Nat} {a ρ v loss : ℚ} (hρ : 0 ≤ ρ) (hv : 0 ≤ v) (hv' : v ≤ 1)
    (hm : m = 1 ∨ m = 2) (hj : 0 < j) (hk : 0 < k) (hgain : k ≤ a + 1 / 2)
    (hgrown : -1 + m * (a - ρ / 2) - loss < k - j) (hover : (k : ℚ) - j < k * v)
    (hloss : 0 ≤ loss) (hloss' : loss ≤ a * (m - v) / 100)
    : a * (m - v) < 21 / 20 * (1 + 2 * ρ) := by
  have hm' : (m : ℚ) ≤ 2 := by
    rcases hm with rfl | rfl <;> norm_num
  have hj' : (1 : ℚ) ≤ j := by exact_mod_cast hj
  have hk' : (1 : ℚ) ≤ k := by exact_mod_cast hk
  have hcrude : a * (m - v) < 3 / 2 + ρ + loss := by
    have hrounded : k * v ≤ (a + 1 / 2) * v := mul_le_mul_of_nonneg_right hgain hv
    have hrates : m * ρ ≤ 2 * ρ := mul_le_mul_of_nonneg_right hm' hρ
    linarith
  by_cases hlarge : 1 / 2 ≤ ρ
  . linarith
  . have hsmall : loss < 1 / 40 := by linarith
    rcases hm with rfl | rfl
    . -- the next period starts just one unit too low, and what is left of the line is below a unit
      have hone : j = 1 := by
        have hlt : (j : ℚ) < 2 := by
          push_cast at hgrown
          linarith
        have : j < 2 := by exact_mod_cast hlt
        omega
      rw [hone] at hgrown hover
      push_cast at hgrown hover hloss' ⊢
      have hbound : a ≤ k + (ρ / 2 + loss) := by linarith
      have hspan : a * (1 - v) ≤ (k + (ρ / 2 + loss)) * (1 - v) := by
        apply mul_le_mul_of_nonneg_right hbound
        linarith
      have hrest : (ρ / 2 + loss) * (1 - v) ≤ ρ / 2 + loss := by
        apply mul_le_of_le_one_right (by positivity)
        linarith
      linarith
    . -- two periods gain less than two units, so one of them gains one
      push_cast at hgrown hloss' ⊢
      have hone : k = 1 ∧ j = 1 := by
        have hlt : (k + j : ℚ) < 3 := by linarith
        have : k + j < 3 := by exact_mod_cast hlt
        omega
      rw [hone.1, hone.2] at hgrown
      push_cast at hgrown
      have hspan : 0 ≤ a * v := by
        apply mul_nonneg _ hv
        linarith
      linarith

theorem fall_interest_lt_of_growth {k j m : Nat} {q x ρ κ v : ℚ} (hq : 0 ≤ q) (hκ : 0 ≤ κ)
    (hκ' : κ ≤ ρ) (hv : 0 ≤ v) (hv' : v ≤ 1) (hm : m = 1 ∨ m = 2) (hj : 0 < j) (hk : 0 < k)
    (hgain : k ≤ q * ρ + 1 / 2) (hx : q - 1 / 2 ≤ x)
    (hgrown : -1 + m * ((ρ - κ) * x) < (k : ℚ) - j) (hover : (k : ℚ) - j < k * v)
    (hcost : m * κ ≤ ρ * (m - v) / 100) : q * ρ * (m - v) < 21 / 20 * (1 + 2 * ρ) := by
  have hm' : (0 : ℚ) ≤ m := by positivity
  have hgrown' : -1 + m * (q * ρ - ρ / 2) - q * (m * κ) < (k : ℚ) - j := by
    have hrounded : (ρ - κ) * (q - 1 / 2) ≤ (ρ - κ) * x := by
      apply mul_le_mul_of_nonneg_left hx
      linarith
    have hperiods := mul_le_mul_of_nonneg_left hrounded hm'
    have hrest : 0 ≤ m * κ := mul_nonneg hm' hκ
    linarith
  have hloss : q * (m * κ) ≤ q * ρ * (m - v) / 100 := by
    calc
      q * (m * κ) ≤ q * (ρ * (m - v) / 100) := mul_le_mul_of_nonneg_left hcost hq
      _ = q * ρ * (m - v) / 100 := by ring
  apply fall_interest_lt _ hv hv' hm hj hk hgain hgrown' hover _ hloss
  . linarith
  . positivity

theorem fall_periods_lt {k m : Nat} {q x g ρ : ℚ} (hq : 0 ≤ q) (hρ : 0 ≤ ρ)
    (hg : 99 / 100 * ρ ≤ g) (hx : 3 / 4 * q ≤ x) (hk : 0 < k) (hgain : k ≤ q * ρ + 1 / 2)
    (hgrown : m * (g * x) < k) : m < 3 := by
  by_contra hm
  have hm' : (3 : ℚ) ≤ m := by exact_mod_cast Nat.le_of_not_lt hm
  have hk' : (1 : ℚ) ≤ k := by exact_mod_cast hk
  have hperiod : 99 / 100 * ρ * (3 / 4 * q) ≤ g * x := by
    apply mul_le_mul hg hx (by positivity)
    apply le_trans _ hg
    positivity
  have hperiods : 3 * (99 / 100 * ρ * (3 / 4 * q)) ≤ m * (g * x) := by
    apply mul_le_mul hm' hperiod (by positivity)
    apply le_trans _ hm'
    norm_num
  linarith

theorem periods_le (hd : 0 < d) (he : e₁ ≤ e₂) : e₂ / d - e₁ / d ≤ e₂ - e₁ := by
  have hscaled : e₂ ≤ e₁ + (e₂ - e₁) * d := by
    have := Nat.le_mul_of_pos_right (e₂ - e₁) hd
    omega
  have hdiv := Nat.div_le_div_right (c := d) hscaled
  rw [Nat.add_mul_div_right _ _ hd] at hdiv
  omega

theorem elapsed_lt (hd : 0 < d) (hpart : e₂ % d < e₁ % d) (hperiods : e₂ / d - e₁ / d < 3)
    : e₂ - e₁ < 2 * d := by
  have h₁ := Nat.div_add_mod e₁ d
  have h₂ := Nat.div_add_mod e₂ d
  have hscaled := Nat.mul_le_mul_left d (show e₂ / d ≤ e₁ / d + 2 by omega)
  rw [Nat.mul_add] at hscaled
  omega

theorem periods_ne_zero (he : e₁ ≤ e₂) (hpart : e₂ % d < e₁ % d) : e₂ / d - e₁ / d ≠ 0 := by
  intro hsame
  have h₁ := Nat.div_add_mod e₁ d
  have h₂ := Nat.div_add_mod e₂ d
  have hscaled := Nat.mul_le_mul_left d (show e₂ / d ≤ e₁ / d by omega)
  omega

theorem growth_eq (s l f : Nat)
    : growth s l f = rate s f - (2 * l + 1) / s * (1 + rate s f) := by
  rw [growth, rate]
  ring

theorem rate_le_growth (hd : 0 < d) (hρ : 0 ≤ rate s f)
    (hcost : (2 * l + 1) / s * (1 + rate s f) ≤ rate s f / d / 100)
    : 99 / 100 * rate s f ≤ growth s l f := by
  have hperiod : rate s f / d ≤ rate s f := div_le_self hρ (by exact_mod_cast hd)
  rw [growth_eq]
  linarith

theorem growth_nonneg (hd : 0 < d) (hρ : 0 ≤ rate s f)
    (hcost : (2 * l + 1) / s * (1 + rate s f) ≤ rate s f / d / 100) : 0 ≤ growth s l f := by
  apply le_trans _ (rate_le_growth hd hρ hcost)
  positivity

theorem costs_le (hd : 0 < d) (hρ : 0 ≤ rate s f) (he : e₁ ≤ e₂)
    (hcost : (2 * l + 1) / s * (1 + rate s f) ≤ rate s f / d / 100)
    : (e₂ / d - e₁ / d : Nat) * ((2 * l + 1) / s * (1 + rate s f))
        ≤
      rate s f * ((e₂ - e₁ : Nat) / d) / 100 := by
  calc
    (e₂ / d - e₁ / d : Nat) * ((2 * l + 1) / s * (1 + rate s f))
      ≤ (e₂ / d - e₁ / d : Nat) * (rate s f / d / 100) := by
      apply mul_le_mul_of_nonneg_left hcost
      positivity
    _ = rate s f * ((e₂ / d - e₁ / d : Nat) / d) / 100 := by ring
    _ ≤ rate s f * ((e₂ - e₁ : Nat) / d) / 100 := by
      apply div_le_div_of_nonneg_right _ (by norm_num)
      apply mul_le_mul_of_nonneg_left _ hρ
      apply div_le_div_of_nonneg_right _ (by positivity)
      exact_mod_cast periods_le hd he

theorem compound_fall (hs : 0 < s) (hd : 0 < d) (hf : s ≤ f) (hb : 0 < b)
    (hcost : (2 * l + 1) / s * (1 + rate s f) ≤ rate s f / d / 100)
    (he : e₁ ≤ e₂) (hl : e₂ / d ≤ 2 ^ l) (hfall : compound s d f b e₂ < compound s d f b e₁)
    : e₂ - e₁ < 2 * d
        ∧
      b * rate s f * ((e₂ - e₁ : Nat) / d) < 21 / 20 * (1 + 2 * rate s f) := by
  have hρ := rate_nonneg hs hf
  have hgrowth := growth_nonneg hd hρ hcost
  have hperiods : e₁ / d ≤ e₂ / d := Nat.div_le_div_right he
  have hwhole : whole s f b (e₁ / d) ≤ whole s f b (e₂ / d) := whole_mono hs hf hgrowth hperiods hl
  obtain ⟨hpart, hshort⟩ := fall_short hs hd hf hwhole hfall
  have hover := fall_overshoot hs hd hf hwhole hfall
  have hgain := gain_bounds hs hf (whole s f b (e₁ / d))
  obtain ⟨x, hx, hx', hgrown⟩ := whole_growth hs hf hgrowth hperiods hl hb
  have hwhole' : (0 : ℚ) ≤ whole s f b (e₁ / d) := by positivity
  have hprincipal : (b : ℚ) ≤ whole s f b (e₁ / d) := by
    exact_mod_cast le_whole hs hf b (e₁ / d)
  have hk : 0 < gain s f (whole s f b (e₁ / d)) := by omega
  obtain ⟨j, hj, hdeficit⟩ : ∃ j : Nat, 0 < j ∧
      (whole s f b (e₂ / d) : ℚ)
        = whole s f b (e₁ / d) + gain s f (whole s f b (e₁ / d)) - j := by
    refine ⟨whole s f b (e₁ / d) + gain s f (whole s f b (e₁ / d)) - whole s f b (e₂ / d), ?_, ?_⟩
    . omega
    . rw [Nat.cast_sub hshort.le]
      push_cast
      ring
  have hj' : (1 : ℚ) ≤ j := by exact_mod_cast hj
  have hm : e₂ / d - e₁ / d < 3 := by
    apply fall_periods_lt hwhole' hρ (rate_le_growth hd hρ hcost) hx' hk hgain.2
    linarith
  refine ⟨elapsed_lt hd hpart hm, ?_⟩
  have hm' : e₂ / d - e₁ / d = 1 ∨ e₂ / d - e₁ / d = 2 := by
    have := periods_ne_zero he hpart
    omega
  obtain ⟨hv, hv'⟩ := part_sub_mem hd hpart
  have hcosts := costs_le hd hρ he hcost
  rw [growth_eq] at hgrown hgrowth
  calc
    b * rate s f * ((e₂ - e₁ : Nat) / d)
      ≤ whole s f b (e₁ / d) * rate s f * ((e₂ - e₁ : Nat) / d) := by
      apply mul_le_mul_of_nonneg_right _ (by positivity)
      exact mul_le_mul_of_nonneg_right hprincipal hρ
    _ < 21 / 20 * (1 + 2 * rate s f) := by
      rw [elapsed_eq hd he] at hcosts ⊢
      apply fall_interest_lt_of_growth hwhole' (by positivity) (by linarith) hv hv' hm' hj hk
        hgain.2 hx (by linarith) (by linarith) hcosts

end Fall

end FixedPoint
