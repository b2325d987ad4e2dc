import Mathlib.Analysis.Complex.ExponentialBounds
import Mathlib.Analysis.SpecialFunctions.Log.Deriv
import Mathlib.Analysis.SpecialFunctions.Pow.Real

/-!
Power series in fixed point arithmetic with scale `q`: the natural number `a` stands for `a / q`,
and every product and quotient is rounded down. The partial sums are those of the real series up to
a few units of the last place for each term.
-/

namespace FlooredSeries

open Finset

section Floor

theorem cast_div_le (a b : ℕ) : ((a / b : ℕ) : ℝ) ≤ (a : ℝ) / b := Nat.cast_div_le

theorem le_cast_div_add_one (a b : ℕ) (hb : 0 < b) : (a : ℝ) / b ≤ ((a / b : ℕ) : ℝ) + 1 := by
  have hb' : (0 : ℝ) < b := by exact_mod_cast hb
  rw [div_le_iff₀ hb']
  have hlt : a < b * (a / b + 1) := Nat.lt_mul_div_succ a hb
  have hcast : (a : ℝ) < b * (((a / b : ℕ) : ℝ) + 1) := by exact_mod_cast hlt
  linarith

variable {q : ℕ} (hq : 0 < q) (a b : ℕ)

include hq

theorem mul_div_le : ((a * b / q : ℕ) : ℝ) / q ≤ (a : ℝ) / q * (b / q) := by
  have hq' : (0 : ℝ) < q := by exact_mod_cast hq
  have hfloor := cast_div_le (a * b) q
  rw [div_le_iff₀ hq']
  push_cast at hfloor
  calc
    ((a * b / q : ℕ) : ℝ) ≤ (a : ℝ) * b / q := hfloor
    _ = (a : ℝ) / q * (b / q) * q := by field_simp

theorem le_mul_div : (a : ℝ) / q * (b / q) - 1 / q ≤ ((a * b / q : ℕ) : ℝ) / q := by
  have hq' : (0 : ℝ) < q := by exact_mod_cast hq
  have hfloor := le_cast_div_add_one (a * b) q hq
  rw [le_div_iff₀ hq']
  push_cast at hfloor
  calc
    ((a : ℝ) / q * (b / q) - 1 / q) * q = (a : ℝ) * b / q - 1 := by field_simp
    _ ≤ ((a * b / q : ℕ) : ℝ) := by linarith

theorem div_div_le (d : ℕ) : ((a / d : ℕ) : ℝ) / q ≤ (a : ℝ) / q / d := by
  rw [div_right_comm]
  gcongr
  exact cast_div_le a d

theorem le_div_div {d : ℕ} (hd : 0 < d) : (a : ℝ) / q / d - 1 / q ≤ ((a / d : ℕ) : ℝ) / q := by
  have hq' : (0 : ℝ) < q := by exact_mod_cast hq
  have hfloor := le_cast_div_add_one a d hd
  rw [div_right_comm, ← sub_div]
  gcongr
  linarith

end Floor

section Artanh

def oddStep (q square : ℕ) (acc : ℕ × ℕ) (d : ℕ) : ℕ × ℕ :=
  (acc.1 * square / q, acc.2 + acc.1 * square / q / d)

noncomputable def artanhSum (n : ℕ) (z : ℝ) : ℝ := ∑ i ∈ range n, z ^ (2 * i + 1) / (2 * i + 1)

structure OddBounds (q : ℕ) (z : ℝ) (n : ℕ) (acc : ℕ × ℕ) : Prop where
  term_le : (acc.1 : ℝ) / q ≤ z ^ (2 * n + 1)
  le_term : z ^ (2 * n + 1) - 2 / q ≤ (acc.1 : ℝ) / q
  sum_le : (acc.2 : ℝ) / q ≤ artanhSum (n + 1) z
  le_sum : artanhSum (n + 1) z - 2 * n / q ≤ (acc.2 : ℝ) / q

variable {q square n : ℕ} {z : ℝ} {acc : ℕ × ℕ}

theorem artanhSum_succ (n : ℕ) (z : ℝ)
    : artanhSum (n + 1) z = artanhSum n z + z ^ (2 * n + 1) / (2 * n + 1) := by
  unfold artanhSum
  rw [sum_range_succ]

theorem sq_le_ninth (hz : 0 ≤ z) (hz' : z ≤ 1 / 3) : z ^ 2 ≤ 1 / 9 := by
  have hle := pow_le_pow_left₀ hz hz' 2
  norm_num at hle
  exact hle

theorem oddTerm_step {t w p s e : ℝ} (ht : p - 2 * e ≤ t) (ht0 : 0 ≤ t) (ht1 : t ≤ 1 / 3)
    (hw : s - e ≤ w) (hs : 0 ≤ s) (hs' : s ≤ 1 / 9) (he : 0 < e) : p * s - 2 * e ≤ t * w - e := by
  have hproduct : t * (s - e) ≤ t * w := mul_le_mul_of_nonneg_left hw ht0
  have hsquare : (p - 2 * e) * s ≤ t * s := mul_le_mul_of_nonneg_right ht hs
  have hte : t * e ≤ 1 / 3 * e := mul_le_mul_of_nonneg_right ht1 he.le
  have hse : s * e ≤ 1 / 9 * e := mul_le_mul_of_nonneg_right hs' he.le
  linarith

theorem oddBounds_step (hq : 0 < q) (hz : 0 ≤ z) (hz' : z ≤ 1 / 3)
    (hsquare : (square : ℝ) / q ≤ z ^ 2) (hsquare' : z ^ 2 - 1 / q ≤ (square : ℝ) / q)
    (h : OddBounds q z n acc) : OddBounds q z (n + 1) (oddStep q square acc (2 * n + 3)) := by
  have hq' : (0 : ℝ) < q := by exact_mod_cast hq
  have hε : (0 : ℝ) < 1 / q := by positivity
  have htwo : (2 : ℝ) / q = 2 * (1 / q) := by ring
  have hpow : z ^ (2 * (n + 1) + 1) = z ^ (2 * n + 1) * z ^ 2 := by ring
  have hpow1 : z ^ (2 * n + 1) ≤ 1 / 3 := by
    apply le_trans (pow_le_of_le_one hz (by linarith) (by omega)) hz'
  have hz2 := sq_le_ninth hz hz'
  have hdivisor : ((2 * n + 3 : ℕ) : ℝ) = 2 * ((n + 1 : ℕ) : ℝ) + 1 := by
    push_cast
    ring
  have hterm_le : ((acc.1 * square / q : ℕ) : ℝ) / q ≤ z ^ (2 * (n + 1) + 1) := by
    rw [hpow]
    apply (mul_div_le hq acc.1 square).trans
    apply mul_le_mul h.term_le hsquare (by positivity) (by positivity)
  have hle_term : z ^ (2 * (n + 1) + 1) - 2 / q ≤ ((acc.1 * square / q : ℕ) : ℝ) / q := by
    rw [hpow, htwo]
    refine le_trans ?_ (le_mul_div hq acc.1 square)
    apply oddTerm_step _ (by positivity) (h.term_le.trans hpow1) hsquare' (by positivity) hz2 hε
    rw [← htwo]
    exact h.le_term
  have hsum : (((oddStep q square acc (2 * n + 3)).2 : ℕ) : ℝ) / q
      = (acc.2 : ℝ) / q + ((acc.1 * square / q / (2 * n + 3) : ℕ) : ℝ) / q := by
    unfold oddStep
    rw [Nat.cast_add, add_div]
  have hdiv := div_div_le hq (acc.1 * square / q) (2 * n + 3)
  have hdiv' := le_div_div hq (acc.1 * square / q) (d := 2 * n + 3) (by omega)
  rw [hdivisor] at hdiv hdiv'
  refine ⟨hterm_le, hle_term, ?_, ?_⟩
  . rw [hsum, artanhSum_succ]
    apply add_le_add h.sum_le
    apply hdiv.trans
    gcongr
  . rw [hsum, artanhSum_succ]
    have hquotient : (z ^ (2 * (n + 1) + 1) - 2 / q) / (2 * ((n + 1 : ℕ) : ℝ) + 1)
        ≤ ((acc.1 * square / q : ℕ) : ℝ) / q / (2 * ((n + 1 : ℕ) : ℝ) + 1) := by
      gcongr
    have hlost : 2 / q / (2 * ((n + 1 : ℕ) : ℝ) + 1) ≤ 1 / q := by
      have hcount : (0 : ℝ) ≤ 1 / q * n := by positivity
      rw [div_le_iff₀ (by positivity), htwo]
      push_cast
      linarith
    have hle_sum := h.le_sum
    rw [sub_div] at hquotient
    have hcount : 2 * ((n + 1 : ℕ) : ℝ) / q = 2 * n / q + 2 * (1 / q) := by
      push_cast
      ring
    linarith

theorem oddBounds_foldl (hq : 0 < q) {a : ℕ} (hz : (a : ℝ) / q ≤ 1 / 3) (n : ℕ)
    : OddBounds q (a / q) n
        (((List.range n).map (2 * · + 3)).foldl (oddStep q (a * a / q)) (a, a)) := by
  have hsquare : ((a * a / q : ℕ) : ℝ) / q ≤ ((a : ℝ) / q) ^ 2 := by
    rw [pow_two]
    exact mul_div_le hq a a
  have hsquare' : ((a : ℝ) / q) ^ 2 - 1 / q ≤ ((a * a / q : ℕ) : ℝ) / q := by
    rw [pow_two]
    exact le_mul_div hq a a
  induction n with
  | zero =>
    have hε : (0 : ℝ) ≤ 2 / q := by positivity
    constructor
    . simp
    . simpa using hε
    . simp [artanhSum]
    . simp [artanhSum]
  | succ n ih =>
    rw [List.range_succ, List.map_append, List.foldl_append]
    exact oddBounds_step hq (by positivity) hz hsquare hsquare' ih

theorem artanhSum_sub_le {y : ℝ} (hy : 0 ≤ y) (hyz : y ≤ z) (hz : z ≤ 1) (n : ℕ)
    : artanhSum n z - artanhSum n y ≤ n * (z - y) := by
  unfold artanhSum
  rw [← sum_sub_distrib]
  have hterm : ∀ i ∈ range n,
      z ^ (2 * i + 1) / (2 * i + 1) - y ^ (2 * i + 1) / (2 * (i : ℝ) + 1) ≤ z - y := by
    intro i _
    have habs := abs_pow_sub_pow_le z y (2 * i + 1)
    have hmax : max |z| |y| ^ (2 * i + 1 - 1) ≤ 1 := by
      apply pow_le_one₀ (by positivity)
      rw [abs_of_nonneg (hy.trans hyz), abs_of_nonneg hy]
      exact max_le hz (hyz.trans hz)
    have hdiff : |z - y| = z - y := abs_of_nonneg (sub_nonneg.mpr hyz)
    rw [hdiff] at habs
    rw [← sub_div, div_le_iff₀ (by positivity)]
    have hcast : ((2 * i + 1 : ℕ) : ℝ) = 2 * (i : ℝ) + 1 := by push_cast; ring
    rw [hcast] at habs
    calc
      z ^ (2 * i + 1) - y ^ (2 * i + 1) ≤ |z ^ (2 * i + 1) - y ^ (2 * i + 1)| := le_abs_self _
      _ ≤ (z - y) * (2 * i + 1) * max |z| |y| ^ (2 * i + 1 - 1) := habs
      _ ≤ (z - y) * (2 * i + 1) * 1 := by
        apply mul_le_mul_of_nonneg_left hmax
        have := sub_nonneg.mpr hyz
        positivity
      _ = (z - y) * (2 * i + 1) := mul_one _
  calc
    ∑ i ∈ range n, (z ^ (2 * i + 1) / (2 * i + 1) - y ^ (2 * i + 1) / (2 * (i : ℝ) + 1))
      ≤ ∑ _i ∈ range n, (z - y) := sum_le_sum hterm
    _ = n * (z - y) := by rw [sum_const, card_range, nsmul_eq_mul]

theorem artanhSum_mono {y : ℝ} (hy : 0 ≤ y) (hyz : y ≤ z) (n : ℕ)
    : artanhSum n y ≤ artanhSum n z := by
  unfold artanhSum
  apply sum_le_sum
  intro i _
  gcongr

theorem one_add_div_one_sub {m : ℝ} (hm : 0 < m)
    : (1 + (m - 1) / (m + 1)) / (1 - (m - 1) / (m + 1)) = m := by
  have h : m + 1 ≠ 0 := by positivity
  field_simp
  ring

theorem artanhSum_le_log {m : ℝ} (hm : 1 ≤ m) (n : ℕ)
    : 2 * artanhSum n ((m - 1) / (m + 1)) ≤ Real.log m := by
  have hz : 0 ≤ (m - 1) / (m + 1) := by
    apply div_nonneg <;> linarith
  have hz' : (m - 1) / (m + 1) < 1 := by
    rw [div_lt_one (by linarith)]
    linarith
  have hle := Real.sum_range_le_log_div hz hz' n
  rw [one_add_div_one_sub (by linarith)] at hle
  unfold artanhSum
  linarith

theorem artanhTail_le (hz : 0 ≤ z) (hz' : z ≤ 1 / 3)
    : artanhSum 12 z + z ^ 25 / (1 - z ^ 2) ≤ artanhSum 7 z + 55 / 10 ^ 10 := by
  have hpow : ∀ k : ℕ, z ^ k ≤ (1 / 3) ^ k := fun k => pow_le_pow_left₀ hz hz' k
  have hsquare : 8 / 9 ≤ 1 - z ^ 2 := by
    have hninth := sq_le_ninth hz hz'
    linarith
  have hlast : z ^ 25 / (1 - z ^ 2) ≤ (1 / 3) ^ 25 / (8 / 9) := by
    apply div_le_div₀ (by positivity) (hpow 25) (by norm_num) hsquare
  have h7 := hpow 15
  have h8 := hpow 17
  have h9 := hpow 19
  have h10 := hpow 21
  have h11 := hpow 23
  rw [artanhSum_succ, artanhSum_succ, artanhSum_succ, artanhSum_succ, artanhSum_succ]
  norm_num at h7 h8 h9 h10 h11 hlast ⊢
  linarith

-- seven terms are enough for eight digits up to 2
theorem log_le_artanhSum {m : ℝ} (hm : 1 ≤ m) (hm' : m ≤ 2)
    : Real.log m ≤ 2 * artanhSum 7 ((m - 1) / (m + 1)) + 11 / 10 ^ 9 := by
  have hz : 0 ≤ (m - 1) / (m + 1) := by
    apply div_nonneg <;> linarith
  have hz' : (m - 1) / (m + 1) ≤ 1 / 3 := by
    rw [div_le_div_iff₀ (by linarith) (by norm_num)]
    linarith
  have hle := Real.log_div_le_sum_range_add hz (by linarith) 12
  rw [one_add_div_one_sub (by linarith)] at hle
  have htail := artanhTail_le hz hz'
  unfold artanhSum at htail ⊢
  norm_num at hle htail ⊢
  linarith

-- the floored quotient `(m - 1) / (m + 1)` for `m = M / q`
def artanhArgument (q M : ℕ) : ℕ := (M - q) * q / (M + q)

def artanhLoop (q a : ℕ) (n : ℕ) : ℕ :=
  (((List.range n).map (2 * · + 3)).foldl (oddStep q (a * a / q)) (a, a)).2

theorem artanhArgument_bounds {M : ℕ} (hq : 0 < q) (hM : q ≤ M)
    : ((artanhArgument q M : ℕ) : ℝ) / q ≤ ((M : ℝ) / q - 1) / (M / q + 1)
        ∧ ((M : ℝ) / q - 1) / (M / q + 1) - 1 / q ≤ ((artanhArgument q M : ℕ) : ℝ) / q := by
  have hq' : (0 : ℝ) < q := by exact_mod_cast hq
  have hz : ((M : ℝ) / q - 1) / (M / q + 1) = ((M - q : ℕ) : ℝ) * q / (M + q) / q := by
    rw [Nat.cast_sub hM]
    field_simp
  have hle := cast_div_le ((M - q) * q) (M + q)
  have hge := le_cast_div_add_one ((M - q) * q) (M + q) (by omega)
  push_cast at hle hge
  unfold artanhArgument
  rw [hz]
  constructor
  . gcongr
  . rw [← sub_div]
    gcongr
    linarith

theorem artanhLoop_bounds {M : ℕ} (hq : 0 < q) (hM : q ≤ M) (hM' : M ≤ 2 * q)
    : 2 * ((artanhLoop q (artanhArgument q M) 6 : ℕ) : ℝ) / q ≤ Real.log (M / q)
        ∧ Real.log (M / q) - 11 / 10 ^ 9 - 38 / q
            ≤ 2 * ((artanhLoop q (artanhArgument q M) 6 : ℕ) : ℝ) / q := by
  have hq' : (0 : ℝ) < q := by exact_mod_cast hq
  have hm : (1 : ℝ) ≤ (M : ℝ) / q := by
    rw [le_div_iff₀ hq', one_mul]
    exact_mod_cast hM
  have hm' : (M : ℝ) / q ≤ 2 := by
    rw [div_le_iff₀ hq']
    exact_mod_cast hM'
  have hz : ((M : ℝ) / q - 1) / (M / q + 1) ≤ 1 / 3 := by
    rw [div_le_div_iff₀ (by linarith) (by norm_num)]
    linarith
  rcases artanhArgument_bounds hq hM with ⟨ha, ha'⟩
  have hloop := oddBounds_foldl hq (ha.trans hz) 6
  have hsum_le := hloop.sum_le
  have hle_sum := hloop.le_sum
  have hlog := artanhSum_le_log hm 7
  have hlog' := log_le_artanhSum hm hm'
  have hmono := artanhSum_sub_le (by positivity) ha (by linarith) 7
  have hmono' : artanhSum 7 ((artanhArgument q M : ℝ) / q)
      ≤ artanhSum 7 (((M : ℝ) / q - 1) / (M / q + 1)) := artanhSum_mono (by positivity) ha 7
  unfold artanhLoop
  rw [mul_div_assoc]
  constructor
  . linarith
  . have hlost : 7 * (((M : ℝ) / q - 1) / (M / q + 1) - (artanhArgument q M : ℝ) / q)
        ≤ 7 * (1 / q) := by linarith
    have hcount : (2 : ℝ) * (6 : ℕ) / q = 12 * (1 / q) := by
      push_cast
      ring
    have h38 : (38 : ℝ) / q = 38 * (1 / q) := by ring
    rw [hcount] at hle_sum
    rw [h38]
    push_cast at hmono
    linarith

end Artanh

section Exp

def expStep (q x : ℕ) (acc : ℕ × ℕ) (d : ℕ) : ℕ × ℕ :=
  (acc.1 * x / q / d, acc.2 + acc.1 * x / q / d)

noncomputable def expSum (n : ℕ) (x : ℝ) : ℝ := ∑ i ∈ range n, x ^ i / i.factorial

structure ExpBounds (q : ℕ) (x : ℝ) (n : ℕ) (acc : ℕ × ℕ) : Prop where
  term_le : (acc.1 : ℝ) / q ≤ x ^ n / n.factorial
  le_term : x ^ n / n.factorial - 7 / q ≤ (acc.1 : ℝ) / q
  sum_le : (acc.2 : ℝ) / q ≤ expSum (n + 1) x
  le_sum : expSum (n + 1) x - 7 * n / q ≤ (acc.2 : ℝ) / q

variable {q a n : ℕ} {acc : ℕ × ℕ}

theorem expTerm_step {t p x d e : ℝ} (ht : p - 7 * e ≤ t) (hx : 0 ≤ x) (hx' : x ≤ 7 / 10)
    (hd : 1 ≤ d) (he : 0 < e) : p * x / d - 7 * e ≤ (t * x - e) / d - e := by
  have hproduct : (p - 7 * e) * x ≤ t * x := mul_le_mul_of_nonneg_right ht hx
  have hex : e * x ≤ e * (7 / 10) := mul_le_mul_of_nonneg_left hx' he.le
  have hed : e * 1 ≤ e * d := mul_le_mul_of_nonneg_left hd he.le
  have hlost : (7 * (e * x) + e) / d ≤ 6 * e := by
    rw [div_le_iff₀ (by linarith)]
    linarith
  have hsplit : (p * x - (7 * (e * x) + e)) / d ≤ (t * x - e) / d := by
    apply div_le_div_of_nonneg_right
    . linarith
    . linarith
  rw [sub_div] at hsplit
  linarith

theorem expBounds_step (hq : 0 < q) (hx : (a : ℝ) / q ≤ 7 / 10) (h : ExpBounds q (a / q) n acc)
    : ExpBounds q (a / q) (n + 1) (expStep q a acc (n + 1)) := by
  have hq' : (0 : ℝ) < q := by exact_mod_cast hq
  have hε : (0 : ℝ) < 1 / q := by positivity
  have hseven : (7 : ℝ) / q = 7 * (1 / q) := by ring
  have hx0 : (0 : ℝ) ≤ (a : ℝ) / q := by positivity
  have hd : (1 : ℝ) ≤ ((n + 1 : ℕ) : ℝ) := by
    push_cast
    have : (0 : ℝ) ≤ n := by positivity
    linarith
  have hterm : ((a : ℝ) / q) ^ (n + 1) / (n + 1).factorial
      = ((a : ℝ) / q) ^ n / n.factorial * (a / q) / ((n + 1 : ℕ) : ℝ) := by
    rw [Nat.factorial_succ, pow_succ]
    push_cast
    field_simp
  have hterm_le : ((acc.1 * a / q / (n + 1) : ℕ) : ℝ) / q
      ≤ ((a : ℝ) / q) ^ (n + 1) / (n + 1).factorial := by
    rw [hterm]
    apply (div_div_le hq (acc.1 * a / q) (n + 1)).trans
    gcongr
    apply (mul_div_le hq acc.1 a).trans
    exact mul_le_mul_of_nonneg_right h.term_le hx0
  have hle_term : ((a : ℝ) / q) ^ (n + 1) / (n + 1).factorial - 7 / q
      ≤ ((acc.1 * a / q / (n + 1) : ℕ) : ℝ) / q := by
    rw [hterm, hseven]
    have hge := le_div_div hq (acc.1 * a / q) (d := n + 1) (by omega)
    refine le_trans ?_ hge
    have hquotient : ((acc.1 : ℝ) / q * (a / q) - 1 / q) / ((n + 1 : ℕ) : ℝ)
        ≤ ((acc.1 * a / q : ℕ) : ℝ) / q / ((n + 1 : ℕ) : ℝ) := by
      gcongr
      exact le_mul_div hq acc.1 a
    have hle_term' := h.le_term
    rw [hseven] at hle_term'
    have hstep := expTerm_step hle_term' hx0 hx hd hε
    linarith
  have hsum : (((expStep q a acc (n + 1)).2 : ℕ) : ℝ) / q
      = (acc.2 : ℝ) / q + ((acc.1 * a / q / (n + 1) : ℕ) : ℝ) / q := by
    unfold expStep
    rw [Nat.cast_add, add_div]
  have hsucc : expSum (n + 1 + 1) ((a : ℝ) / q)
      = expSum (n + 1) ((a : ℝ) / q) + ((a : ℝ) / q) ^ (n + 1) / (n + 1).factorial := by
    unfold expSum
    rw [sum_range_succ]
  refine ⟨hterm_le, hle_term, ?_, ?_⟩
  . rw [hsum, hsucc]
    exact add_le_add h.sum_le hterm_le
  . rw [hsum, hsucc]
    have hle_sum := h.le_sum
    have hcount : 7 * ((n + 1 : ℕ) : ℝ) / q = 7 * n / q + 7 / q := by
      push_cast
      ring
    linarith

def expLoop (q a : ℕ) (n : ℕ) : ℕ :=
  (((List.range n).map (· + 1)).foldl (expStep q a) (q, q)).2

theorem expBounds_foldl (hq : 0 < q) (hx : (a : ℝ) / q ≤ 7 / 10) (n : ℕ)
    : ExpBounds q (a / q) n (((List.range n).map (· + 1)).foldl (expStep q a) (q, q)) := by
  have hq' : (q : ℝ) ≠ 0 := by
    have : (0 : ℝ) < q := by exact_mod_cast hq
    exact this.ne'
  induction n with
  | zero =>
    have hε : (0 : ℝ) ≤ 7 / q := by positivity
    constructor
    . simp [hq']
    . simpa [hq'] using hε
    . simp [expSum, hq']
    . simp [expSum, hq']
  | succ n ih =>
    rw [List.range_succ, List.map_append, List.foldl_append]
    exact expBounds_step hq hx ih

-- ten terms are enough for nine digits up to 7 / 10
theorem exp_le_expSum {x : ℝ} (hx : 0 ≤ x) (hx' : x ≤ 7 / 10)
    : Real.exp x ≤ expSum 11 x + 6 / 10 ^ 10 := by
  have hle := Real.exp_bound' hx (by linarith) (n := 11) (by norm_num)
  have hpow : x ^ 11 ≤ (7 / 10) ^ 11 := pow_le_pow_left₀ hx hx' 11
  have htail : x ^ 11 * (11 + 1) / ((11 : ℕ).factorial * 11) ≤ 6 / (10 : ℝ) ^ 10 := by
    have hfact : ((11 : ℕ).factorial : ℝ) = 39916800 := by norm_num [Nat.factorial]
    rw [hfact]
    norm_num at hpow ⊢
    linarith
  unfold expSum
  push_cast at hle
  linarith

theorem expLoop_bounds (hq : 0 < q) (hx : (a : ℝ) / q ≤ 7 / 10)
    : ((expLoop q a 10 : ℕ) : ℝ) / q ≤ Real.exp (a / q)
        ∧ Real.exp (a / q) - 6 / 10 ^ 10 - 70 / q ≤ ((expLoop q a 10 : ℕ) : ℝ) / q := by
  have hx0 : (0 : ℝ) ≤ (a : ℝ) / q := by positivity
  have hloop := expBounds_foldl hq hx 10
  have hsum_le := hloop.sum_le
  have hle_sum := hloop.le_sum
  have hexp := Real.sum_le_exp_of_nonneg hx0 11
  have hexp' := exp_le_expSum hx0 hx
  have hcount : (7 : ℝ) * (10 : ℕ) / q = 70 / q := by
    push_cast
    ring
  rw [hcount] at hle_sum
  constructor
  . exact hsum_le.trans hexp
  . unfold expLoop
    linarith

theorem exp_sub_exp_le {a b K : ℝ} (hab : a ≤ b) (hb : Real.exp b ≤ K)
    : Real.exp b - Real.exp a ≤ K * (b - a) := by
  have hfactor : Real.exp a = Real.exp b * Real.exp (a - b) := by
    rw [← Real.exp_add]
    congr 1
    ring
  have hlinear : 1 - Real.exp (a - b) ≤ b - a := by
    have := Real.add_one_le_exp (a - b)
    linarith
  calc
    Real.exp b - Real.exp a = Real.exp b * (1 - Real.exp (a - b)) := by rw [hfactor]; ring
    _ ≤ Real.exp b * (b - a) := mul_le_mul_of_nonneg_left hlinear (Real.exp_pos b).le
    _ ≤ K * (b - a) := mul_le_mul_of_nonneg_right hb (sub_nonneg.mpr hab)

theorem abs_exp_sub_exp_le {a b K : ℝ} (ha : Real.exp a ≤ K) (hb : Real.exp b ≤ K)
    : |Real.exp a - Real.exp b| ≤ K * |a - b| := by
  rcases le_total a b with hab | hba
  . rw [abs_sub_comm, abs_sub_comm a b]
    rw [abs_of_nonneg (sub_nonneg.mpr (Real.exp_le_exp.mpr hab)), abs_of_nonneg (sub_nonneg.mpr hab)]
    exact exp_sub_exp_le hab hb
  . rw [abs_of_nonneg (sub_nonneg.mpr (Real.exp_le_exp.mpr hba)), abs_of_nonneg (sub_nonneg.mpr hba)]
    exact exp_sub_exp_le hba ha

end Exp

end FlooredSeries
