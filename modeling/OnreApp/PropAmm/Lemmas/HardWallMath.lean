import OnreApp.Lib.Rounding
import OnreApp.PropAmm.Impl.HardWallMath

/-!
The power of the sell curve is monotone in the utilization. Within one octave the approximations are
compositions of monotone operations; between octaves it takes that neither of them overshoots the
next power of two.
-/

namespace OnreApp

open Checked

theorem bpsToHardWallScale_inv {bps scaled : Nat} (h : bpsToHardWallScale bps = .ok scaled) :
    scaled = hardWallScale * bps / maxBasisPoints := by
  simp only [bpsToHardWallScale, bind_eq_ok, okOr_eq_ok, checkedMul_eq_some,
    checkedDiv_eq_some] at h
  rcases h with ⟨_, ⟨_, rfl⟩, _, rfl⟩
  rfl

theorem mulScaledSaturating_eq (lhs rhs : Nat) :
    mulScaledSaturating lhs rhs = min (lhs * rhs) u128Max / hardWallScale := by
  simp [mulScaledSaturating, checkedDiv, saturatingMul, hardWallScale]

theorem mulScaledSaturating_le {lhs lhs' rhs rhs' : Nat} (h1 : lhs ≤ lhs') (h2 : rhs ≤ rhs') :
    mulScaledSaturating lhs rhs ≤ mulScaledSaturating lhs' rhs' := by
  rw [mulScaledSaturating_eq, mulScaledSaturating_eq]
  apply Nat.div_le_div_right
  apply saturatingMul_le_saturatingMul h1 h2

theorem integerUtilizationPowerScaled_le {u u' : Nat} (h : u ≤ u') (exponent : Nat) :
    integerUtilizationPowerScaled u exponent ≤ integerUtilizationPowerScaled u' exponent := by
  unfold integerUtilizationPowerScaled
  induction exponent with
  | zero => simp
  | succ exponent ih =>
    rw [Function.iterate_succ_apply', Function.iterate_succ_apply']
    apply mulScaledSaturating_le ih h

theorem integerUtilizationPowerScaled_hardWallScale (exponent : Nat) :
    integerUtilizationPowerScaled hardWallScale exponent = hardWallScale := by
  unfold integerUtilizationPowerScaled
  apply Function.iterate_fixed
  decide

theorem shiftRight_le {a b : Nat} (h : a ≤ b) (n : Nat) : a >>> n ≤ b >>> n := by
  rw [Nat.shiftRight_eq_div_pow, Nat.shiftRight_eq_div_pow]
  apply Nat.div_le_div_right h

namespace log2IntegerQ

theorem mantissaQ_eq (value : Nat) :
    mantissaQ value =
      if powApproxQShift ≤ value.log2 then
        value / 2 ^ (value.log2 - powApproxQShift)
      else
        value * 2 ^ (powApproxQShift - value.log2) := by
  unfold mantissaQ
  dsimp only
  split
  . rw [if_pos (by omega)]
    rw [Nat.shiftRight_eq_div_pow]
    congr 2
    omega
  . rw [if_neg (by omega)]
    rw [Nat.shiftLeft_eq]
    congr 2
    omega

theorem le_mantissaQ {value : Nat} (h : value ≠ 0) : powApproxQ ≤ mantissaQ value := by
  have hlow := Nat.log2_self_le h
  rw [mantissaQ_eq]
  unfold powApproxQ
  rw [Nat.one_shiftLeft]
  split
  . next hle =>
    rw [Nat.le_div_iff_mul_le (Nat.two_pow_pos _)]
    rw [← Nat.pow_add]
    rw [Nat.add_sub_cancel' hle]
    exact hlow
  . next hlt =>
    calc
      2 ^ powApproxQShift = 2 ^ value.log2 * 2 ^ (powApproxQShift - value.log2) := by
        rw [← Nat.pow_add]
        congr 1
        omega
      _ ≤ value * 2 ^ (powApproxQShift - value.log2) := Nat.mul_le_mul_right _ hlow

theorem mantissaQ_lt (value : Nat) : mantissaQ value < 2 * powApproxQ := by
  have hhigh := @Nat.lt_log2_self value
  rw [mantissaQ_eq]
  unfold powApproxQ
  rw [Nat.one_shiftLeft]
  rw [← Nat.pow_succ']
  split
  . next hle =>
    rw [Nat.div_lt_iff_lt_mul (Nat.two_pow_pos _)]
    rw [← Nat.pow_add]
    have : powApproxQShift + 1 + (value.log2 - powApproxQShift) = value.log2 + 1 := by omega
    rw [this]
    exact hhigh
  . next hlt =>
    have : powApproxQShift.succ = value.log2 + 1 + (powApproxQShift - value.log2) := by omega
    rw [this]
    rw [Nat.pow_add]
    apply Nat.mul_lt_mul_of_pos_right hhigh (Nat.two_pow_pos _)

theorem mantissaQ_le {value value' : Nat} (h : value ≤ value') (hlog : value.log2 = value'.log2) :
    mantissaQ value ≤ mantissaQ value' := by
  rw [mantissaQ_eq, mantissaQ_eq]
  rw [hlog]
  split
  . apply Nat.div_le_div_right h
  . apply Nat.mul_le_mul_right _ h

theorem addTerm_le {z2 z2' : Nat} (hz : z2 ≤ z2') {acc acc' : Nat × Nat} (hacc : acc ≤ acc')
    (divisor : Nat) : addTerm z2 acc divisor ≤ addTerm z2' acc' divisor := by
  have hterm :
      saturatingMul u128Max acc.1 z2 >>> powApproxQShift
        ≤
      saturatingMul u128Max acc'.1 z2' >>> powApproxQShift := by
    apply shiftRight_le
    apply saturatingMul_le_saturatingMul hacc.1 hz
  constructor
  . exact hterm
  . apply saturatingAdd_le_saturatingAdd hacc.2
    apply Nat.div_le_div_right hterm

theorem sum_le {z z' : Nat} (h : z ≤ z') (divisors : List Nat) :
    (divisors.foldl (addTerm (saturatingMul u128Max z z >>> powApproxQShift)) (z, z)).2
      ≤
    (divisors.foldl (addTerm (saturatingMul u128Max z' z' >>> powApproxQShift)) (z', z')).2 := by
  have hz2 :
      saturatingMul u128Max z z >>> powApproxQShift
        ≤
      saturatingMul u128Max z' z' >>> powApproxQShift := by
    apply shiftRight_le
    apply saturatingMul_le_saturatingMul h h
  have hfold := List.foldl_rel (r := (· ≤ ·)) (l := divisors) (a := (z, z)) (b := (z', z'))
    ⟨h, h⟩ (fun divisor _ _ _ hacc => addTerm_le hz2 hacc divisor)
  exact hfold.2

theorem z_le {m m' : Nat} (hm : powApproxQ ≤ m) (h : m ≤ m') (hm' : m' < 2 * powApproxQ) :
    saturatingMul u128Max (m - powApproxQ) powApproxQ / saturatingAdd u128Max m powApproxQ
      ≤
    saturatingMul u128Max (m' - powApproxQ) powApproxQ
      / saturatingAdd u128Max m' powApproxQ := by
  have hq : powApproxQ = 1099511627776 := rfl
  rw [hq] at hm hm' ⊢
  rcases Nat.exists_eq_add_of_le hm with ⟨a, rfl⟩
  rcases Nat.exists_eq_add_of_le h with ⟨b, rfl⟩
  unfold saturatingMul saturatingAdd u128Max
  rw [Nat.min_eq_left (by omega), Nat.min_eq_left (by omega)]
  rw [Nat.min_eq_left (by omega), Nat.min_eq_left (by omega)]
  apply Rounding.div_le_div_of_cross (by omega) (by omega)
  generalize 1099511627776 = q
  calc
    (q + a - q) * q * (q + a + b + q) = (2 * q * a + a * (a + b)) * q := by
        rw [Nat.add_sub_cancel_left]
        ring
    _ ≤ (2 * q * (a + b) + a * (a + b)) * q := by
        apply Nat.mul_le_mul_right
        apply Nat.add_le_add_right
        apply Nat.mul_le_mul_left
        omega
    _ = (q + a + b - q) * q * (q + a + q) := by
        rw [Nat.add_assoc, Nat.add_sub_cancel_left]
        ring

theorem fractionalQ_le {m m' : Nat} (hm : powApproxQ ≤ m) (h : m ≤ m')
    (hm' : m' < 2 * powApproxQ) : fractionalQ m ≤ fractionalQ m' := by
  unfold fractionalQ
  apply shiftRight_le
  apply saturatingMul_le_saturatingMul _ (Nat.le_refl _)
  apply saturatingMul_le_saturatingMul _ (Nat.le_refl _)
  apply sum_le
  apply z_le hm h hm'

theorem fractionalQ_lt {m : Nat} (hm : powApproxQ ≤ m) (hm' : m < 2 * powApproxQ) :
    fractionalQ m < powApproxQ := by
  have hle : fractionalQ m ≤ fractionalQ (2 * powApproxQ - 1) := by
    apply fractionalQ_le hm (by omega)
    decide
  have hlt : fractionalQ (2 * powApproxQ - 1) < powApproxQ := by decide
  omega

end log2IntegerQ

theorem log2IntegerQ_eq {value : Nat} (hne : value ≠ 0) (h : value ≤ u128Max) :
    log2IntegerQ value =
      value.log2 * powApproxQ + log2IntegerQ.fractionalQ (log2IntegerQ.mantissaQ value) := by
  have hlog : value.log2 < 128 := by
    rw [Nat.log2_lt hne]
    unfold u128Max at h
    omega
  have hfrac := log2IntegerQ.fractionalQ_lt (log2IntegerQ.le_mantissaQ hne)
    (log2IntegerQ.mantissaQ_lt value)
  have hq : powApproxQ = 1099511627776 := rfl
  rw [hq] at hfrac ⊢
  unfold log2IntegerQ saturatingAddInt saturatingMulInt i128Min i128Max
  dsimp only
  rw [hq]
  omega

theorem log2IntegerQ_le {value value' : Nat} (hne : value ≠ 0) (h : value ≤ value')
    (h' : value' ≤ u128Max) : log2IntegerQ value ≤ log2IntegerQ value' := by
  have hne' : value' ≠ 0 := by omega
  have hfrac := log2IntegerQ.fractionalQ_lt (log2IntegerQ.le_mantissaQ hne)
    (log2IntegerQ.mantissaQ_lt value)
  rw [log2IntegerQ_eq hne (by omega)]
  rw [log2IntegerQ_eq hne' h']
  have hq : powApproxQ = 1099511627776 := rfl
  have hlog := Rounding.log2_le_log2 hne h
  cases Nat.lt_or_eq_of_le hlog with
  | inl hlt =>
    rw [hq] at hfrac ⊢
    omega
  | inr heq =>
    have hmantissa := log2IntegerQ.mantissaQ_le h heq
    have := log2IntegerQ.fractionalQ_le (log2IntegerQ.le_mantissaQ hne) hmantissa
      (log2IntegerQ.mantissaQ_lt value')
    rw [heq]
    omega

theorem log2IntegerQ_hardWallScale : log2IntegerQ hardWallScale = log2HardWallScaleQ := by
  decide

theorem log2HardWallScaledQ_le {value value' : Nat} (hne : value ≠ 0) (h : value ≤ value')
    (h' : value' ≤ u128Max) : log2HardWallScaledQ value ≤ log2HardWallScaledQ value' := by
  have := log2IntegerQ_le hne h h'
  unfold log2HardWallScaledQ
  omega

theorem log2HardWallScaledQ_bounds {value : Nat} (hne : value ≠ 0) (h : value ≤ u128Max) :
    -log2HardWallScaleQ ≤ log2HardWallScaledQ value ∧
      log2HardWallScaledQ value < 128 * powApproxQ := by
  have hlog : value.log2 < 128 := by
    rw [Nat.log2_lt hne]
    unfold u128Max at h
    omega
  have hfrac := log2IntegerQ.fractionalQ_lt (log2IntegerQ.le_mantissaQ hne)
    (log2IntegerQ.mantissaQ_lt value)
  have hq : powApproxQ = 1099511627776 := rfl
  unfold log2HardWallScaledQ log2HardWallScaleQ
  rw [log2IntegerQ_eq hne h]
  rw [hq] at hfrac ⊢
  omega

namespace exp2HardWallScaledQ

theorem addTerm_le {x x' : Nat} (hx : x ≤ x') {acc acc' : Nat × Nat} (hacc : acc ≤ acc')
    (divisor : Nat) : addTerm x acc divisor ≤ addTerm x' acc' divisor := by
  have hterm :
      (saturatingMul u128Max acc.1 x >>> powApproxQShift) / divisor
        ≤
      (saturatingMul u128Max acc'.1 x' >>> powApproxQShift) / divisor := by
    apply Nat.div_le_div_right
    apply shiftRight_le
    apply saturatingMul_le_saturatingMul hacc.1 hx
  exact ⟨hterm, saturatingAdd_le_saturatingAdd hacc.2 hterm⟩

theorem scaled_le {f f' : Nat} (h : f ≤ f') : scaled f ≤ scaled f' := by
  unfold scaled
  apply shiftRight_le
  apply saturatingMul_le_saturatingMul _ (Nat.le_refl _)
  have hx :
      saturatingMul u128Max f powApproxLn2Q >>> powApproxQShift
        ≤
      saturatingMul u128Max f' powApproxLn2Q >>> powApproxQShift := by
    apply shiftRight_le
    apply saturatingMul_le_saturatingMul h (Nat.le_refl _)
  have hfold := List.foldl_rel (r := (· ≤ ·)) (l := [1, 2, 3, 4, 5, 6, 7, 8, 9, 10])
    (le_refl (powApproxQ, powApproxQ))
    (fun divisor _ _ _ hacc => addTerm_le hx hacc divisor)
  exact hfold.2

theorem hardWallScale_le_scaled (f : Nat) : hardWallScale ≤ scaled f := by
  have : scaled 0 = hardWallScale := by decide
  rw [← this]
  apply scaled_le (Nat.zero_le f)

theorem scaled_le_two_mul {f : Nat} (h : f < powApproxQ) : scaled f ≤ 2 * hardWallScale := by
  have hlast : scaled (powApproxQ - 1) ≤ 2 * hardWallScale := by decide
  have hle : scaled f ≤ scaled (powApproxQ - 1) := scaled_le (by omega)
  omega

theorem shiftBy_eq {a : Nat} {k : Int} (ha : a ≠ 0) (ha' : a ≤ 2 * hardWallScale)
    (hk : -4294967296 < k) (hk' : k < 4294967296) :
    shiftBy a k =
      if 0 ≤ k then min (a * 2 ^ k.toNat) u128Max else a / 2 ^ (-k).toNat := by
  unfold shiftBy truncU32
  dsimp only
  split
  . rw [Nat.mod_eq_of_lt (by omega)]
    split
    . next hbig =>
      have hpow : 2 ^ 128 ≤ 2 ^ k.toNat := Nat.pow_le_pow_right (by omega) hbig
      have hmul := Nat.le_mul_of_pos_left (2 ^ k.toNat) (Nat.pos_of_ne_zero ha)
      rw [Nat.min_eq_right]
      unfold u128Max
      omega
    . rw [Nat.shiftRight_eq_div_pow, Nat.shiftLeft_eq]
      have hfit := @Nat.div_lt_iff_lt_mul _ u128Max a (Nat.two_pow_pos k.toNat)
      split <;> omega
  . rw [Nat.mod_eq_of_lt (by omega)]
    split
    . next hbig =>
      have hpow : 2 ^ 128 ≤ 2 ^ (-k).toNat := Nat.pow_le_pow_right (by omega) hbig
      rw [Nat.div_eq_of_lt]
      unfold hardWallScale at ha'
      omega
    . rw [Nat.shiftRight_eq_div_pow]

theorem shiftBy_le {a b : Nat} {k k' : Int} (ha : hardWallScale ≤ a) (ha' : a ≤ 2 * hardWallScale)
    (hb : hardWallScale ≤ b) (hb' : b ≤ 2 * hardWallScale) (hk : -4294967296 < k) (hle : k ≤ k')
    (hk' : k' < 4294967296) (hab : k = k' → a ≤ b) : shiftBy a k ≤ shiftBy b k' := by
  have hs : hardWallScale = 1000000000000 := rfl
  rw [shiftBy_eq (by omega) ha' hk (by omega)]
  rw [shiftBy_eq (by omega) hb' (by omega) hk']
  cases lt_or_eq_of_le hle with
  | inr heq =>
    subst heq
    split
    . have := Nat.mul_le_mul_right (2 ^ k.toNat) (hab rfl)
      omega
    . apply Nat.div_le_div_right (hab rfl)
  | inl hlt =>
    split
    . next hpos =>
      rw [if_pos (by omega)]
      have hpow : 2 ^ (k.toNat + 1) ≤ 2 ^ k'.toNat := Nat.pow_le_pow_right (by omega) (by omega)
      have hmul : a * 2 ^ k.toNat ≤ b * 2 ^ k'.toNat := by
        calc
          a * 2 ^ k.toNat ≤ (2 * b) * 2 ^ k.toNat := Nat.mul_le_mul_right _ (by omega)
          _ = b * 2 ^ (k.toNat + 1) := by rw [Nat.pow_succ]; ring
          _ ≤ b * 2 ^ k'.toNat := Nat.mul_le_mul_left _ hpow
      omega
    . next hneg =>
      have hpow : 2 ^ 1 ≤ 2 ^ (-k).toNat := Nat.pow_le_pow_right (by omega) (by omega)
      have hhalf : a / 2 ^ (-k).toNat ≤ b := by
        calc
          a / 2 ^ (-k).toNat ≤ a / 2 ^ 1 := Nat.div_le_div_left hpow (by omega)
          _ ≤ b := by omega
      split
      . have := Nat.le_mul_of_pos_right b (Nat.two_pow_pos k'.toNat)
        unfold u128Max
        omega
      . next hneg' =>
        have hpow' : 2 ^ ((-k').toNat + 1) ≤ 2 ^ (-k).toNat :=
          Nat.pow_le_pow_right (by omega) (by omega)
        calc
          a / 2 ^ (-k).toNat ≤ a / 2 ^ ((-k').toNat + 1) :=
            Nat.div_le_div_left hpow' (Nat.two_pow_pos _)
          _ = a / 2 / 2 ^ (-k').toNat := by rw [Nat.pow_succ', Nat.div_div_eq_div_mul]
          _ ≤ b / 2 ^ (-k').toNat := Nat.div_le_div_right (by omega)

end exp2HardWallScaledQ

theorem exp2HardWallScaledQ_eq (l : Int) :
    exp2HardWallScaledQ l =
      exp2HardWallScaledQ.shiftBy (exp2HardWallScaledQ.scaled (l % powApproxQ).toNat)
        (l / powApproxQ) := by
  -- correcting a negative remainder turns the truncating division into a flooring one
  have hq : (powApproxQ : Int) = 1099511627776 := rfl
  unfold exp2HardWallScaledQ
  dsimp only
  rw [hq]
  have hdiv := Int.mul_tdiv_add_tmod l 1099511627776
  have hlt := Int.tmod_lt_of_pos l (b := 1099511627776) (by omega)
  have hgt := Int.lt_tmod_of_pos l (b := 1099511627776) (by omega)
  generalize l.tdiv 1099511627776 = d at *
  generalize l.tmod 1099511627776 = r at *
  split
  . congr 3 <;> omega
  . congr 3 <;> omega

theorem exp2HardWallScaledQ_le {l l' : Int} (h : l ≤ l')
    (hlow : -1099511627776000000 ≤ l) (hhigh : l' ≤ 1099511627776000000) :
    exp2HardWallScaledQ l ≤ exp2HardWallScaledQ l' := by
  have hq : (powApproxQ : Int) = 1099511627776 := rfl
  have hf : ∀ (i : Int), (i % 1099511627776).toNat < powApproxQ := by omega
  rw [exp2HardWallScaledQ_eq, exp2HardWallScaledQ_eq]
  rw [hq]
  apply exp2HardWallScaledQ.shiftBy_le
  . apply exp2HardWallScaledQ.hardWallScale_le_scaled
  . apply exp2HardWallScaledQ.scaled_le_two_mul
    apply hf
  . apply exp2HardWallScaledQ.hardWallScale_le_scaled
  . apply exp2HardWallScaledQ.scaled_le_two_mul
    apply hf
  . omega
  . omega
  . omega
  . intro heq
    apply exp2HardWallScaledQ.scaled_le
    omega

theorem utilizationPowerScaled_inv {u exponent power : Nat}
    (h : utilizationPowerScaled u exponent = .ok power) :
    exponent ≤ 100000 ∧
      power =
        if exponent = 0 then
          hardWallScale
        else if u = 0 then
          0
        else if exponent % curveExponentScale = 0 then
          integerUtilizationPowerScaled u (exponent / curveExponentScale)
        else
          exp2HardWallScaledQ ((log2HardWallScaledQ u * exponent).tdiv curveExponentScale) := by
  unfold utilizationPowerScaled validateCurveExponentScaled at h
  simp only [bind_eq_ok, require_eq_ok] at h
  rcases h with ⟨_, ⟨_, hle, _⟩, h⟩
  constructor
  . exact hle
  split at h
  . next hzero =>
    rw [if_pos hzero]
    exact (pure_eq_ok.mp h).symm
  . next hzero =>
    rw [if_neg hzero]
    split at h
    . next hu =>
      rw [if_pos hu]
      exact (pure_eq_ok.mp h).symm
    . next hu =>
      rw [if_neg hu]
      split at h
      -- at the scale itself both powers give the scale, so its own branch adds no case
      . next hscale =>
        rw [← pure_eq_ok.mp h]
        rw [hscale]
        rw [integerUtilizationPowerScaled_hardWallScale]
        unfold log2HardWallScaledQ
        rw [log2IntegerQ_hardWallScale]
        rw [Int.sub_self, Int.zero_mul, Int.zero_tdiv]
        split
        . rfl
        . decide
      . split at h
        . next hint =>
          rw [if_pos hint]
          exact (pure_eq_ok.mp h).symm
        . next hint =>
          rw [if_neg hint]
          simp only [bind_eq_ok, okOr_eq_ok, checkedMulInt_eq_some, pure_eq_ok] at h
          rcases h with ⟨_, ⟨_, rfl⟩, rfl⟩
          rfl

theorem log2HardWallScaledQ_product_bounds {u exponent : Nat} (hne : u ≠ 0) (hu : u ≤ u128Max)
    (he : exponent ≤ 100000) :
    -(140737488355328 * 100000) ≤ log2HardWallScaledQ u * exponent ∧
      log2HardWallScaledQ u * exponent ≤ 140737488355328 * 100000 := by
  have hbounds := log2HardWallScaledQ_bounds hne hu
  have hq : (powApproxQ : Int) = 1099511627776 := rfl
  rw [hq] at hbounds
  unfold log2HardWallScaleQ at hbounds
  generalize log2HardWallScaledQ u = l at *
  constructor
  . apply Int.le_of_neg_le_neg
    rw [← Int.neg_mul, Int.neg_neg]
    apply Int.mul_le_mul <;> omega
  . apply Int.mul_le_mul <;> omega

theorem exponentiatedLogQ_bounds {u exponent : Nat} (hne : u ≠ 0) (hu : u ≤ u128Max)
    (he : exponent ≤ 100000) :
    -1099511627776000000 ≤ (log2HardWallScaledQ u * exponent).tdiv curveExponentScale ∧
      (log2HardWallScaledQ u * exponent).tdiv curveExponentScale ≤ 1099511627776000000 := by
  rcases log2HardWallScaledQ_product_bounds hne hu he with ⟨hlow, hhigh⟩
  have hscale : (curveExponentScale : Int) = 10000 := rfl
  rw [hscale]
  constructor
  . apply Int.le_trans (by decide) (Int.tdiv_le_tdiv (by omega) hlow)
  . apply Int.le_trans (Int.tdiv_le_tdiv (by omega) hhigh) (by decide)

theorem checkedMulInt_log2_eq {u exponent : Nat} (hne : u ≠ 0) (hu : u ≤ u128Max)
    (he : exponent ≤ 100000) :
    checkedMulInt i128Min i128Max (log2HardWallScaledQ u) exponent
      =
    some (log2HardWallScaledQ u * exponent) := by
  have hbounds := log2HardWallScaledQ_product_bounds hne hu he
  rw [checkedMulInt_eq_some]
  unfold i128Min i128Max
  omega

theorem utilizationPowerScaled_eq {u exponent : Nat} (hu : u ≤ u128Max) (he : exponent ≤ 100000)
    (hstep : exponent % curveExponentStep = 0) :
    utilizationPowerScaled u exponent = .ok (
      if exponent = 0 then
        hardWallScale
      else if u = 0 then
        0
      else if exponent % curveExponentScale = 0 then
        integerUtilizationPowerScaled u (exponent / curveExponentScale)
      else
        exp2HardWallScaledQ ((log2HardWallScaledQ u * exponent).tdiv curveExponentScale)) := by
  have hok : ∃ power, utilizationPowerScaled u exponent = .ok power := by
    have hvalid : validateCurveExponentScaled exponent = .ok () := by
      simp only [validateCurveExponentScaled, bind_eq_ok, require_eq_ok]
      exact ⟨(), he, hstep⟩
    unfold utilizationPowerScaled
    rw [hvalid]
    rw [ok_bind]
    split
    . exact ⟨_, rfl⟩
    . split
      . exact ⟨_, rfl⟩
      . next hne =>
        split
        . exact ⟨_, rfl⟩
        . split
          . exact ⟨_, rfl⟩
          . dsimp only
            rw [checkedMulInt_log2_eq hne hu he]
            exact ⟨_, rfl⟩
  rcases hok with ⟨power, hpower⟩
  rw [hpower]
  rw [(utilizationPowerScaled_inv hpower).2]

theorem utilizationPowerScaled_hardWallScale {exponent : Nat} (he : exponent ≤ 100000)
    (hstep : exponent % curveExponentStep = 0) :
    utilizationPowerScaled hardWallScale exponent = .ok hardWallScale := by
  have hvalid : validateCurveExponentScaled exponent = .ok () := by
    simp only [validateCurveExponentScaled, bind_eq_ok, require_eq_ok]
    exact ⟨(), he, hstep⟩
  unfold utilizationPowerScaled
  rw [hvalid]
  rw [ok_bind]
  split
  . rfl
  . rfl

theorem utilizationPowerScaled_le {u u' exponent power power' : Nat} (h : u ≤ u')
    (hu' : u' ≤ u128Max) (hpower : utilizationPowerScaled u exponent = .ok power)
    (hpower' : utilizationPowerScaled u' exponent = .ok power') : power ≤ power' := by
  rcases utilizationPowerScaled_inv hpower with ⟨he, hval⟩
  rcases utilizationPowerScaled_inv hpower' with ⟨_, hval'⟩
  rw [hval, hval']
  split
  . apply Nat.le_refl _
  . split
    . apply Nat.zero_le _
    . next hne =>
      have hne' : u' ≠ 0 := by omega
      rw [if_neg hne']
      split
      . apply integerUtilizationPowerScaled_le h _
      . apply exp2HardWallScaledQ_le
        . apply Int.tdiv_le_tdiv (by decide)
          apply Int.mul_le_mul_of_nonneg_right (log2HardWallScaledQ_le hne h hu') (by omega)
        . exact (exponentiatedLogQ_bounds hne (by omega) he).1
        . exact (exponentiatedLogQ_bounds hne' hu' he).2

theorem utilizationPowerScaled_monotone_pinned {exponent u u' : Nat}
    (hstep : exponent % 1000 = 0) (hhigh : exponent ≤ 100000) (h : u ≤ u') (hu' : u' < 2 ^ 105) :
    ∃ (power power' : Nat),
      utilizationPowerScaled u exponent = .ok power ∧
        utilizationPowerScaled u' exponent = .ok power' ∧
        power ≤ power' ∧
        (u ≤ hardWallScale → power ≤ hardWallScale) ∧
        (hardWallScale ≤ u → hardWallScale ≤ power) := by
  have hfits : u' ≤ u128Max := by
    unfold u128Max
    omega
  have hpower := utilizationPowerScaled_eq (Nat.le_trans h hfits) hhigh hstep
  have hpower' := utilizationPowerScaled_eq hfits hhigh hstep
  have hpinned := utilizationPowerScaled_hardWallScale hhigh hstep
  refine ⟨_, _, hpower, hpower', ?_, ?_, ?_⟩
  . apply utilizationPowerScaled_le h hfits hpower hpower'
  . intro hle
    apply utilizationPowerScaled_le hle (by decide) hpower hpinned
  . intro hge
    apply utilizationPowerScaled_le hge (Nat.le_trans h hfits) hpinned hpower

theorem utilizationPowerScaled_monotone_pinned_example :
    ∃ (power power' : Nat),
      utilizationPowerScaled 500000000000 15000 = .ok power ∧
        utilizationPowerScaled 3000000000000 15000 = .ok power' ∧
        power ≤ power' ∧
        (500000000000 ≤ hardWallScale → power ≤ hardWallScale) ∧
        (hardWallScale ≤ 500000000000 → hardWallScale ≤ power) :=
  utilizationPowerScaled_monotone_pinned (by decide) (by decide) (by decide) (by decide)

end OnreApp
