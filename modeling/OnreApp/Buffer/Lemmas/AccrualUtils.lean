import OnreApp.Buffer.Impl.AccrualUtils
import OnreApp.Lib.Rounding
import OnreApp.Lib.Run

namespace OnreApp

open Checked Rounding Run

variable {grossApr previousSupply minted baseline : Nat}

-- the year `Y` of the accrual formula, in seconds times the scale of a yield
def yieldYear : Nat := secondsPerYear * yieldScale

theorem yieldYear_pos : 0 < yieldYear := by decide

theorem calculateGrossBufferAccrual_eq {currentYield secondsElapsed : Nat}
    (h : calculateGrossBufferAccrual previousSupply grossApr currentYield secondsElapsed
      = .ok minted)
    : minted = previousSupply * (grossApr - currentYield) * secondsElapsed /
        (yieldYear + currentYield * secondsElapsed) := by
  unfold calculateGrossBufferAccrual calculateAccrualFromAprDelta at h
  split at h
  . next hzero =>
    cases h
    rcases hzero with hzero | hzero | hzero <;> simp [hzero]
  . simp only [bind_eq_ok, okOr_eq_ok, Option.bind_eq_bind, Option.bind_eq_some_iff,
      checkedMul_eq_some, checkedAdd_eq_some, checkedDiv_eq_some, pure_eq_ok] at h
    rcases h with ⟨_, ⟨_, ⟨_, rfl⟩, _, ⟨_, rfl⟩, _, rfl⟩, _, ⟨_, ⟨_, rfl⟩, _, rfl⟩, _, ⟨_, rfl⟩, _, _,
      rfl⟩
    rfl

/-- Settles the seconds elapsed since the last settlement at the APR active now. -/
def settle (grossApr : Nat) (previousSupply : Nat) (settlement : Nat × Nat) : Result Nat := do
  let (secondsElapsed, currentYield) := settlement
  let minted ← calculateGrossBufferAccrual previousSupply grossApr currentYield secondsElapsed
  return previousSupply + minted

theorem settle_inv {settlement : Nat × Nat}
    (h : settle grossApr previousSupply settlement = .ok baseline)
    : baseline = previousSupply + previousSupply * (grossApr - settlement.2) * settlement.1 /
        (yieldYear + settlement.2 * settlement.1) := by
  simp only [settle, bind_eq_ok, pure_eq_ok] at h
  rcases h with ⟨minted, hminted, rfl⟩
  rw [calculateGrossBufferAccrual_eq hminted]

theorem settle_le {settlement : Nat × Nat}
    (h : settle grossApr previousSupply settlement = .ok baseline)
    : baseline * (yieldYear + settlement.2 * settlement.1)
        ≤ previousSupply * (yieldYear + max grossApr settlement.2 * settlement.1) := by
  rcases settlement with ⟨t, c⟩
  rw [settle_inv h]
  dsimp only
  have hmax : max grossApr c = c + (grossApr - c) := by omega
  calc
    (previousSupply + previousSupply * (grossApr - c) * t / (yieldYear + c * t)) *
        (yieldYear + c * t)
      = previousSupply * (yieldYear + c * t) +
        previousSupply * (grossApr - c) * t / (yieldYear + c * t) * (yieldYear + c * t) :=
      Nat.add_mul _ _ _
    _ ≤ previousSupply * (yieldYear + c * t) + previousSupply * (grossApr - c) * t := by
      apply Nat.add_le_add_left
      apply Nat.div_mul_le_self
    _ = previousSupply * (yieldYear + max grossApr c * t) := by
      rw [hmax]
      ring

theorem run_settle_le {settlements : List (Nat × Nat)}
    (h : run (settle grossApr) previousSupply settlements = .ok baseline)
    : baseline * (settlements.map fun s => yieldYear + s.2 * s.1).prod
        ≤ previousSupply * (settlements.map fun s => yieldYear + max grossApr s.2 * s.1).prod := by
  induction settlements generalizing previousSupply with
  | nil =>
    cases h
    simp
  | cons s settlements ih =>
    unfold run at h
    rw [bind_eq_ok] at h
    rcases h with ⟨next, hnext, hrest⟩
    simp only [List.map_cons, List.prod_cons]
    generalize hrestIn : (settlements.map fun s => yieldYear + s.2 * s.1).prod = growth
    generalize hrestOut :
      (settlements.map fun s => yieldYear + max grossApr s.2 * s.1).prod = grossGrowth
    have hstep := settle_le hnext
    have hih := ih hrest
    rw [hrestIn, hrestOut] at hih
    calc
      baseline * ((yieldYear + s.2 * s.1) * growth)
        = (yieldYear + s.2 * s.1) * (baseline * growth) := by ring
      _ ≤ (yieldYear + s.2 * s.1) * (next * grossGrowth) := Nat.mul_le_mul_left _ hih
      _ = next * (yieldYear + s.2 * s.1) * grossGrowth := by ring
      _ ≤ previousSupply * (yieldYear + max grossApr s.2 * s.1) * grossGrowth :=
        Nat.mul_le_mul_right _ hstep
      _ = previousSupply * ((yieldYear + max grossApr s.2 * s.1) * grossGrowth) := by ring

/--
The bound for any smaller baseline `q`: settlements start from growing baselines, so the induction
has to compare each of them with the first one.
-/
theorem run_settle_ge {currentYield q : Nat} {times : List Nat} (hq : q ≤ previousSupply)
    (h : run (settle grossApr) previousSupply (times.map fun t => (t, currentYield))
      = .ok baseline)
    : previousSupply ≤ baseline ∧
      q * (grossApr - currentYield) * times.sum / (yieldYear + currentYield * times.sum)
        ≤ baseline - previousSupply + (times.length - 1) := by
  induction times generalizing previousSupply with
  | nil =>
    cases h
    simp
  | cons t times ih =>
    rw [List.map_cons] at h
    unfold run at h
    rw [bind_eq_ok] at h
    rcases h with ⟨next, hnext, hrest⟩
    have hnext := settle_inv hnext
    dsimp only at hnext
    have hgrows : previousSupply ≤ next := by
      rw [hnext]
      apply Nat.le_add_right
    rcases ih (Nat.le_trans hq hgrows) hrest with ⟨hle, hih⟩
    have hfirst : q * (grossApr - currentYield) * t / (yieldYear + currentYield * t)
        ≤ next - previousSupply := by
      rw [hnext, Nat.add_sub_cancel_left]
      apply Nat.div_le_div_right
      apply Nat.mul_le_mul_right
      apply Nat.mul_le_mul_right
      exact hq
    clear hnext
    refine ⟨Nat.le_trans hgrows hle, ?_⟩
    cases times with
    | nil =>
      cases hrest
      simpa using hfirst
    | cons t' times =>
      have hsplit := discounted_add_le (q * (grossApr - currentYield)) yieldYear currentYield t
        (t' :: times).sum yieldYear_pos
      rw [List.sum_cons]
      simp only [List.length_cons] at hih ⊢
      omega

theorem settlements_bounded (grossApr previousSupply : Nat)
    : (∀ (settlements : List (Nat × Nat)) (baseline : Nat),
        run (settle grossApr) previousSupply settlements = .ok baseline →
        baseline * (settlements.map fun s => yieldYear + s.2 * s.1).prod
          ≤ previousSupply * (settlements.map fun s => yieldYear + max grossApr s.2 * s.1).prod) ∧
      (∀ (currentYield : Nat) (times : List Nat) (baseline atOnce : Nat),
        run (settle grossApr) previousSupply (times.map fun t => (t, currentYield))
          = .ok baseline →
        calculateGrossBufferAccrual previousSupply grossApr currentYield times.sum = .ok atOnce →
        previousSupply ≤ baseline ∧
          atOnce - (times.length - 1) ≤ baseline - previousSupply) := by
  constructor
  . intro settlements baseline hrun
    exact run_settle_le hrun
  . intro currentYield times baseline atOnce hrun hatOnce
    rcases run_settle_ge (Nat.le_refl _) hrun with ⟨hle, hbound⟩
    rw [← calculateGrossBufferAccrual_eq hatOnce] at hbound
    exact ⟨hle, by omega⟩

theorem settlements_bounded_daily
    : run (settle 50000) 1000000000000 [(86400, 36500), (86400, 36500)] = .ok 1000073966573 ∧
      calculateGrossBufferAccrual 1000000000000 50000 36500 172800 = .ok 73957811 ∧
      1000073966573 * ([(86400, 36500), (86400, 36500)].map fun s => yieldYear + s.2 * s.1).prod
        ≤ 1000000000000 *
          ([(86400, 36500), (86400, 36500)].map fun s => yieldYear + max 50000 s.2 * s.1).prod ∧
      73957811 - 1 ≤ 1000073966573 - 1000000000000 := by
  have hrun : run (settle 50000) 1000000000000 [(86400, 36500), (86400, 36500)]
      = .ok 1000073966573 := by
    rw [← toOption_eq_some]
    decide +kernel
  have hatOnce : calculateGrossBufferAccrual 1000000000000 50000 36500 172800
      = .ok 73957811 := by
    rw [← toOption_eq_some]
    decide +kernel
  rcases settlements_bounded 50000 1000000000000 with ⟨hupper, hlower⟩
  exact ⟨hrun, hatOnce, hupper _ _ hrun, (hlower 36500 [86400, 86400] _ _ hrun hatOnce).2⟩

end OnreApp
