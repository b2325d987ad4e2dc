import OnreApp.Lib.Run
import OnreApp.Lib.Timeline
import OnreApp.Program
import OnreApp.PropAmm.Lemmas.Pricing
import OnreApp.PropAmm.Lemmas.VolumeTracker

/-!
How recorded trades change the sell pressure. `pressure` is what a preview reads of a tracker while
its clock runs forward, `rolled` is the tracker a record writes to.
-/

namespace OnreApp

open Checked Run Timeline

namespace PropAmmPairState

variable {pair pair' : PropAmmPairState} {t t₁ t₂ : Int} {n : Nat}

def currentNet (pair : PropAmmPairState) : Nat := pair.currSellValueStable - pair.currBuyValueStable

def decayed (pair : PropAmmPairState) (net : Nat) (age : Int) : Nat :=
  net * (pair.epochDurationSeconds - age).toNat / pair.epochDurationSeconds.toNat

def pressure (pair : PropAmmPairState) (t : Int) : Nat :=
  if t < pair.epochStart + pair.epochDurationSeconds then
    pair.decayed pair.prevNetSellValueStable (t - pair.epochStart) + pair.currentNet
  else if t < pair.epochStart + 2 * pair.epochDurationSeconds then
    pair.currentNet
  else
    0

def rolled (pair : PropAmmPairState) (t : Int) : PropAmmPairState :=
  if t < pair.epochStart + pair.epochDurationSeconds then
    pair
  else if t < pair.epochStart + 2 * pair.epochDurationSeconds then
    pair.restart t pair.currentNet
  else
    pair.restart t 0

structure Running (pair : PropAmmPairState) (t : Int) : Prop where
  duration : 0 < pair.epochDurationSeconds
  started : 0 < pair.epochStart
  forward : pair.epochStart ≤ t
  -- timestamps are `i64`
  bounded : t ≤ i64Max

theorem Running.mono (h : pair.Running t₁) (hle : t₁ ≤ t₂) (hbounded : t₂ ≤ i64Max)
    : pair.Running t₂ where
  duration := h.duration
  started := h.started
  forward := Int.le_trans h.forward hle
  bounded := hbounded

theorem Running.sub_epochStart (h : pair.Running t)
    : checkedSubInt i64Min i64Max t pair.epochStart = some (t - pair.epochStart) := by
  have := h.started
  have := h.forward
  have := h.bounded
  rw [checkedSubInt_eq_some]
  unfold i64Min
  omega

theorem Running.twice_le (h : pair.Running t)
    : saturatingMulInt i64Min i64Max pair.epochDurationSeconds 2 ≤ t - pair.epochStart ↔
      ¬t < pair.epochStart + 2 * pair.epochDurationSeconds := by
  -- doubling saturates only for durations no two timestamps are apart
  have := h.duration
  have := h.started
  have := h.bounded
  unfold saturatingMulInt
  unfold i64Min i64Max at *
  omega

theorem decayed_zero (hd : 0 < pair.epochDurationSeconds) : pair.decayed n 0 = n := by
  unfold decayed
  rw [Int.sub_zero]
  apply Nat.mul_div_cancel
  omega

theorem decayed_le (ht : 0 ≤ t) : pair.decayed n t ≤ n := by
  unfold decayed
  apply Nat.div_le_of_le_mul
  rw [Nat.mul_comm]
  apply Nat.mul_le_mul_right
  omega

section Preview

theorem Running.volumes (h : pair.Running t)
    : ∃ (prevNet currNet : Nat) (elapsed : Int),
        previewVolumes pair t = .ok (prevNet, currNet, elapsed) ∧
        0 ≤ elapsed ∧ elapsed ≤ pair.epochDurationSeconds ∧
        (prevNet = pair.prevNetSellValueStable ∨ prevNet ≤ pair.currentNet) ∧
        currNet ≤ pair.currentNet ∧
        pair.decayed prevNet elapsed + currNet = pair.pressure t := by
  have hd := h.duration
  have hstart := h.started
  have hforward := h.forward
  have htwice := h.twice_le
  have hfresh : ¬(pair.epochStart = 0 ∨ t < pair.epochStart) := by omega
  unfold previewVolumes pressure
  dsimp only
  rw [if_neg hfresh, h.sub_epochStart, okOr_some, ok_bind]
  split
  . next htwo =>
    rw [htwice] at htwo
    refine ⟨0, 0, 0, rfl, Int.le_refl _, by omega, .inr (Nat.zero_le _), Nat.zero_le _, ?_⟩
    rw [if_neg (by omega), if_neg htwo, decayed_zero hd]
  . next htwo =>
    rw [htwice] at htwo
    split
    . next hone =>
      refine ⟨_, 0, 0, rfl, Int.le_refl _, by omega, .inr (Nat.le_refl _), Nat.zero_le _, ?_⟩
      rw [if_neg (by omega), if_pos (by omega), decayed_zero hd]
      rfl
    . next hone =>
      refine ⟨_, _, _, rfl, by omega, by omega, .inl rfl, Nat.le_refl _, ?_⟩
      rw [if_pos (by omega)]
      rfl

theorem Running.preview_eq_pressure (h : pair.Running t) {volume : Nat}
    (hvolume : previewEffectiveSellVolume pair n t = .ok volume) : volume = pair.pressure t + n := by
  rcases previewEffectiveSellVolume_inv hvolume with ⟨_, _, _, hvolumes, hsum⟩
  rcases h.volumes with ⟨_, _, _, hvolumes', _, _, _, _, hpressure⟩
  rw [hvolumes, Except.ok.injEq, Prod.mk.injEq, Prod.mk.injEq] at hvolumes'
  rcases hvolumes' with ⟨rfl, rfl, rfl⟩
  rw [hsum, ← hpressure]
  rfl

theorem Running.preview_add_eq (h : pair.Running t) (hprev : pair.prevNetSellValueStable ≤ u64Max)
    (hnet : pair.currentNet ≤ u64Max) (hn : n ≤ u64Max)
    : previewEffectiveSellVolume pair n t
        =
      if pair.pressure t + n ≤ u64Max then
        .ok (pair.pressure t + n)
      else
        .error (.onre .mathOverflow) := by
  have hd := h.duration
  have hbound := pair.epochDurationSeconds_le
  rcases h.volumes with
    ⟨prevNet, currNet, elapsed, hvolumes, hpos, hle, hprevNet, hcurrNet, hpressure⟩
  have hprevNet : prevNet ≤ u64Max := by omega
  have hsub : checkedSubInt i64Min i64Max pair.epochDurationSeconds elapsed
      = some (pair.epochDurationSeconds - elapsed) := by
    rw [checkedSubInt_eq_some]
    unfold i64Min
    omega
  have hremaining : (pair.epochDurationSeconds - elapsed).toNat ≤ u64Max := by
    unfold i64Max u64Max at *
    omega
  have hmul : checkedMul u128Max prevNet (pair.epochDurationSeconds - elapsed).toNat
      = some (prevNet * (pair.epochDurationSeconds - elapsed).toNat) := by
    rw [checkedMul_eq_some]
    refine ⟨?_, rfl⟩
    apply Nat.le_trans (Nat.mul_le_mul hprevNet hremaining)
    decide
  have hdiv : checkedDiv (prevNet * (pair.epochDurationSeconds - elapsed).toNat)
      pair.epochDurationSeconds.toNat = some (pair.decayed prevNet elapsed) := by
    rw [checkedDiv_eq_some]
    exact ⟨by omega, rfl⟩
  have hdecayed : pair.decayed prevNet elapsed ≤ prevNet := decayed_le hpos
  have hsum : pair.decayed prevNet elapsed + currNet + n ≤ u128Max := by
    unfold u64Max at hprevNet hnet hn
    unfold u128Max
    omega
  have hadd : checkedAdd u128Max (pair.decayed prevNet elapsed) currNet
      = some (pair.pressure t) := by
    rw [checkedAdd_eq_some]
    exact ⟨by omega, hpressure⟩
  have hadd' : checkedAdd u128Max (pair.pressure t) n = some (pair.pressure t + n) := by
    rw [checkedAdd_eq_some, ← hpressure]
    exact ⟨hsum, rfl⟩
  unfold previewEffectiveSellVolume
  dsimp only
  rw [require_of hd, ok_bind, hvolumes, ok_bind]
  dsimp only
  rw [hsub, okOr_some, ok_bind, hmul, okOr_some, ok_bind, hdiv, okOr_some, ok_bind, hadd, okOr_some,
    ok_bind, hadd', okOr_some, ok_bind]
  unfold OnreApp.require Checked.require
  split <;> rfl

theorem Running.preview_eq (h : pair.Running t) (hprev : pair.prevNetSellValueStable ≤ u64Max)
    (hnet : pair.currentNet ≤ u64Max)
    : previewEffectiveSellVolume pair 0 t
        =
      if pair.pressure t ≤ u64Max then .ok (pair.pressure t) else .error (.onre .mathOverflow) := by
  rw [h.preview_add_eq hprev hnet (Nat.zero_le _), Nat.add_zero]

end Preview

section Record

theorem Running.roll (h : pair.Running t) : rollPropAmmVolumeTracker pair t = .ok (pair.rolled t) := by
  have hstart := h.started
  have hforward := h.forward
  have htwice := h.twice_le
  have hfresh : ¬(pair.epochStart = 0 ∨ t < pair.epochStart) := by omega
  have hd := h.duration
  unfold rollPropAmmVolumeTracker rolled
  dsimp only
  rw [require_of hd, ok_bind, if_neg hfresh, h.sub_epochStart, okOr_some, ok_bind]
  split
  . next htwo =>
    rw [htwice] at htwo
    rw [if_neg (by omega), if_neg htwo]
    rfl
  . next htwo =>
    rw [htwice] at htwo
    split
    . next hone =>
      rw [if_neg (by omega), if_pos (by omega)]
      rfl
    . next hone =>
      rw [if_pos (by omega)]
      rfl

theorem Running.recordSell (h : pair.Running t) (hrecord : recordPropAmmSell pair n t = .ok pair')
    : (pair.rolled t).currSellValueStable + n ≤ u64Max ∧
      pair' = { pair.rolled t with
        currSellValueStable := (pair.rolled t).currSellValueStable + n
        currSellTradeCount := (pair.rolled t).currSellTradeCount + 1
      } := by
  simp only [recordPropAmmSell, h.roll, ok_bind, bind_eq_ok, okOr_eq_ok, checkedAdd_eq_some,
    pure_eq_ok] at hrecord
  rcases hrecord with ⟨_, ⟨hle, rfl⟩, _, ⟨_, rfl⟩, rfl⟩
  exact ⟨hle, rfl⟩

theorem Running.recordBuy (h : pair.Running t) (hrecord : recordPropAmmBuy pair n t = .ok pair')
    : pair' = { pair.rolled t with
        currBuyValueStable := (pair.rolled t).currBuyValueStable + n } := by
  simp only [recordPropAmmBuy, h.roll, ok_bind, bind_eq_ok, okOr_eq_ok, checkedAdd_eq_some,
    pure_eq_ok] at hrecord
  rcases hrecord with ⟨_, ⟨_, rfl⟩, rfl⟩
  rfl

theorem rolled_running (h : t < pair.epochStart + pair.epochDurationSeconds)
    : pair.rolled t = pair := if_pos h

theorem rolled_carries (hone : pair.epochStart + pair.epochDurationSeconds ≤ t)
    (htwo : t < pair.epochStart + 2 * pair.epochDurationSeconds)
    : pair.rolled t = pair.restart t pair.currentNet := by
  unfold rolled
  rw [if_neg (by omega), if_pos htwo]

theorem rolled_resets (hd : 0 < pair.epochDurationSeconds)
    (htwo : pair.epochStart + 2 * pair.epochDurationSeconds ≤ t)
    : pair.rolled t = pair.restart t 0 := by
  unfold rolled
  rw [if_neg (by omega), if_neg (by omega)]

end Record

section Pressure

theorem pressure_running (h : t < pair.epochStart + pair.epochDurationSeconds)
    : pair.pressure t
        =
      pair.decayed pair.prevNetSellValueStable (t - pair.epochStart) + pair.currentNet := if_pos h

theorem pressure_carried (hone : pair.epochStart + pair.epochDurationSeconds ≤ t)
    (htwo : t < pair.epochStart + 2 * pair.epochDurationSeconds)
    : pair.pressure t = pair.currentNet := by
  unfold pressure
  rw [if_neg (by omega), if_pos htwo]

theorem pressure_forgotten (hd : 0 < pair.epochDurationSeconds)
    (htwo : pair.epochStart + 2 * pair.epochDurationSeconds ≤ t) : pair.pressure t = 0 := by
  unfold pressure
  rw [if_neg (by omega), if_neg (by omega)]

theorem pressure_le_of_net_le (hstart : pair'.epochStart = pair.epochStart)
    (hduration : pair'.epochDurationSeconds = pair.epochDurationSeconds)
    (hprev : pair'.prevNetSellValueStable = pair.prevNetSellValueStable)
    (hnet : pair.currentNet ≤ pair'.currentNet) : pair.pressure t ≤ pair'.pressure t := by
  unfold pressure decayed
  rw [hstart, hduration, hprev]
  split
  . omega
  . split
    . exact hnet
    . exact Nat.le_refl _

/--
Exactly when a sell of `n` recorded at `t₁` does not lower the pressure at `t₂`. A sell that starts
an epoch with the net volume of the last one lets that volume decay from `t₁` on, where it would
have stayed as it is until the end of the epoch.
-/
theorem Running.pressure_recordSell (h : pair.Running t₁) (hle : t₁ ≤ t₂)
    (hrecord : recordPropAmmSell pair n t₁ = .ok pair')
    : pair.pressure t₂ ≤ pair'.pressure t₂ ↔
        t₁ < pair.epochStart + pair.epochDurationSeconds ∨
        pair.epochStart + 2 * pair.epochDurationSeconds ≤ t₂ ∨
        pair.currentNet ≤ pair.decayed pair.currentNet (t₂ - t₁) + n := by
  have hd := h.duration
  rcases h.recordSell hrecord with ⟨_, rfl⟩
  rcases Int.lt_or_le t₁ (pair.epochStart + pair.epochDurationSeconds) with hrunning | hone
  . -- the epoch goes on
    rw [rolled_running hrunning]
    simp only [hrunning, true_or, iff_true]
    apply pressure_le_of_net_le
    . rfl
    . rfl
    . rfl
    . unfold currentNet
      dsimp only
      omega
  . rcases Int.lt_or_le t₂ (pair.epochStart + 2 * pair.epochDurationSeconds) with htwo | htwo
    . rw [rolled_carries hone (by omega), pressure_carried (by omega) htwo]
      rw [pressure_running (by simp only [restart]; omega)]
      have hnot : ¬(t₁ < pair.epochStart + pair.epochDurationSeconds) := by omega
      have hnot' : ¬(pair.epochStart + 2 * pair.epochDurationSeconds ≤ t₂) := by omega
      simp [hnot, hnot', restart, currentNet, decayed]
    . rw [pressure_forgotten hd htwo]
      simp [htwo]

theorem Running.pressure_recordBuy (h : pair.Running t₁) (hle : t₁ ≤ t₂)
    (hrecord : recordPropAmmBuy pair n t₁ = .ok pair')
    : pair'.pressure t₂ ≤ pair.pressure t₂ ↔
        t₁ < pair.epochStart + pair.epochDurationSeconds ∨
        pair.epochStart + 2 * pair.epochDurationSeconds ≤ t₁ ∨
        t₂ < pair.epochStart + 2 * pair.epochDurationSeconds ∨
        pair.decayed pair.currentNet (t₂ - t₁) = 0 := by
  have hd := h.duration
  rw [h.recordBuy hrecord]
  rcases Int.lt_or_le t₁ (pair.epochStart + pair.epochDurationSeconds) with hrunning | hone
  . rw [rolled_running hrunning]
    simp only [hrunning, true_or, iff_true]
    apply pressure_le_of_net_le
    . rfl
    . rfl
    . rfl
    . unfold currentNet
      dsimp only
      omega
  . rcases Int.lt_or_le t₁ (pair.epochStart + 2 * pair.epochDurationSeconds) with htwo | htwo
    . -- the net volume is carried into a new epoch, where nothing is sold yet
      rw [rolled_carries hone htwo]
      have hpressure : { pair.restart t₁ pair.currentNet with
          currBuyValueStable := (pair.restart t₁ pair.currentNet).currBuyValueStable + n
        }.pressure t₂ = pair.decayed pair.currentNet (t₂ - t₁) := by
        unfold pressure
        simp only [restart, currentNet, decayed, Nat.zero_add, Nat.zero_sub, Nat.add_zero]
        split
        . rfl
        . have hzero : (pair.epochDurationSeconds - (t₂ - t₁)).toNat = 0 := by omega
          rw [hzero]
          simp
      rw [hpressure]
      have hnot : ¬(t₁ < pair.epochStart + pair.epochDurationSeconds) := by omega
      have hnot' : ¬(pair.epochStart + 2 * pair.epochDurationSeconds ≤ t₁) := by omega
      simp only [hnot, hnot', false_or]
      rcases Int.lt_or_le t₂ (pair.epochStart + 2 * pair.epochDurationSeconds) with hlt | hge
      . rw [pressure_carried (by omega) hlt]
        simp only [hlt, true_or, iff_true]
        apply decayed_le
        omega
      . rw [pressure_forgotten hd hge, Nat.le_zero]
        simp only [Int.not_lt.mpr hge, false_or]
    . rw [rolled_resets hd htwo, pressure_forgotten hd (by omega)]
      simp only [htwo, true_or, or_true, iff_true, Nat.le_zero]
      unfold pressure decayed
      simp [restart, currentNet]

end Pressure

section Keep

theorem Running.rolled (h : pair.Running t) (ht : 0 < t) : (pair.rolled t).Running t := by
  unfold PropAmmPairState.rolled
  split
  . exact h
  . split
    . exact ⟨h.duration, ht, Int.le_refl _, h.bounded⟩
    . exact ⟨h.duration, ht, Int.le_refl _, h.bounded⟩

theorem Running.of_eq (h : pair.Running t) (hstart : pair'.epochStart = pair.epochStart)
    (hduration : pair'.epochDurationSeconds = pair.epochDurationSeconds) : pair'.Running t where
  duration := by rw [hduration]; exact h.duration
  started := by rw [hstart]; exact h.started
  forward := by rw [hstart]; exact h.forward
  bounded := h.bounded

end Keep

end PropAmmPairState

inductive VolumeRecord where
  | sell (valueStable : Nat)
  | buy (valueStable : Nat)
  deriving DecidableEq, Repr

namespace VolumeRecord

def sold : VolumeRecord → Nat
  | sell valueStable => valueStable
  | buy _ => 0

def bought : VolumeRecord → Nat
  | sell _ => 0
  | buy valueStable => valueStable

def sells : VolumeRecord → Nat
  | sell _ => 1
  | buy _ => 0

end VolumeRecord

def PropAmmPairState.record (pair : PropAmmPairState) (now : Int)
    : VolumeRecord → Result PropAmmPairState
  | .sell valueStable => recordPropAmmSell pair valueStable now
  | .buy valueStable => recordPropAmmBuy pair valueStable now

structure Recorded where
  pair : PropAmmPairState
  -- newest first
  records : List (Int × VolumeRecord)
  clock : Int

namespace Recorded

variable {pair : PropAmmPairState} {s s' : Recorded} {inputs : List (Int × VolumeRecord)}

def step (s : Recorded) (input : Int × VolumeRecord) : Result Recorded := do
  -- the clock shows `i64` timestamps and never goes back
  constraint (s.clock ≤ input.1 ∧ input.1 ≤ i64Max)
  let pair ← s.pair.record input.1 input.2
  return { pair, records := input :: s.records, clock := input.1 }

theorem step_inv {input : Int × VolumeRecord} (h : s.step input = .ok s')
    : s.clock ≤ input.1 ∧ input.1 ≤ i64Max ∧ s.pair.record input.1 input.2 = .ok s'.pair ∧
      s'.records = input :: s.records ∧ s'.clock = input.1 := by
  simp only [step, bind_eq_ok, require_eq_ok, pure_eq_ok] at h
  rcases h with ⟨_, ⟨hclock, hbounded⟩, _, hrecord, rfl⟩
  exact ⟨hclock, hbounded, hrecord, rfl, rfl⟩

theorem record_inv {t : Int} {r : VolumeRecord} {pair' : PropAmmPairState} (h : pair.Running t)
    (hbound : pair.currSellValueStable ≤ u64Max) (hrecord : pair.record t r = .ok pair')
    : pair'.epochStart = (pair.rolled t).epochStart ∧
      pair'.epochDurationSeconds = (pair.rolled t).epochDurationSeconds ∧
      pair'.prevNetSellValueStable = (pair.rolled t).prevNetSellValueStable ∧
      pair'.currSellValueStable = (pair.rolled t).currSellValueStable + r.sold ∧
      pair'.currBuyValueStable = (pair.rolled t).currBuyValueStable + r.bought ∧
      pair'.currSellTradeCount = (pair.rolled t).currSellTradeCount + r.sells ∧
      pair'.currSellValueStable ≤ u64Max := by
  cases r with
  | sell n =>
    rcases h.recordSell hrecord with ⟨hle, rfl⟩
    exact ⟨rfl, rfl, rfl, rfl, rfl, rfl, hle⟩
  | buy n =>
    rw [h.recordBuy hrecord]
    refine ⟨rfl, rfl, rfl, rfl, rfl, rfl, ?_⟩
    unfold PropAmmPairState.rolled
    dsimp only
    split
    . exact hbound
    . split <;> exact Nat.zero_le _

theorem running_record {t : Int} {r : VolumeRecord} {pair' : PropAmmPairState} (h : pair.Running t)
    (hrecord : pair.record t r = .ok pair') : pair'.Running t := by
  have hstarted := h.started
  have hforward := h.forward
  have hrolled := h.rolled (by omega)
  cases r with
  | sell n =>
    rw [(h.recordSell hrecord).2]
    apply hrolled.of_eq <;> rfl
  | buy n =>
    rw [h.recordBuy hrecord]
    apply hrolled.of_eq <;> rfl

theorem clock_le_run (hrun : run step s inputs = .ok s') : s.clock ≤ s'.clock := by
  apply run_inv (fun s' => s.clock ≤ s'.clock) (fun _ => True) _ (fun _ _ => trivial)
    (Int.le_refl _) hrun
  intro s₁ s₂ input _ hle hstep
  rcases step_inv hstep with ⟨hclock, _, _, _, hclock'⟩
  omega

theorem running_run (h : s.pair.Running s.clock) (hrun : run step s inputs = .ok s')
    : s'.pair.Running s'.clock := by
  apply run_inv (fun s => s.pair.Running s.clock) (fun _ => True) _ (fun _ _ => trivial) h hrun
  intro s s' input _ hrunning hstep
  rcases step_inv hstep with ⟨hclock, hbounded, hrecord, _, hclock'⟩
  rw [hclock']
  exact running_record (hrunning.mono hclock hbounded) hrecord

/--
The volumes of a tracker in terms of the trades that were recorded: those since the epoch started
make up the current volumes, and what is carried over was sold in the two epochs before that.
-/
structure Inv (d : Int) (s : Recorded) : Prop where
  running : s.pair.Running s.clock
  duration : s.pair.epochDurationSeconds = d
  open_epoch : s.clock < s.pair.epochStart + d
  past : ∀ e ∈ s.records, e.1 ≤ s.clock
  sold : s.pair.currSellValueStable
    = total VolumeRecord.sold (fun u => s.pair.epochStart ≤ u) s.records
  bought : s.pair.currBuyValueStable
    = total VolumeRecord.bought (fun u => s.pair.epochStart ≤ u) s.records
  sells : s.pair.currSellTradeCount
    = total VolumeRecord.sells (fun u => s.pair.epochStart ≤ u) s.records
  carried : s.pair.prevNetSellValueStable
    ≤ total VolumeRecord.sold
        (fun u => s.pair.epochStart - 2 * d < u && u < s.pair.epochStart) s.records
  sold_le : s.pair.currSellValueStable ≤ u64Max
  carried_le : s.pair.prevNetSellValueStable ≤ u64Max

section Inv

variable {d t : Int} {r : VolumeRecord} {pair' : PropAmmPairState}

theorem Inv.continue_epoch (h : s.Inv d) (hclock : s.clock ≤ t) (hbounded : t ≤ i64Max)
    (hopen : t < s.pair.epochStart + d) (hrecord : s.pair.record t r = .ok pair')
    : Inv d { pair := pair', records := (t, r) :: s.records, clock := t } := by
  have hrunning := h.running.mono hclock hbounded
  have hforward := hrunning.forward
  have hd := h.duration
  rcases record_inv hrunning h.sold_le hrecord with
    ⟨hstart, hduration, hprev, hsold, hbought, hsells, hsold_le⟩
  rw [PropAmmPairState.rolled_running (by omega)] at hstart hduration hprev hsold hbought hsells
  refine ⟨running_record hrunning hrecord, by dsimp only; omega, by dsimp only; omega, ?_, ?_, ?_,
    ?_, ?_,
    hsold_le, ?_⟩
  . intro e he
    rcases List.mem_cons.mp he with rfl | he
    . exact Int.le_refl _
    . exact Int.le_trans (h.past e he) hclock
  . dsimp only
    rw [total_cons, hstart, hsold, h.sold]
    simp only [hforward, decide_true, if_true]
    omega
  . dsimp only
    rw [total_cons, hstart, hbought, h.bought]
    simp only [hforward, decide_true, if_true]
    omega
  . dsimp only
    rw [total_cons, hstart, hsells, h.sells]
    simp only [hforward, decide_true, if_true]
    omega
  . dsimp only
    rw [total_cons, hstart, hprev]
    have := h.carried
    omega
  . dsimp only
    rw [hprev]
    exact h.carried_le

theorem Inv.start_epoch (h : s.Inv d) (hclock : s.clock ≤ t) (hbounded : t ≤ i64Max)
    (hexpired : s.pair.epochStart + d ≤ t) (hrecord : s.pair.record t r = .ok pair')
    : Inv d { pair := pair', records := (t, r) :: s.records, clock := t } := by
  have hrunning := h.running.mono hclock hbounded
  have hstarted := hrunning.started
  have hpositive := hrunning.duration
  have hd := h.duration
  have hopen := h.open_epoch
  have hold : ∀ (f : VolumeRecord → Nat), total f (fun u => t ≤ u) s.records = 0 := by
    intro f
    apply total_eq_zero
    intro e he hle
    have := h.past e he
    rw [decide_eq_true_eq] at hle
    omega
  rcases record_inv hrunning h.sold_le hrecord with
    ⟨hstart, hduration, hprev, hsold, hbought, hsells, hsold_le⟩
  have hrolled : ∃ (prevNet : Nat), s.pair.rolled t = s.pair.restart t prevNet ∧
      prevNet ≤ u64Max ∧
      prevNet ≤ total VolumeRecord.sold (fun u => t - 2 * d < u && u < t) s.records := by
    rcases Int.lt_or_le t (s.pair.epochStart + 2 * d) with htwo | htwo
    . refine ⟨s.pair.currentNet, PropAmmPairState.rolled_carries (by omega) (by omega), ?_, ?_⟩
      . have := h.sold_le
        unfold PropAmmPairState.currentNet
        omega
      . have hnet : s.pair.currentNet ≤ s.pair.currSellValueStable := by
          unfold PropAmmPairState.currentNet
          omega
        rw [h.sold] at hnet
        apply Nat.le_trans hnet
        rw [total_congr (q := fun u => s.pair.epochStart ≤ u && u < t)]
        . apply total_mono
          intro u hu
          simp only [Bool.and_eq_true, decide_eq_true_eq] at hu ⊢
          omega
        . intro e he
          have hlt : e.1 < t := by
            have := h.past e he
            omega
          simp [hlt]
    . exact ⟨0, PropAmmPairState.rolled_resets hpositive (by omega), Nat.zero_le _, Nat.zero_le _⟩
  rcases hrolled with ⟨prevNet, hrolled, hprevNet_le, hprevNet⟩
  rw [hrolled] at hstart hduration hprev hsold hbought hsells
  dsimp only [PropAmmPairState.restart] at hstart hduration hprev hsold hbought hsells
  refine ⟨running_record hrunning hrecord, by dsimp only; omega, by dsimp only; omega, ?_, ?_, ?_,
    ?_, ?_,
    hsold_le, ?_⟩
  . intro e he
    rcases List.mem_cons.mp he with rfl | he
    . exact Int.le_refl _
    . exact Int.le_trans (h.past e he) hclock
  . dsimp only
    rw [total_cons, hstart, hsold, hold]
    simp
  . dsimp only
    rw [total_cons, hstart, hbought, hold]
    simp
  . dsimp only
    rw [total_cons, hstart, hsells, hold]
    simp
  . dsimp only
    rw [total_cons, hstart, hprev]
    omega
  . dsimp only
    omega

theorem Inv.step {input : Int × VolumeRecord} (h : s.Inv d) (hstep : s.step input = .ok s')
    : s'.Inv d := by
  rcases step_inv hstep with ⟨hclock, hbounded, hrecord, hrecords, hclock'⟩
  have hs' : s' = { pair := s'.pair, records := (input.1, input.2) :: s.records, clock := input.1 } := by
    rw [← hrecords, ← hclock']
  rw [hs']
  rcases Int.lt_or_le input.1 (s.pair.epochStart + d) with hopen | hexpired
  . exact h.continue_epoch hclock hbounded hopen hrecord
  . exact h.start_epoch hclock hbounded hexpired hrecord

theorem Inv.run (h : s.Inv d) (hrun : Run.run Recorded.step s inputs = .ok s')
    : s'.Inv d := by
  apply run_inv (Inv d) (fun _ => True) _ (fun _ _ => trivial) h hrun
  intro s s' input _ hinv hstep
  exact hinv.step hstep

theorem Inv.pressure_le (h : s.Inv d) (ht : s.clock ≤ t)
    : s.pair.pressure t
        ≤ total VolumeRecord.sold (fun u => t - 3 * d < u && u ≤ t) s.records := by
  have hpositive := h.running.duration
  have hforward := h.running.forward
  have hd := h.duration
  have hnet : s.pair.currentNet
      ≤ total VolumeRecord.sold (fun u => s.pair.epochStart ≤ u && u ≤ t) s.records := by
    rw [← total_congr (p := fun u => s.pair.epochStart ≤ u), ← h.sold]
    . unfold PropAmmPairState.currentNet
      omega
    . intro e he
      have hle : e.1 ≤ t := Int.le_trans (h.past e he) ht
      simp [hle]
  rcases Int.lt_or_le t (s.pair.epochStart + d) with hopen | hone
  . rw [PropAmmPairState.pressure_running (by omega)]
    have hdecayed : s.pair.decayed s.pair.prevNetSellValueStable (t - s.pair.epochStart)
        ≤ s.pair.prevNetSellValueStable := PropAmmPairState.decayed_le (by omega)
    have hcarried := h.carried
    have hsum : total VolumeRecord.sold
          (fun u => s.pair.epochStart - 2 * d < u && u < s.pair.epochStart) s.records +
        total VolumeRecord.sold (fun u => s.pair.epochStart ≤ u && u ≤ t) s.records
        ≤ total VolumeRecord.sold (fun u => t - 3 * d < u && u ≤ t) s.records := by
      apply total_add_le
      . intro u hu
        simp only [Bool.and_eq_true, decide_eq_true_eq] at hu
        simp [hu.2]
      . intro u hu
        simp only [Bool.and_eq_true, decide_eq_true_eq] at hu ⊢
        omega
      . intro u hu
        simp only [Bool.and_eq_true, decide_eq_true_eq] at hu ⊢
        omega
    omega
  . rcases Int.lt_or_le t (s.pair.epochStart + 2 * d) with htwo | htwo
    . rw [PropAmmPairState.pressure_carried (by omega) (by omega)]
      apply Nat.le_trans hnet
      apply total_mono
      intro u hu
      simp only [Bool.and_eq_true, decide_eq_true_eq] at hu ⊢
      omega
    . rw [PropAmmPairState.pressure_forgotten hpositive (by omega)]
      exact Nat.zero_le _

end Inv

section Configure

variable {clock : Clock} {w w' : World} {boss : Signer} {assetMint : Pubkey}
  {config : PropAmmConfig}

theorem configurePropAmm_pair (h : configurePropAmm clock w boss assetMint config = .ok w')
    (hpair : w'.propAmmPairStates (.propAmmPairState (.offer assetMint w.state.onycMint))
      = some pair)
    : ∃ (old : PropAmmPairState),
        old = (w.propAmmPairStates (.propAmmPairState (.offer assetMint w.state.onycMint))).getD
          .default ∧
        0 < config.epochDurationSeconds ∧
        pair.epochDurationSeconds = config.epochDurationSeconds ∧
        pair.epochStart = (if old.epochStart = 0 then clock.unixTimestamp else old.epochStart) ∧
        pair.prevNetSellValueStable = old.prevNetSellValueStable ∧
        pair.currSellValueStable = old.currSellValueStable ∧
        pair.currBuyValueStable = old.currBuyValueStable ∧
        pair.currSellTradeCount = old.currSellTradeCount := by
  simp only [configurePropAmm, PropAmmConfig.validate, bind_eq_ok, require_eq_ok, pure_eq_ok] at h
  rcases h with
    ⟨_, _, _, _, _, _, _, ⟨_, _, _, _, _, _, _, _, _, _, _, _, _, hduration, _⟩, _, _, rfl⟩
  simp only [World.setPropAmmPairState, Function.update_self, Option.some.injEq] at hpair
  rw [← hpair]
  exact ⟨_, rfl, hduration, rfl, rfl, rfl, rfl, rfl, rfl⟩

theorem configurePropAmm_running (hnow : 0 < clock.unixTimestamp)
    (hbounded : clock.unixTimestamp ≤ i64Max)
    (hold : ∀ (old : PropAmmPairState),
      w.propAmmPairStates (.propAmmPairState (.offer assetMint w.state.onycMint)) = some old →
      0 ≤ old.epochStart ∧ old.epochStart ≤ clock.unixTimestamp)
    (h : configurePropAmm clock w boss assetMint config = .ok w')
    (hpair : w'.propAmmPairStates (.propAmmPairState (.offer assetMint w.state.onycMint))
      = some pair)
    : pair.Running clock.unixTimestamp := by
  rcases configurePropAmm_pair h hpair with ⟨old, hold', hduration, heq, hstart, _⟩
  have hstart' : 0 < pair.epochStart ∧ pair.epochStart ≤ clock.unixTimestamp := by
    have hrange : 0 ≤ old.epochStart ∧ old.epochStart ≤ clock.unixTimestamp := by
      cases hprevious : w.propAmmPairStates
          (.propAmmPairState (.offer assetMint w.state.onycMint)) with
      | none =>
        rw [hold', hprevious]
        exact ⟨Int.le_refl 0, Int.le_of_lt hnow⟩
      | some previous =>
        rw [hold', hprevious]
        exact hold previous hprevious
    split at hstart <;> omega
  rw [← heq] at hduration
  exact ⟨hduration, hstart'.1, hstart'.2, hbounded⟩

/--
Exactly when a trade moves the pressure only its own way. Trades within an epoch always do; the
first trade after an epoch restarts the decay of the net volume the epoch has left.
-/
theorem run_pressure {t₁ t₂ : Int} (hnow : 0 < clock.unixTimestamp)
    -- a pair that was in use before has its epoch behind it
    (hold : ∀ (old : PropAmmPairState),
      w.propAmmPairStates (.propAmmPairState (.offer assetMint w.state.onycMint)) = some old →
      0 ≤ old.epochStart ∧ old.epochStart ≤ clock.unixTimestamp)
    (hconfigure : configurePropAmm clock w boss assetMint config = .ok w')
    (hpair : w'.propAmmPairStates (.propAmmPairState (.offer assetMint w.state.onycMint))
      = some pair)
    (hrun : run step { pair, records := [], clock := clock.unixTimestamp } inputs = .ok s)
    (h₁ : s.clock ≤ t₁) (h₂ : t₁ ≤ t₂) (hbounded : t₂ ≤ i64Max)
    : (∀ (value before after : Nat) (pair' : PropAmmPairState),
        recordPropAmmSell s.pair value t₁ = .ok pair' →
        previewEffectiveSellVolume s.pair 0 t₂ = .ok before →
        previewEffectiveSellVolume pair' 0 t₂ = .ok after →
        (before ≤ after ↔
          t₁ < s.pair.epochStart + s.pair.epochDurationSeconds ∨
          s.pair.epochStart + 2 * s.pair.epochDurationSeconds ≤ t₂ ∨
          s.pair.currentNet ≤ s.pair.decayed s.pair.currentNet (t₂ - t₁) + value)) ∧
      (∀ (value before after : Nat) (pair' : PropAmmPairState),
        recordPropAmmBuy s.pair value t₁ = .ok pair' →
        previewEffectiveSellVolume s.pair 0 t₂ = .ok before →
        previewEffectiveSellVolume pair' 0 t₂ = .ok after →
        (after ≤ before ↔
          t₁ < s.pair.epochStart + s.pair.epochDurationSeconds ∨
          s.pair.epochStart + 2 * s.pair.epochDurationSeconds ≤ t₁ ∨
          t₂ < s.pair.epochStart + 2 * s.pair.epochDurationSeconds ∨
          s.pair.decayed s.pair.currentNet (t₂ - t₁) = 0)) := by
  have hclock := clock_le_run hrun
  dsimp only at hclock
  have hrunning := running_run
    (configurePropAmm_running hnow (by omega) hold hconfigure hpair) hrun
  have hrunning₁ := hrunning.mono h₁ (by omega)
  have hrunning₂ := hrunning₁.mono h₂ hbounded
  constructor
  . intro value before after pair' hrecord hbefore hafter
    have hrunning' := (running_record (r := .sell value) hrunning₁ hrecord).mono h₂ hbounded
    rw [hrunning₂.preview_eq_pressure hbefore, hrunning'.preview_eq_pressure hafter]
    exact hrunning₁.pressure_recordSell h₂ hrecord
  . intro value before after pair' hrecord hbefore hafter
    have hrunning' := (running_record (r := .buy value) hrunning₁ hrecord).mono h₂ hbounded
    rw [hrunning₂.preview_eq_pressure hbefore, hrunning'.preview_eq_pressure hafter]
    exact hrunning₁.pressure_recordBuy h₂ hrecord

theorem configured
    : ∃ (w w' : World),
        w.propAmmPairStates (.propAmmPairState (.offer Sample.usdc w.state.onycMint)) = none ∧
        configurePropAmm ⟨1200, 0⟩ w Sample.boss Sample.usdc Sample.propAmmConfig = .ok w' ∧
        w'.propAmmPairStates (.propAmmPairState (.offer Sample.usdc w.state.onycMint))
          = some Sample.pair := by
  have hview : (runCalls Sample.world Sample.launch).toOption.bind (fun w =>
      (configurePropAmm ⟨1200, 0⟩ w Sample.boss Sample.usdc
        Sample.propAmmConfig).toOption.bind fun w' =>
          some (w.state, w.propAmmPairStates Sample.propAmmPairState,
            w'.propAmmPairStates Sample.propAmmPairState)) =
      some (Sample.world.state, none, some Sample.pair) := by decide +kernel
  rcases exists_ok_of_view hview with ⟨w, _, hview⟩
  rcases exists_ok_of_view hview with ⟨w', hconfigure, hfacts⟩
  simp only [Option.some.injEq, Prod.mk.injEq] at hfacts
  rcases hfacts with ⟨hstate, hfresh, hpair⟩
  have hkey : Pubkey.propAmmPairState (.offer Sample.usdc w.state.onycMint)
      = Sample.propAmmPairState := by
    rw [hstate]
    rfl
  rw [← hkey] at hfresh hpair
  exact ⟨w, w', hfresh, hconfigure, hpair⟩

theorem run_pressure_within_epoch
    : ∃ (s : Recorded) (pair' : PropAmmPairState) (before after : Nat),
        run step { pair := Sample.pair, records := [], clock := 1200 } [(1300, .sell 1000)]
          = .ok s ∧
        recordPropAmmSell s.pair 1 2000 = .ok pair' ∧
        previewEffectiveSellVolume s.pair 0 3000 = .ok before ∧
        previewEffectiveSellVolume pair' 0 3000 = .ok after ∧ before ≤ after := by
  have hview : (run step { pair := Sample.pair, records := [], clock := 1200 }
      [(1300, .sell 1000)]).toOption.bind (fun s =>
        (recordPropAmmSell s.pair 1 2000).toOption.bind fun pair' =>
          some (s.clock, s.pair.epochStart, s.pair.epochDurationSeconds,
            (previewEffectiveSellVolume s.pair 0 3000).toOption,
            (previewEffectiveSellVolume pair' 0 3000).toOption)) =
      some (1300, 1200, 86400, some 1000, some 1001) := by decide +kernel
  rcases exists_ok_of_view hview with ⟨s, hrun, hview⟩
  rcases exists_ok_of_view hview with ⟨pair', hrecord, hfacts⟩
  simp only [Option.some.injEq, Prod.mk.injEq, toOption_eq_some] at hfacts
  rcases hfacts with ⟨hclock, hstart, hduration, hbefore, hafter⟩
  rcases configured with ⟨w, w', hfresh, hconfigure, hpair⟩
  refine ⟨s, pair', 1000, 1001, hrun, hrecord, hbefore, hafter, ?_⟩
  have h₁ : s.clock ≤ 2000 := by omega
  have h₂ : (2000 : Int) ≤ 3000 := by decide
  have hbounded : (3000 : Int) ≤ i64Max := by decide
  have hiff := (run_pressure (by decide) (by simp [hfresh]) hconfigure hpair hrun h₁ h₂ hbounded).1
    1 1000 1001 pair' hrecord hbefore hafter
  rw [hiff]
  exact .inl (by omega)

-- selling one unit a day after selling 1000 leaves 501 half a day later, without it 1000 are
-- left. And buying one unit just before all is forgotten brings 999 back
theorem run_pressure_restarted
    : ∃ (w w' : World) (s : Recorded) (sold bought : PropAmmPairState),
        configurePropAmm ⟨1200, 0⟩ w Sample.boss Sample.usdc Sample.propAmmConfig = .ok w' ∧
        w'.propAmmPairStates (.propAmmPairState (.offer Sample.usdc w.state.onycMint))
          = some Sample.pair ∧
        run step { pair := Sample.pair, records := [], clock := 1200 } [(1200, .sell 1000)]
          = .ok s ∧
        s.clock = 1200 ∧
        recordPropAmmSell s.pair 1 87600 = .ok sold ∧
        previewEffectiveSellVolume s.pair 0 130800 = .ok 1000 ∧
        previewEffectiveSellVolume sold 0 130800 = .ok 501 ∧
        recordPropAmmBuy s.pair 1 173999 = .ok bought ∧
        previewEffectiveSellVolume s.pair 0 174000 = .ok 0 ∧
        previewEffectiveSellVolume bought 0 174000 = .ok 999 := by
  have hview : (run step { pair := Sample.pair, records := [], clock := 1200 }
      [(1200, .sell 1000)]).toOption.bind (fun s =>
        (recordPropAmmSell s.pair 1 87600).toOption.bind fun sold =>
          (recordPropAmmBuy s.pair 1 173999).toOption.bind fun bought =>
            some (s.clock, (previewEffectiveSellVolume s.pair 0 130800).toOption,
              (previewEffectiveSellVolume sold 0 130800).toOption,
              (previewEffectiveSellVolume s.pair 0 174000).toOption,
              (previewEffectiveSellVolume bought 0 174000).toOption)) =
      some (1200, some 1000, some 501, some 0, some 999) := by decide +kernel
  rcases exists_ok_of_view hview with ⟨s, hrun, hview⟩
  rcases exists_ok_of_view hview with ⟨sold, hsold, hview⟩
  rcases exists_ok_of_view hview with ⟨bought, hbought, hfacts⟩
  simp only [Option.some.injEq, Prod.mk.injEq, toOption_eq_some] at hfacts
  rcases hfacts with ⟨hclock, hbefore, hafter, hbefore', hafter'⟩
  rcases configured with ⟨w, w', _, hconfigure, hpair⟩
  exact ⟨w, w', s, sold, bought, hconfigure, hpair, hrun, hclock, hsold, hbefore, hafter, hbought,
    hbefore', hafter'⟩

theorem configured_inv (hnow : 0 < clock.unixTimestamp) (hbounded : clock.unixTimestamp ≤ i64Max)
    (hfresh : w.propAmmPairStates (.propAmmPairState (.offer assetMint w.state.onycMint)) = none)
    (hconfigure : configurePropAmm clock w boss assetMint config = .ok w')
    (hpair : w'.propAmmPairStates (.propAmmPairState (.offer assetMint w.state.onycMint))
      = some pair)
    : Inv config.epochDurationSeconds { pair, records := [], clock := clock.unixTimestamp } := by
  have hrunning := configurePropAmm_running hnow hbounded (by simp [hfresh]) hconfigure hpair
  rcases configurePropAmm_pair hconfigure hpair with
    ⟨old, hold, hpositive, hduration, hstart, hprev, hsold, hbought, hsells⟩
  rw [hfresh] at hold
  subst hold
  refine ⟨hrunning, hduration, ?_, by simp, hsold, hbought, hsells, ?_, ?_, ?_⟩
  . dsimp only
    rw [hstart]
    simp only [Option.getD_none, PropAmmPairState.default, if_true]
    omega
  . dsimp only
    rw [hprev]
    exact Nat.zero_le _
  . dsimp only
    rw [hsold]
    exact Nat.zero_le _
  . dsimp only
    rw [hprev]
    exact Nat.zero_le _

theorem run_boundedMemory (hnow : 0 < clock.unixTimestamp)
    (hbounded : clock.unixTimestamp ≤ i64Max)
    (hfresh : w.propAmmPairStates (.propAmmPairState (.offer assetMint w.state.onycMint)) = none)
    (hconfigure : configurePropAmm clock w boss assetMint config = .ok w')
    (hpair : w'.propAmmPairStates (.propAmmPairState (.offer assetMint w.state.onycMint))
      = some pair)
    (hrun : run step { pair, records := [], clock := clock.unixTimestamp } inputs = .ok s)
    : (s.pair.currSellValueStable
          = total VolumeRecord.sold (fun u => s.pair.epochStart ≤ u) s.records ∧
        s.pair.currBuyValueStable
          = total VolumeRecord.bought (fun u => s.pair.epochStart ≤ u) s.records ∧
        s.pair.currSellTradeCount
          = total VolumeRecord.sells (fun u => s.pair.epochStart ≤ u) s.records) ∧
      ∀ (t : Int), s.clock ≤ t → t ≤ i64Max →
        let window := fun (u : Int) => t - 3 * config.epochDurationSeconds < u && u ≤ t
        ((∃ (volume : Nat), previewEffectiveSellVolume s.pair 0 t = .ok volume ∧
            volume ≤ total VolumeRecord.sold window s.records) ∨
          -- a volume beyond 64 bits is an error, not a smaller volume
          (previewEffectiveSellVolume s.pair 0 t = .error (.onre .mathOverflow) ∧
            u64Max < total VolumeRecord.sold window s.records)) ∧
        ((∀ (u : Int) (value : Nat), (u, .sell value) ∈ s.records → window u = false) →
          previewEffectiveSellVolume s.pair 0 t = .ok 0) := by
  have hinv := (configured_inv hnow hbounded hfresh hconfigure hpair).run hrun
  refine ⟨⟨hinv.sold, hinv.bought, hinv.sells⟩, ?_⟩
  intro t ht htbounded window
  have hle : s.pair.pressure t ≤ total VolumeRecord.sold window s.records := hinv.pressure_le ht
  have hnet : s.pair.currentNet ≤ u64Max := by
    have := hinv.sold_le
    unfold PropAmmPairState.currentNet
    omega
  have hpreview := (hinv.running.mono ht htbounded).preview_eq hinv.carried_le hnet
  constructor
  . rcases Nat.lt_or_ge u64Max (s.pair.pressure t) with hlarge | hfits
    . right
      rw [if_neg (by omega)] at hpreview
      exact ⟨hpreview, by omega⟩
    . left
      rw [if_pos hfits] at hpreview
      exact ⟨_, hpreview, hle⟩
  . intro hnone
    have hzero : total VolumeRecord.sold window s.records = 0 := by
      apply total_eq_zero
      intro e he hwindow
      rcases e with ⟨u, value | value⟩
      . have := hnone u value he
        rw [hwindow] at this
        cases this
      . rfl
    have hpressure : s.pair.pressure t = 0 := by omega
    rw [hpreview, hpressure, if_pos (Nat.zero_le _)]

theorem run_boundedMemory_two_epochs
    : ∃ (s : Recorded),
        run step { pair := Sample.pair, records := [], clock := 1200 }
          [(1300, .sell 1000), (87600, .buy 200), (100000, .sell 50)] = .ok s ∧
        s.pair.epochStart = 87600 ∧ s.pair.currSellValueStable = 50 ∧
        s.pair.currSellTradeCount
          = total VolumeRecord.sells (fun u => s.pair.epochStart ≤ u) s.records ∧
        previewEffectiveSellVolume s.pair 0 400000 = .ok 0 := by
  have hview : (run step { pair := Sample.pair, records := [], clock := 1200 }
      [(1300, .sell 1000), (87600, .buy 200), (100000, .sell 50)]).toOption.bind (fun s =>
        some (s.clock, s.pair.epochStart, s.pair.currSellValueStable, s.records)) =
      some (100000, 87600, 50, [(100000, .sell 50), (87600, .buy 200), (1300, .sell 1000)]) := by
    decide +kernel
  rcases exists_ok_of_view hview with ⟨s, hrun, hfacts⟩
  simp only [Option.some.injEq, Prod.mk.injEq] at hfacts
  rcases hfacts with ⟨hclock, hstart, hsold, hrecords⟩
  rcases configured with ⟨w, w', hfresh, hconfigure, hpair⟩
  rcases run_boundedMemory (by decide) (by decide) hfresh hconfigure hpair hrun with
    ⟨⟨_, _, hsells⟩, hwindow⟩
  refine ⟨s, hrun, hstart, hsold, hsells, ?_⟩
  -- the window starts at 400000 - 3 * 86400, after the last sell
  apply (hwindow 400000 (by omega) (by decide)).2
  intro u value hmem
  rw [hrecords] at hmem
  simp only [List.mem_cons, Prod.mk.injEq, VolumeRecord.sell.injEq, reduceCtorEq, and_false,
    List.not_mem_nil, or_false, false_or] at hmem
  rcases hmem with ⟨rfl, _⟩ | ⟨rfl, _⟩ <;> decide

end Configure

end Recorded

end OnreApp
