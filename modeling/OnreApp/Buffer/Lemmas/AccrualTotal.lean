import OnreApp.Buffer.Lemmas.AccrualUtils
import OnreApp.Buffer.Lemmas.AccrueBuffer

namespace OnreApp

open Checked TokenLedger

section GrossAccrual

def grossAccrual (previousSupply grossApr currentYield secondsElapsed : Nat) : Nat :=
  previousSupply * (grossApr - currentYield) * secondsElapsed /
    (yieldYear + currentYield * secondsElapsed)

theorem calculateGrossBufferAccrual_exact {previousSupply grossApr secondsElapsed : Nat}
    (currentYield : Nat) (hsupply : previousSupply ≤ u64Max) (hgross : grossApr ≤ maxBufferGrossApr)
    (htime : secondsElapsed ≤ 2 ^ 43)
    : calculateGrossBufferAccrual previousSupply grossApr currentYield secondsElapsed
        =
      if grossAccrual previousSupply grossApr currentYield secondsElapsed ≤ u64Max then
        .ok (grossAccrual previousSupply grossApr currentYield secondsElapsed)
      else
        .error (.onre .resultOverflow) := by
  unfold calculateGrossBufferAccrual calculateAccrualFromAprDelta
  split
  . next hzero =>
    have : grossAccrual previousSupply grossApr currentYield secondsElapsed = 0 := by
      unfold grossAccrual
      rcases hzero with hzero | hzero | hzero <;> simp [hzero]
    rw [this]
    rfl
  . next hpositive =>
    -- an APR delta is left, so the active APR is below the gross one and no larger than it can be
    have hyield : currentYield ≤ 1000000 := by
      unfold maxBufferGrossApr at hgross
      omega
    have hgrowth : currentYield * secondsElapsed ≤ 1000000 * 2 ^ 43 :=
      Nat.mul_le_mul hyield htime
    have hweighted : previousSupply * (grossApr - currentYield) ≤ u64Max * 1000000 := by
      apply Nat.mul_le_mul hsupply
      unfold maxBufferGrossApr at hgross
      omega
    have hnumerator : previousSupply * (grossApr - currentYield) * secondsElapsed
        ≤ u64Max * 1000000 * 2 ^ 43 :=
      Nat.mul_le_mul hweighted htime
    have hdenominator : (do
        let year ← checkedMul u128Max secondsPerYear yieldScale
        let growth ← checkedMul u128Max currentYield secondsElapsed
        checkedAdd u128Max year growth) = some (yieldYear + currentYield * secondsElapsed) := by
      simp only [Option.bind_eq_bind, Option.bind_eq_some_iff, checkedMul_eq_some,
        checkedAdd_eq_some]
      refine ⟨yieldYear, ⟨by decide, rfl⟩, _, ⟨?_, rfl⟩, ?_, rfl⟩
      . unfold u128Max
        omega
      . unfold u128Max yieldYear secondsPerYear yieldScale
        omega
    have hproduct : (do
        let weighted ← checkedMul u128Max previousSupply (grossApr - currentYield)
        checkedMul u128Max weighted secondsElapsed)
          = some (previousSupply * (grossApr - currentYield) * secondsElapsed) := by
      simp only [Option.bind_eq_bind, Option.bind_eq_some_iff, checkedMul_eq_some]
      refine ⟨_, ⟨?_, rfl⟩, ?_, rfl⟩
      . unfold u64Max at hweighted
        unfold u128Max
        omega
      . unfold u64Max at hnumerator
        unfold u128Max
        omega
    have hquotient : checkedDiv (previousSupply * (grossApr - currentYield) * secondsElapsed)
        (yieldYear + currentYield * secondsElapsed)
          = some (grossAccrual previousSupply grossApr currentYield secondsElapsed) := by
      rw [checkedDiv_eq_some]
      refine ⟨?_, rfl⟩
      have := yieldYear_pos
      omega
    rw [hdenominator, okOr_some, ok_bind]
    rw [hproduct, okOr_some, ok_bind]
    rw [hquotient, okOr_some, ok_bind]
    split
    . next hfits =>
      rw [require_of hfits]
      rfl
    . next hover =>
      unfold require Checked.require
      rw [if_neg hover]
      rfl

theorem grossAccrual_le_of_year {grossApr secondsElapsed : Nat} (previousSupply currentYield : Nat)
    (hgross : grossApr ≤ maxBufferGrossApr) (htime : secondsElapsed ≤ secondsPerYear)
    : grossAccrual previousSupply grossApr currentYield secondsElapsed ≤ previousSupply := by
  unfold grossAccrual
  apply Nat.div_le_of_le_mul
  calc
    previousSupply * (grossApr - currentYield) * secondsElapsed
      ≤ previousSupply * yieldScale * secondsPerYear := by
        apply Nat.mul_le_mul _ htime
        apply Nat.mul_le_mul_left
        apply Nat.le_trans (Nat.sub_le grossApr currentYield) hgross
    _ = yieldYear * previousSupply := by
        unfold yieldYear
        ring
    _ ≤ (yieldYear + currentYield * secondsElapsed) * previousSupply := by
        apply Nat.mul_le_mul_right
        apply Nat.le_add_right

end GrossAccrual

namespace calculateBufferFeeSplit

variable {bufferMintAmount basisPoints : Nat}

theorem managementFee_le (bufferMintAmount aprDelta basisPoints : Nat)
    : bufferMintAmount * min (basisPoints * 100) aprDelta / aprDelta ≤ bufferMintAmount := by
  apply Nat.div_le_of_le_mul
  rw [Nat.mul_comm]
  apply Nat.mul_le_mul_right
  apply Nat.min_le_right

theorem managementFee_eq (aprDelta : Nat) (hamount : bufferMintAmount ≤ u64Max)
    (hbps : basisPoints ≤ maxBasisPoints)
    : managementFee bufferMintAmount aprDelta basisPoints
        =
      .ok (bufferMintAmount * min (basisPoints * 100) aprDelta / aprDelta) := by
  unfold managementFee
  split
  . next hzero =>
    rcases hzero with hzero | hzero <;> simp [hzero, pure, Except.pure]
  . next hpositive =>
    have hscale : basisPointToYieldScale = 100 := rfl
    have hmax : maxBasisPoints = 10000 := rfl
    have hshare : bufferMintAmount * min (basisPoints * 100) aprDelta ≤ u64Max * 1000000 := by
      apply Nat.mul_le_mul hamount
      omega
    have hfee := Nat.le_trans (managementFee_le bufferMintAmount aprDelta basisPoints) hamount
    simp only [bind_eq_ok, okOr_eq_ok, require_eq_ok, checkedMul_eq_some, checkedDiv_eq_some,
      pure_eq_ok]
    rw [hscale]
    refine ⟨_, ⟨?_, rfl⟩, _, ⟨?_, rfl⟩, _, ⟨?_, rfl⟩, (), hfee, rfl⟩
    . unfold u64Max
      omega
    . unfold u64Max at hshare
      unfold u128Max
      omega
    . omega

theorem performanceFee_eq (currentNav watermark : Nat) (enabled : Bool)
    (hamount : bufferMintAmount ≤ u64Max) (hbps : basisPoints ≤ maxBasisPoints)
    : ∃ (fee : Nat),
        performanceFee bufferMintAmount basisPoints currentNav watermark enabled = .ok fee ∧
        fee ≤ bufferMintAmount * basisPoints / 10000 := by
  unfold performanceFee
  split
  . have hweighted : bufferMintAmount * basisPoints ≤ u64Max * 10000 := Nat.mul_le_mul hamount hbps
    have hfee : bufferMintAmount * basisPoints / basisPointsScale ≤ u64Max := by
      apply Nat.div_le_of_le_mul
      rw [Nat.mul_comm basisPointsScale]
      exact hweighted
    refine ⟨bufferMintAmount * basisPoints / basisPointsScale, ?_, Nat.le_refl _⟩
    simp only [bind_eq_ok, okOr_eq_ok, require_eq_ok, checkedMul_eq_some, checkedDiv_eq_some,
      pure_eq_ok]
    refine ⟨_, ⟨?_, rfl⟩, _, ⟨by decide, rfl⟩, (), hfee, rfl⟩
    unfold u64Max at hweighted
    unfold u128Max
    omega
  . exact ⟨0, rfl, Nat.zero_le _⟩

end calculateBufferFeeSplit

theorem calculateBufferFeeSplit_exact {bufferMintAmount managementFeeBasisPoints
    performanceFeeBasisPoints : Nat} (aprDelta currentNav performanceFeeHighWatermark : Nat)
    (performanceFeeHighWatermarkEnabled : Bool) (hamount : bufferMintAmount ≤ u64Max)
    (hmanagement : managementFeeBasisPoints ≤ maxBasisPoints)
    (hperformance : performanceFeeBasisPoints ≤ maxBasisPoints)
    : ∃ (split : BufferAccrualBreakdown),
        calculateBufferFeeSplit bufferMintAmount aprDelta managementFeeBasisPoints
          performanceFeeBasisPoints currentNav performanceFeeHighWatermark
          performanceFeeHighWatermarkEnabled = .ok split ∧
        split.reserveMintAmount + split.managementFeeMintAmount + split.performanceFeeMintAmount
          = bufferMintAmount ∧
        split.managementFeeMintAmount
          ≤ bufferMintAmount * min (managementFeeBasisPoints * 100) aprDelta / aprDelta ∧
        split.performanceFeeMintAmount
          ≤ (bufferMintAmount - split.managementFeeMintAmount) * performanceFeeBasisPoints
            / 10000 := by
  have hfee := calculateBufferFeeSplit.managementFee_eq aprDelta hamount hmanagement
  have hle := calculateBufferFeeSplit.managementFee_le bufferMintAmount aprDelta
    managementFeeBasisPoints
  generalize bufferMintAmount * min (managementFeeBasisPoints * 100) aprDelta / aprDelta
    = management at *
  rcases calculateBufferFeeSplit.performanceFee_eq currentNav performanceFeeHighWatermark
    performanceFeeHighWatermarkEnabled
    (Nat.le_trans (Nat.sub_le bufferMintAmount management) hamount) hperformance
    with ⟨performance, hperf, hperf_le⟩
  have hcovered : performance ≤ bufferMintAmount - management := by
    apply Nat.le_trans hperf_le
    apply Nat.div_le_of_le_mul
    rw [Nat.mul_comm]
    apply Nat.mul_le_mul_right _ hperformance
  have hsplit : ∃ (split : BufferAccrualBreakdown),
      calculateBufferFeeSplit bufferMintAmount aprDelta managementFeeBasisPoints
        performanceFeeBasisPoints currentNav performanceFeeHighWatermark
        performanceFeeHighWatermarkEnabled = .ok split ∧
      split.managementFeeMintAmount = management ∧ split.performanceFeeMintAmount = performance := by
    simp only [calculateBufferFeeSplit, bind_eq_ok, okOr_eq_ok, checkedSub_eq_some, pure_eq_ok]
    exact ⟨_, ⟨management, hfee, _, ⟨hle, rfl⟩, performance, hperf, _, ⟨hcovered, rfl⟩, rfl⟩, rfl,
      rfl⟩
  rcases hsplit with ⟨split, hok, rfl, rfl⟩
  exact ⟨split, hok, (calculateBufferFeeSplit_sum hok).2, Nat.le_refl _, hperf_le⟩

section AccrueBuffer

/--
The faults that are left: a cap, an accrual or a new supply that does not fit, and the token
program's own check of the supply and of the balance it mints to.
-/
inductive AccrualFault (supply gross : Nat) : Fault → Prop where
  | maxSupply : AccrualFault supply gross (.onre .maxSupplyExceeded)
  | maxMintAmount : AccrualFault supply gross (.onre .maxMintAmountExceeded)
  | accrualOverflow (h : u64Max < gross) : AccrualFault supply gross (.onre .resultOverflow)
  | supplyOverflow (h : u64Max < supply + gross) : AccrualFault supply gross (.onre .mathOverflow)
  | tokenOverflow : AccrualFault supply gross (.token .overflow)

structure BufferState.Admissible (b : BufferState) : Prop where
  previousSupply : b.previousSupply ≤ u64Max
  grossApr : b.grossApr ≤ maxBufferGrossApr
  managementFee : b.managementFeeBasisPoints ≤ maxBasisPoints
  performanceFee : b.performanceFeeBasisPoints ≤ maxBasisPoints

variable {supply gross : Nat} {l : Ledger} {state : State} {mint : MintAccount}

theorem tokenCall_mintTo_failsOnlyWith (l : Ledger) (mint destination : Pubkey) (n : Nat)
    : FailsOnlyWith (AccrualFault supply gross) (tokenCall (l.mintTo u64Max mint destination n)) := by
  intro fault h
  rcases tokenCall_eq_error h with ⟨e, rfl, he⟩
  unfold Ledger.mintTo at he
  dsimp only at he
  split at he
  . cases he
  . cases he
    exact .tokenOverflow

theorem validateMaxSupply_failsOnlyWith {n maxSupply : Nat} (hn : n ≤ gross)
    : FailsOnlyWith (AccrualFault supply gross) (validateMaxSupply supply n maxSupply) := by
  unfold validateMaxSupply
  split
  . apply failsOnlyWith_bind
    . apply failsOnlyWith_okOr_of
      intro hnone
      have := checkedAdd_eq_none hnone
      exact .supplyOverflow (by omega)
    . intro _ _
      apply failsOnlyWith_require
      intro _
      exact .maxSupply
  . apply failsOnlyWith_pure

theorem mintTokens_failsOnlyWith {destination : Pubkey} {n maxSupply maxMintAmount : Nat}
    (hauthority : programControlsMint mint = true) (hn : n ≤ gross)
    : FailsOnlyWith (AccrualFault mint.supply gross)
        (mintTokens l mint destination n maxSupply maxMintAmount) := by
  unfold mintTokens
  apply failsOnlyWith_bind
  . apply failsOnlyWith_require
    intro _
    exact .maxMintAmount
  intro _ _
  apply failsOnlyWith_bind (validateMaxSupply_failsOnlyWith hn)
  intro _ _
  apply failsOnlyWith_bind
  . apply failsOnlyWith_require
    intro hforeign
    simp [programControlsMint, hforeign] at hauthority
  intro _ _
  apply tokenCall_mintTo_failsOnlyWith

theorem mintAll_failsOnlyWith {destinations : List (Pubkey × Nat)}
    (hauthority : programControlsMint mint = true) (hn : ∀ entry ∈ destinations, entry.2 ≤ gross)
    : FailsOnlyWith (AccrualFault mint.supply gross)
        (accrueBuffer.mintAll l state mint destinations) := by
  induction destinations generalizing l with
  | nil => apply failsOnlyWith_pure
  | cons head rest ih =>
    rcases head with ⟨destination, amount⟩
    rw [List.forall_mem_cons] at hn
    unfold accrueBuffer.mintAll
    split
    . apply failsOnlyWith_bind (mintTokens_failsOnlyWith hauthority hn.1)
      intro _ _
      exact ih hn.2
    . exact ih hn.2

theorem mintSplit_failsOnlyWith {split : BufferAccrualBreakdown}
    (hauthority : programControlsMint mint = true)
    (hsum : split.reserveMintAmount + split.managementFeeMintAmount + split.performanceFeeMintAmount
      = split.bufferMintAmount)
    : FailsOnlyWith (AccrualFault mint.supply split.bufferMintAmount)
        (accrueBuffer.mintSplit l state mint split) := by
  unfold accrueBuffer.mintSplit
  split
  . apply failsOnlyWith_bind (validateMaxSupply_failsOnlyWith (Nat.le_refl _))
    intro _ _
    apply failsOnlyWith_bind
    . apply failsOnlyWith_require
      intro _
      exact .maxMintAmount
    intro _ _
    apply mintAll_failsOnlyWith hauthority
    simp only [List.mem_cons, List.not_mem_nil, or_false, forall_eq_or_imp, forall_eq]
    omega
  . apply failsOnlyWith_pure

theorem mintSplit_reserve_le {l' : Ledger} {split : BufferAccrualBreakdown}
    (hbalance : l.balance .reserveVaultAuthority mint.key ≤ u64Max)
    (hsum : split.reserveMintAmount + split.managementFeeMintAmount + split.performanceFeeMintAmount
      = split.bufferMintAmount)
    (h : accrueBuffer.mintSplit l state mint split = .ok l')
    : l.balance .reserveVaultAuthority mint.key + split.reserveMintAmount ≤ u64Max := by
  unfold accrueBuffer.mintSplit at h
  split at h
  . simp only [bind_eq_ok] at h
    rcases h with ⟨_, _, _, _, hall⟩
    unfold accrueBuffer.mintAll at hall
    split at hall
    . simp only [mintTokens, bind_eq_ok, tokenCall_eq_ok] at hall
      rcases hall with ⟨_, ⟨_, _, _, _, _, _, hmint⟩, _⟩
      unfold Ledger.mintTo at hmint
      dsimp only at hmint
      split at hmint
      . next hfits => exact hfits.1
      . cases hmint
    . omega
  . omega

theorem accrueBuffer_failsOnlyWith {bufferState : BufferState} {now : Int} (offer : Offer)
    (hadmissible : bufferState.Admissible) (hauthority : programControlsMint mint = true)
    (hbalance : l.balance .reserveVaultAuthority mint.key ≤ u64Max)
    (hlast : bufferState.lastAccrualTimestamp ≤ now)
    (helapsed : now - bufferState.lastAccrualTimestamp ≤ 2 ^ 43)
    : FailsOnlyWith
        (fun fault =>
          getActiveVectorAndCurrentPrice offer (asU64 now) = .error fault ∨
            ∃ (vector : OfferVector) (nav : Nat),
              getActiveVectorAndCurrentPrice offer (asU64 now) = .ok (vector, nav) ∧
              AccrualFault mint.supply (grossAccrual bufferState.previousSupply
                bufferState.grossApr vector.apr
                (now - bufferState.lastAccrualTimestamp).toNat) fault)
        (accrueBuffer state bufferState offer mint l now) := by
  unfold accrueBuffer
  rw [require_of hlast, ok_bind]
  apply failsOnlyWith_bind
  . intro fault hfault
    exact .inl hfault
  rintro ⟨vector, nav⟩ hactive
  have hsub : checkedSubInt i64Min i64Max now bufferState.lastAccrualTimestamp
      = some (now - bufferState.lastAccrualTimestamp) := by
    rw [checkedSubInt_eq_some]
    unfold i64Min i64Max
    omega
  have hseconds : asU64 (now - bufferState.lastAccrualTimestamp)
      = (now - bufferState.lastAccrualTimestamp).toNat := by
    unfold asU64
    omega
  rw [hsub]
  dsimp only [orPanic, Checked.okOr]
  rw [ok_bind]
  split
  . apply failsOnlyWith_pure
  rw [hseconds]
  have htime : (now - bufferState.lastAccrualTimestamp).toNat ≤ 2 ^ 43 := by omega
  have haccrual := calculateGrossBufferAccrual_exact vector.apr hadmissible.previousSupply
    hadmissible.grossApr htime
  rw [haccrual]
  split
  . next hfits =>
    rw [ok_bind]
    rcases calculateBufferFeeSplit_exact (bufferState.grossApr - vector.apr) nav
      bufferState.performanceFeeHighWatermark bufferState.performanceFeeHighWatermarkEnabled hfits
      hadmissible.managementFee hadmissible.performanceFee with ⟨split, hsplit, hsum, _, _⟩
    have hamount := (calculateBufferFeeSplit_sum hsplit).1
    rw [hsplit, ok_bind]
    apply failsOnlyWith_bind
    . intro fault hfault
      have := mintSplit_failsOnlyWith hauthority (hsum.trans hamount.symm) fault hfault
      rw [hamount] at this
      exact .inr ⟨vector, nav, hactive, this⟩
    intro _ hmint
    apply failsOnlyWith_bind
    . apply failsOnlyWith_okOr_of
      intro hnone
      exact .inr ⟨vector, nav, hactive, .supplyOverflow (checkedAdd_eq_none hnone)⟩
    intro _ _
    apply failsOnlyWith_bind
    . -- the token program has already accepted this balance
      apply failsOnlyWith_okOr_of
      intro hnone
      have := checkedAdd_eq_none hnone
      have := mintSplit_reserve_le hbalance (hsum.trans hamount.symm) hmint
      omega
    intro _ _
    apply failsOnlyWith_pure
  . next hover =>
    intro fault hfault
    cases hfault
    exact .inr ⟨vector, nav, hactive, .accrualOverflow (by omega)⟩

end AccrueBuffer

theorem accrual_exact
    : (∀ (previousSupply grossApr currentYield secondsElapsed : Nat),
        previousSupply ≤ u64Max → grossApr ≤ 1000000 → secondsElapsed ≤ 2 ^ 43 →
        calculateGrossBufferAccrual previousSupply grossApr currentYield secondsElapsed
            =
          (if grossAccrual previousSupply grossApr currentYield secondsElapsed ≤ u64Max then
            .ok (grossAccrual previousSupply grossApr currentYield secondsElapsed)
          else
            .error (.onre .resultOverflow)) ∧
        (secondsElapsed ≤ secondsPerYear → ∃ (minted : Nat),
          calculateGrossBufferAccrual previousSupply grossApr currentYield secondsElapsed
            = .ok minted ∧ minted ≤ previousSupply)) ∧
      (∀ (bufferMintAmount aprDelta managementFeeBasisPoints performanceFeeBasisPoints currentNav
          performanceFeeHighWatermark : Nat) (performanceFeeHighWatermarkEnabled : Bool),
        bufferMintAmount ≤ u64Max → managementFeeBasisPoints ≤ 10000 →
        performanceFeeBasisPoints ≤ 10000 →
        ∃ (split : BufferAccrualBreakdown),
          calculateBufferFeeSplit bufferMintAmount aprDelta managementFeeBasisPoints
            performanceFeeBasisPoints currentNav performanceFeeHighWatermark
            performanceFeeHighWatermarkEnabled = .ok split ∧
          split.reserveMintAmount + split.managementFeeMintAmount +
            split.performanceFeeMintAmount = bufferMintAmount ∧
          split.managementFeeMintAmount
            ≤ bufferMintAmount * min (managementFeeBasisPoints * 100) aprDelta / aprDelta ∧
          split.performanceFeeMintAmount
            ≤ (bufferMintAmount - split.managementFeeMintAmount) * performanceFeeBasisPoints
              / 10000) ∧
      (∀ (state : State) (bufferState : BufferState) (offer : Offer) (mint : MintAccount)
          (l : Ledger) (now : Int),
        bufferState.Admissible → programControlsMint mint = true →
        l.balance .reserveVaultAuthority mint.key ≤ u64Max →
        bufferState.lastAccrualTimestamp ≤ now →
        now - bufferState.lastAccrualTimestamp ≤ 2 ^ 43 →
        FailsOnlyWith
          (fun fault =>
            getActiveVectorAndCurrentPrice offer (asU64 now) = .error fault ∨
              ∃ (vector : OfferVector) (nav : Nat),
                getActiveVectorAndCurrentPrice offer (asU64 now) = .ok (vector, nav) ∧
                AccrualFault mint.supply (grossAccrual bufferState.previousSupply
                  bufferState.grossApr vector.apr
                  (now - bufferState.lastAccrualTimestamp).toNat) fault)
          (accrueBuffer state bufferState offer mint l now)) := by
  refine ⟨?_, ?_, ?_⟩
  . intro previousSupply grossApr currentYield secondsElapsed hsupply hgross htime
    have hexact := calculateGrossBufferAccrual_exact currentYield hsupply hgross htime
    refine ⟨hexact, ?_⟩
    intro hyear
    have hle := grossAccrual_le_of_year previousSupply currentYield hgross hyear
    rw [if_pos (Nat.le_trans hle hsupply)] at hexact
    exact ⟨_, hexact, hle⟩
  . intro bufferMintAmount aprDelta _ _ currentNav watermark enabled hamount hmanagement hperformance
    exact calculateBufferFeeSplit_exact aprDelta currentNav watermark enabled hamount hmanagement
      hperformance
  . intro state bufferState offer mint l now hadmissible hauthority hbalance hlast helapsed
    exact accrueBuffer_failsOnlyWith offer hadmissible hauthority hbalance hlast helapsed

section Month

def monthState : State where
  boss := .external 1
  isKilled := false
  onycMint := .external 2
  maxSupply := 0
  worker := .external 1
  maxMintAmount := 0
  mainOffer := .offer (.external 3) (.external 2)

def monthBuffer : BufferState where
  onycMint := .external 2
  grossApr := 100000
  previousSupply := 1000000000
  managementFeeBasisPoints := 100
  performanceFeeBasisPoints := 1000
  performanceFeeHighWatermark := 1000000000
  performanceFeeHighWatermarkEnabled := true
  lastAccrualTimestamp := 1000

theorem accrual_exact_month
    : (∃ (minted : Nat), calculateGrossBufferAccrual 1000000000 100000 40000 2592000 = .ok minted ∧
        minted ≤ 1000000000) ∧
      (∃ (split : BufferAccrualBreakdown),
        calculateBufferFeeSplit 4915346 60000 100 1000 1000000000 1000000000 true = .ok split ∧
        split.reserveMintAmount + split.managementFeeMintAmount + split.performanceFeeMintAmount
          = 4915346) ∧
      FailsOnlyWith
        (fun fault =>
          getActiveVectorAndCurrentPrice
              (offerForTest (.external 3) (.external 2) 0 activeVectorForTest) (asU64 2593000)
              = .error fault ∨
            ∃ (vector : OfferVector) (nav : Nat),
              getActiveVectorAndCurrentPrice
                (offerForTest (.external 3) (.external 2) 0 activeVectorForTest) (asU64 2593000)
                = .ok (vector, nav) ∧
              AccrualFault (mintForTest (.external 2) 9).supply (grossAccrual
                monthBuffer.previousSupply monthBuffer.grossApr vector.apr
                (2593000 - monthBuffer.lastAccrualTimestamp).toNat) fault)
        (accrueBuffer monthState monthBuffer
          (offerForTest (.external 3) (.external 2) 0 activeVectorForTest)
          (mintForTest (.external 2) 9) .empty 2593000) := by
  have hgross := accrual_exact.1 1000000000 100000 40000 2592000 (by decide) (by decide) (by decide)
  have hsplit := accrual_exact.2.1 4915346 60000 100 1000 1000000000 1000000000 true (by decide)
    (by decide) (by decide)
  rcases hsplit with ⟨split, hok, hsum, _⟩
  refine ⟨hgross.2 (by decide), ⟨split, hok, hsum⟩, ?_⟩
  apply accrual_exact.2.2 monthState monthBuffer
  . exact ⟨by decide, by decide, by decide, by decide⟩
  . decide
  . decide
  . decide
  . decide

end Month

example : calculateGrossBufferAccrual 1000000000 100000 40000 2592000 = .ok 4915346 := by decide

end OnreApp
