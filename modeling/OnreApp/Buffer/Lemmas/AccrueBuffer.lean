import OnreApp.Buffer.Impl.AccrueBuffer
import OnreApp.Utils.Lemmas.TokenOps

namespace OnreApp

open Checked TokenLedger

variable {k m : Pubkey} {p : Pubkey → Bool}

theorem calculateAccrualFromAprDelta_zero (aprDelta currentYield secondsElapsed : Nat)
    : calculateAccrualFromAprDelta 0 aprDelta currentYield secondsElapsed = .ok 0 := by
  unfold calculateAccrualFromAprDelta
  simp [pure, Except.pure]

theorem calculateBufferFeeSplit_sum {bufferMintAmount aprDelta managementFeeBasisPoints
    performanceFeeBasisPoints currentNav performanceFeeHighWatermark : Nat}
    {performanceFeeHighWatermarkEnabled : Bool} {split : BufferAccrualBreakdown}
    (h : calculateBufferFeeSplit bufferMintAmount aprDelta managementFeeBasisPoints
      performanceFeeBasisPoints currentNav performanceFeeHighWatermark
      performanceFeeHighWatermarkEnabled = .ok split)
    : split.bufferMintAmount = bufferMintAmount ∧
      split.reserveMintAmount + split.managementFeeMintAmount + split.performanceFeeMintAmount
        =
      bufferMintAmount := by
  unfold calculateBufferFeeSplit at h
  simp only [bind_eq_ok, okOr_eq_ok, checkedSub_eq_some, pure_eq_ok] at h
  rcases h with ⟨management, _, _, ⟨hmanagement, rfl⟩, performance, _, _, ⟨hperformance, rfl⟩, rfl⟩
  constructor
  . rfl
  . dsimp only
    omega

theorem calculateBufferFeeSplit_watermark {bufferMintAmount aprDelta managementFeeBasisPoints
    performanceFeeBasisPoints currentNav performanceFeeHighWatermark : Nat}
    {performanceFeeHighWatermarkEnabled : Bool} {split : BufferAccrualBreakdown}
    (h : calculateBufferFeeSplit bufferMintAmount aprDelta managementFeeBasisPoints
      performanceFeeBasisPoints currentNav performanceFeeHighWatermark
      performanceFeeHighWatermarkEnabled = .ok split)
    : split.newPerformanceFeeHighWatermark = max performanceFeeHighWatermark currentNav ∧
      (performanceFeeHighWatermarkEnabled = true → split.performanceFeeMintAmount ≠ 0 →
        performanceFeeHighWatermark ≤ currentNav) := by
  unfold calculateBufferFeeSplit at h
  simp only [bind_eq_ok, pure_eq_ok] at h
  rcases h with ⟨_, _, _, _, performance, hperformance, _, _, rfl⟩
  refine ⟨rfl, ?_⟩
  intro henabled hpositive
  unfold calculateBufferFeeSplit.performanceFee at hperformance
  split at hperformance
  . next hcase =>
    rw [henabled] at hcase
    rcases hcase with hdisabled | hreached
    . cases hdisabled
    . exact hreached.2
  . cases hperformance
    exact absurd rfl hpositive

namespace accrueBuffer

def mintAllOps (onycMint : Pubkey) (supply : Nat) : List (Pubkey × Nat) → List LedgerOp
  | [] => []
  | (destination, amount) :: rest =>
    (if 0 < amount then [.mintTo onycMint destination amount (supply + amount)] else []) ++
      mintAllOps onycMint (supply + amount) rest

section MintAllOps

variable {onycMint : Pubkey} {supply : Nat} {destinations : List (Pubkey × Nat)}

theorem minted_mintAllOps :
    minted m (mintAllOps onycMint supply destinations)
      =
    if m = onycMint then (destinations.map Prod.snd).sum else 0 := by
  induction destinations generalizing supply with
  | nil => simp [mintAllOps]
  | cons head rest ih =>
    rcases head with ⟨destination, amount⟩
    simp only [mintAllOps, minted_append, ih]
    split <;> split <;> simp_all [Op.minted]

theorem mintedTo_mintAllOps :
    mintedTo p m (mintAllOps onycMint supply destinations)
      =
    if m = onycMint then ((destinations.filter fun entry => p entry.1).map Prod.snd).sum else 0 := by
  induction destinations generalizing supply with
  | nil => simp [mintAllOps]
  | cons head rest ih =>
    rcases head with ⟨destination, amount⟩
    have hhead : mintedTo p m (if 0 < amount then
        [.mintTo onycMint destination amount (supply + amount)] else [])
        = if m = onycMint ∧ p destination then amount else 0 := by
      split
      . simp [Op.mintedTo]
      . have : amount = 0 := by omega
        simp [this]
    simp only [mintAllOps, mintedTo_append, ih, List.filter_cons, hhead]
    by_cases heq : m = onycMint
    . by_cases hp : p destination = true <;> simp [heq, hp]
    . simp [heq]

@[simp]
theorem burned_mintAllOps : burned m (mintAllOps onycMint supply destinations) = 0 := by
  induction destinations generalizing supply with
  | nil => simp [mintAllOps]
  | cons head rest ih =>
    simp only [mintAllOps, burned_append, ih]
    split <;> simp [Op.burned]

@[simp]
theorem debited_mintAllOps : debited k m (mintAllOps onycMint supply destinations) = 0 := by
  induction destinations generalizing supply with
  | nil => simp [mintAllOps]
  | cons head rest ih =>
    simp only [mintAllOps, debited_append, ih]
    split <;> simp [Op.debited]

theorem credited_mintAllOps (hk : ∀ entry ∈ destinations, k ≠ entry.1)
    : credited k m (mintAllOps onycMint supply destinations) = 0 := by
  induction destinations generalizing supply with
  | nil => simp [mintAllOps]
  | cons head rest ih =>
    have hrest := @ih (supply + head.2) fun entry h => hk entry (by simp [h])
    have hhead := hk head (by simp)
    simp only [mintAllOps, credited_append, hrest]
    split <;> simp [Op.credited, hhead]

end MintAllOps

theorem mintAll_performs {l l' : Ledger} {state : State} {onycMint : MintAccount}
    {destinations : List (Pubkey × Nat)} (h : mintAll l state onycMint destinations = .ok l')
    : Performs u64Max l (mintAllOps onycMint.key (l.supply onycMint.key) destinations) l' := by
  induction destinations generalizing l with
  | nil =>
    cases h
    exact .nil _
  | cons head rest ih =>
    rcases head with ⟨destination, amount⟩
    unfold mintAll at h
    unfold mintAllOps
    split at h
    . next hpos =>
      rw [bind_eq_ok] at h
      rcases h with ⟨l₁, hmint, hrest⟩
      have hfirst := (mintTokens_inv hmint).1
      have hsupply := hfirst.supply onycMint.key
      simp only [burned_cons, minted_cons, burned_nil, minted_nil, Op.burned, Op.minted,
        ↓reduceIte] at hsupply
      rw [if_pos hpos]
      apply hfirst.append
      have hrest := ih hrest
      rwa [show l₁.supply onycMint.key = l.supply onycMint.key + amount by omega] at hrest
    . next hzero =>
      have : amount = 0 := by omega
      rw [if_neg hzero, this]
      exact ih h

end accrueBuffer

def isAccrualVault : Pubkey → Bool
  | .reserveVaultAuthority => true
  | .configurableVault .managementFee => true
  | .configurableVault .performanceFee => true
  | _ => false

def accrualOps (onycMint : Pubkey) (supply : Nat) (result : BufferAccrualResult)
    : List LedgerOp :=
  accrueBuffer.mintAllOps onycMint supply [
    (.reserveVaultAuthority, result.reserveMintAmount),
    (.configurableVault .managementFee, result.managementFeeMintAmount),
    (.configurableVault .performanceFee, result.performanceFeeMintAmount)
  ]

section AccrualOps

variable {onycMint : Pubkey} {supply : Nat} {result : BufferAccrualResult}

theorem minted_accrualOps :
    minted m (accrualOps onycMint supply result)
      =
    if m = onycMint then
      result.reserveMintAmount + result.managementFeeMintAmount + result.performanceFeeMintAmount
    else 0 := by
  unfold accrualOps
  rw [accrueBuffer.minted_mintAllOps]
  simp [Nat.add_assoc]

theorem mintedTo_isAccrualVault_accrualOps :
    mintedTo isAccrualVault m (accrualOps onycMint supply result)
      =
    if m = onycMint then
      result.reserveMintAmount + result.managementFeeMintAmount + result.performanceFeeMintAmount
    else 0 := by
  unfold accrualOps
  rw [accrueBuffer.mintedTo_mintAllOps]
  simp [isAccrualVault, Nat.add_assoc]

theorem mintedTo_not_isAccrualVault_accrualOps :
    mintedTo (fun account => !isAccrualVault account) m (accrualOps onycMint supply result) = 0 := by
  unfold accrualOps
  rw [accrueBuffer.mintedTo_mintAllOps]
  simp [isAccrualVault]

theorem mintedTo_reserveVault_accrualOps :
    mintedTo (fun k => k = .reserveVaultAuthority) onycMint (accrualOps onycMint supply result)
      =
    result.reserveMintAmount := by
  unfold accrualOps
  rw [accrueBuffer.mintedTo_mintAllOps]
  simp

theorem mintedTo_managementFeeVault_accrualOps :
    mintedTo (fun k => k = .configurableVault .managementFee) onycMint
        (accrualOps onycMint supply result)
      =
    result.managementFeeMintAmount := by
  unfold accrualOps
  rw [accrueBuffer.mintedTo_mintAllOps]
  simp

theorem mintedTo_performanceFeeVault_accrualOps :
    mintedTo (fun k => k = .configurableVault .performanceFee) onycMint
        (accrualOps onycMint supply result)
      =
    result.performanceFeeMintAmount := by
  unfold accrualOps
  rw [accrueBuffer.mintedTo_mintAllOps]
  simp

@[simp]
theorem burned_accrualOps : burned m (accrualOps onycMint supply result) = 0 := by
  simp [accrualOps]

@[simp]
theorem debited_accrualOps : debited k m (accrualOps onycMint supply result) = 0 := by
  simp [accrualOps]

theorem credited_accrualOps (hk : isAccrualVault k = false)
    : credited k m (accrualOps onycMint supply result) = 0 := by
  unfold accrualOps
  apply accrueBuffer.credited_mintAllOps
  simp only [List.mem_cons, List.not_mem_nil, or_false, forall_eq_or_imp, forall_eq]
  refine ⟨?_, ?_, ?_⟩ <;> rintro rfl <;> cases hk

end AccrualOps

structure Accrued (state : State) (offer : Offer) (onycMint : MintAccount) (now : Int)
    (before after : BufferState) (l l' : Ledger) (result : BufferAccrualResult) : Prop where
  gross : ∃ (activeVector : OfferVector),
    getActiveVectorAndCurrentPrice offer (asU64 now) = .ok (activeVector, result.currentNav) ∧
    calculateGrossBufferAccrual before.previousSupply before.grossApr activeVector.apr
      (asU64 (now - before.lastAccrualTimestamp)) = .ok result.bufferMintAmount
  split : result.reserveMintAmount + result.managementFeeMintAmount +
    result.performanceFeeMintAmount = result.bufferMintAmount
  performs : Performs u64Max l (accrualOps onycMint.key (l.supply onycMint.key) result) l'
  postAccrualSupply : result.postAccrualSupply = onycMint.supply + result.bufferMintAmount
  timestamp : result.timestamp = now
  previousSupply : after.previousSupply = result.postAccrualSupply
  lastAccrualTimestamp : after.lastAccrualTimestamp = now
  maxSupply : 0 < state.maxSupply →
    result.bufferMintAmount = 0 ∨ onycMint.supply + result.bufferMintAmount ≤ state.maxSupply
  maxMintAmount : 0 < state.maxMintAmount → result.bufferMintAmount ≤ state.maxMintAmount
  computed : accrueBuffer state before offer onycMint l now = .ok (result, after, l')
  oldPreviousSupply : result.oldPreviousSupply = before.previousSupply
  after_eq : after = { before with
    previousSupply := result.postAccrualSupply
    lastAccrualTimestamp := now
    performanceFeeHighWatermark := result.newPerformanceFeeHighWatermark
  }
  watermark : result.newPerformanceFeeHighWatermark =
    if before.previousSupply = 0 then result.currentNav
    else max before.performanceFeeHighWatermark result.currentNav
  performanceFee : before.performanceFeeHighWatermarkEnabled = true →
    result.performanceFeeMintAmount ≠ 0 →
    before.previousSupply ≠ 0 ∧ before.performanceFeeHighWatermark ≤ result.currentNav

theorem Accrued.currentNav_le {state : State} {offer : Offer} {mint : MintAccount} {now : Int}
    {before after : BufferState} {l l' : Ledger} {result : BufferAccrualResult}
    (h : Accrued state offer mint now before after l l' result)
    : result.currentNav ≤ result.newPerformanceFeeHighWatermark := by
  rw [h.watermark]
  split
  . exact Nat.le_refl _
  . apply Nat.le_max_right

theorem Accrued.ops_eq_nil {state : State} {offer : Offer} {mint : MintAccount} {now : Int}
    {before after : BufferState} {l l' : Ledger} {result : BufferAccrualResult}
    (h : Accrued state offer mint now before after l l' result)
    (hzero : result.bufferMintAmount = 0) {onycMint : Pubkey} {supply : Nat}
    : accrualOps onycMint supply result = [] := by
  have hsplit := h.split
  have hreserve : result.reserveMintAmount = 0 := by omega
  have hmanagement : result.managementFeeMintAmount = 0 := by omega
  have hperformance : result.performanceFeeMintAmount = 0 := by omega
  simp [accrualOps, accrueBuffer.mintAllOps, hreserve, hmanagement, hperformance]

theorem accrueBuffer.mintSplit_inv {l l' : Ledger} {state : State} {onycMint : MintAccount}
    {feeSplit : BufferAccrualBreakdown}
    (hsum : feeSplit.reserveMintAmount + feeSplit.managementFeeMintAmount +
      feeSplit.performanceFeeMintAmount = feeSplit.bufferMintAmount)
    (h : mintSplit l state onycMint feeSplit = .ok l')
    : Performs u64Max l (mintAllOps onycMint.key (l.supply onycMint.key) [
          (.reserveVaultAuthority, feeSplit.reserveMintAmount),
          (.configurableVault .managementFee, feeSplit.managementFeeMintAmount),
          (.configurableVault .performanceFee, feeSplit.performanceFeeMintAmount)
        ]) l' ∧
      (0 < state.maxSupply → feeSplit.bufferMintAmount = 0 ∨
        onycMint.supply + feeSplit.bufferMintAmount ≤ state.maxSupply) ∧
      (0 < state.maxMintAmount → feeSplit.bufferMintAmount ≤ state.maxMintAmount) := by
  unfold mintSplit at h
  split at h
  . simp only [bind_eq_ok, require_eq_ok] at h
    rcases h with ⟨_, hsupply, _, hmint, hall⟩
    refine ⟨mintAll_performs hall, ?_, hmint⟩
    intro hpos
    exact .inr (validateMaxSupply_inv hsupply hpos)
  . next hzero =>
    cases h
    have hreserve : feeSplit.reserveMintAmount = 0 := by omega
    have hmanagement : feeSplit.managementFeeMintAmount = 0 := by omega
    have hperformance : feeSplit.performanceFeeMintAmount = 0 := by omega
    simp only [hreserve, hmanagement, hperformance, mintAllOps, lt_self_iff_false, ↓reduceIte,
      List.append_nil]
    exact ⟨.nil l, fun _ => .inl (by omega), fun _ => by omega⟩

theorem accrueBuffer_inv {state : State} {before after : BufferState} {offer : Offer}
    {onycMint : MintAccount} {l l' : Ledger} {now : Int} {result : BufferAccrualResult}
    (h : accrueBuffer state before offer onycMint l now = .ok (result, after, l'))
    : Accrued state offer onycMint now before after l l' result := by
  have hcomputed := h
  unfold accrueBuffer at h
  simp only [bind_eq_ok, require_eq_ok, okOr_eq_ok, checkedSubInt_eq_some] at h
  rcases h with ⟨_, _, ⟨activeVector, currentNav⟩, hactive, _, ⟨_, rfl⟩, h⟩
  split at h
  . next hzero =>
    -- no baseline yet: the gross accrual on a supply of 0 is 0 as well
    simp only [pure_eq_ok, Prod.mk.injEq] at h
    rcases h with ⟨rfl, rfl, rfl⟩
    have hgross : calculateGrossBufferAccrual before.previousSupply before.grossApr activeVector.apr
        (asU64 (now - before.lastAccrualTimestamp)) = .ok 0 := by
      rw [hzero]
      apply calculateAccrualFromAprDelta_zero
    exact {
      gross := ⟨activeVector, hactive, hgross⟩
      split := rfl
      performs := by
        simp only [accrualOps, accrueBuffer.mintAllOps, lt_self_iff_false, ↓reduceIte,
          List.append_nil]
        exact .nil l
      postAccrualSupply := rfl
      timestamp := rfl
      previousSupply := rfl
      lastAccrualTimestamp := rfl
      maxSupply := fun _ => .inl rfl
      maxMintAmount := fun _ => Nat.zero_le _
      computed := hcomputed
      oldPreviousSupply := rfl
      after_eq := rfl
      watermark := by rw [if_pos hzero]
      performanceFee := fun _ hpositive => absurd rfl hpositive
    }
  . next hpositive =>
    simp only [bind_eq_ok, okOr_eq_ok, checkedAdd_eq_some, pure_eq_ok, Prod.mk.injEq] at h
    rcases h with ⟨gross, hgross, feeSplit, hsplit, _, hmint, _, ⟨_, rfl⟩, _, _, rfl, rfl, rfl⟩
    rcases calculateBufferFeeSplit_watermark hsplit with ⟨hwatermark, hfee⟩
    rcases calculateBufferFeeSplit_sum hsplit with ⟨heq, hsum⟩
    rcases accrueBuffer.mintSplit_inv (hsum.trans heq.symm) hmint with ⟨hperforms, hsupply, hcap⟩
    exact {
      gross := ⟨activeVector, hactive, by rw [heq]; exact hgross⟩
      split := hsum.trans heq.symm
      performs := hperforms
      postAccrualSupply := by rw [heq]
      timestamp := rfl
      previousSupply := rfl
      lastAccrualTimestamp := rfl
      maxSupply := hsupply
      maxMintAmount := hcap
      computed := hcomputed
      oldPreviousSupply := rfl
      after_eq := rfl
      watermark := by
        rw [if_neg hpositive]
        exact hwatermark
      performanceFee := fun henabled hminted => ⟨hpositive, hfee henabled hminted⟩
    }

end OnreApp
