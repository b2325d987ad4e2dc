import OnreApp.Lib.LedgerTrace
import OnreApp.Utils.Impl.TokenUtils

namespace OnreApp

open Checked TokenLedger

variable {l l' : Ledger} {mint : MintAccount} {source destination k m : Pubkey} {p : Pubkey → Bool}
  {n maxSupply maxMintAmount : Nat}

abbrev LedgerOp := Op Pubkey Pubkey

def transferOps (mint source destination : Pubkey) (n : Nat) : List LedgerOp :=
  if 0 < n then [.transfer mint source destination n] else []

section TransferOps

variable {mintKey : Pubkey}

@[simp]
theorem minted_transferOps : minted m (transferOps mintKey source destination n) = 0 := by
  unfold transferOps
  split <;> simp [Op.minted]

@[simp]
theorem mints_transferOps : mints m (transferOps mintKey source destination n) = false := by
  unfold transferOps
  split <;> simp [Op.mints]

@[simp]
theorem mintedTo_transferOps : mintedTo p m (transferOps mintKey source destination n) = 0 := by
  unfold transferOps
  split <;> simp [Op.mintedTo]

@[simp]
theorem burned_transferOps : burned m (transferOps mintKey source destination n) = 0 := by
  unfold transferOps
  split <;> simp [Op.burned]

@[simp]
theorem debited_transferOps :
    debited k m (transferOps mintKey source destination n)
      =
    if k = source ∧ m = mintKey then n else 0 := by
  unfold transferOps
  split
  . simp [Op.debited]
  . have : n = 0 := by omega
    simp [this]

@[simp]
theorem credited_transferOps :
    credited k m (transferOps mintKey source destination n)
      =
    if k = destination ∧ m = mintKey then n else 0 := by
  unfold transferOps
  split
  . simp [Op.credited]
  . have : n = 0 := by omega
    simp [this]

end TransferOps

section Calls

theorem tokenCall_eq_ok {x : Except TokenLedger.Error Ledger} : tokenCall x = .ok l ↔ x = .ok l := by
  cases x <;> simp [tokenCall]

theorem tokenCall_eq_error {x : Except TokenLedger.Error Ledger} {e : Fault}
    (h : tokenCall x = .error e) : ∃ (t : TokenLedger.Error), e = .token t ∧ x = .error t := by
  cases x with
  | ok => cases h
  | error t =>
    cases h
    exact ⟨t, rfl, rfl⟩

theorem transferTokens_performs (h : transferTokens l mint source destination n = .ok l')
    : Performs u64Max l [.transfer mint.key source destination n] l' :=
  .transfer (tokenCall_eq_ok.mp h) (.nil l')

theorem transferPositive_performs (h : transferPositive l mint source destination n = .ok l')
    : Performs u64Max l (transferOps mint.key source destination n) l' := by
  unfold transferPositive at h
  unfold transferOps
  split at h
  . next hpos =>
    rw [if_pos hpos]
    apply transferTokens_performs h
  . next hzero =>
    rw [if_neg hzero]
    cases h
    exact .nil l

theorem validateMaxSupply_inv {currentSupply : Nat}
    (h : validateMaxSupply currentSupply n maxSupply = .ok ())
    : 0 < maxSupply → currentSupply + n ≤ maxSupply := by
  intro hpos
  unfold validateMaxSupply at h
  rw [if_pos hpos] at h
  simp only [bind_eq_ok, okOr_eq_ok, checkedAdd_eq_some, require_eq_ok] at h
  rcases h with ⟨_, ⟨_, rfl⟩, hle⟩
  exact hle

theorem mintTokens_inv (h : mintTokens l mint destination n maxSupply maxMintAmount = .ok l')
    : Performs u64Max l [.mintTo mint.key destination n (l.supply mint.key + n)] l' ∧
      (0 < maxSupply → mint.supply + n ≤ maxSupply) ∧ (0 < maxMintAmount → n ≤ maxMintAmount) := by
  unfold mintTokens at h
  simp only [bind_eq_ok, require_eq_ok] at h
  rcases h with ⟨_, hmint, _, hsupply, _, _, hcall⟩
  exact ⟨.mintTo (tokenCall_eq_ok.mp hcall) (.nil l'), validateMaxSupply_inv hsupply, hmint⟩

theorem burnTokens_performs (h : burnTokens l mint source n = .ok l')
    : Performs u64Max l [.burn mint.key source n] l' :=
  .burn (tokenCall_eq_ok.mp h) (.nil l')

section InsufficientFunds

theorem transferTokens_insufficientFunds
    (h : transferTokens l mint source destination n = .error (.token .insufficientFunds))
    : l.balance source mint.key < n := by
  rcases tokenCall_eq_error h with ⟨t, ht, htransfer⟩
  cases ht
  apply Ledger.transfer_eq_insufficientFunds htransfer

theorem transferPositive_insufficientFunds
    (h : transferPositive l mint source destination n = .error (.token .insufficientFunds))
    : l.balance source mint.key < n := by
  unfold transferPositive at h
  split at h
  . apply transferTokens_insufficientFunds h
  . cases h

theorem burnTokens_insufficientFunds
    (h : burnTokens l mint source n = .error (.token .insufficientFunds))
    : l.balance source mint.key < n := by
  rcases tokenCall_eq_error h with ⟨t, ht, hburn⟩
  cases ht
  apply Ledger.burn_eq_insufficientFunds hburn

end InsufficientFunds

end Calls

namespace executeTokenOperations

variable {params : ExecTokenOpsParams}

def takeOps (params : ExecTokenOpsParams) : List LedgerOp :=
  let feeOps := transferOps params.tokenInMint.key params.tokenInSourceAccount
    params.tokenInFeeDestinationAccount params.tokenInFeeAmount
  if programControlsMint params.tokenInMint then
    [.transfer params.tokenInMint.key params.tokenInSourceAccount params.tokenInBurnAccount
        params.tokenInNetAmount,
      .burn params.tokenInMint.key params.tokenInBurnAccount params.tokenInNetAmount] ++ feeOps
  else
    transferOps params.tokenInMint.key params.tokenInSourceAccount
        (params.tokenInRefillDestinationAccount.getD .default) params.tokenInRefillAmount ++
      transferOps params.tokenInMint.key params.tokenInSourceAccount
        params.tokenInDestinationAccount (params.tokenInNetAmount - params.tokenInRefillAmount) ++
      feeOps

def distributeOps (supply : Nat) (params : ExecTokenOpsParams) : List LedgerOp :=
  if programControlsMint params.tokenOutMint then
    [.mintTo params.tokenOutMint.key params.tokenOutDestinationAccount params.tokenOutAmount
      (supply + params.tokenOutAmount)]
  else
    [.transfer params.tokenOutMint.key params.tokenOutSourceAccount
      params.tokenOutDestinationAccount params.tokenOutAmount]

theorem refill_performs (h : refill l params = .ok l')
    : Performs u64Max l
        (transferOps params.tokenInMint.key params.tokenInSourceAccount
          (params.tokenInRefillDestinationAccount.getD .default) params.tokenInRefillAmount) l' := by
  unfold refill at h
  unfold transferOps
  split at h
  . next hpos =>
    simp only [bind_eq_ok, okOr_eq_ok] at h
    rcases h with ⟨destination, hdestination, h⟩
    rw [if_pos hpos, hdestination]
    apply transferTokens_performs h
  . next hzero =>
    rw [if_neg hzero]
    cases h
    exact .nil l

theorem takeTokenIn_performs (h : takeTokenIn l params = .ok l')
    : Performs u64Max l (takeOps params) l' := by
  unfold takeTokenIn at h
  unfold takeOps
  split at h
  . next hcontrols =>
    simp only [burnTokenIn, bind_eq_ok, require_eq_ok] at h
    rcases h with ⟨_, _, _, htransfer, _, hburn, hfee⟩
    rw [if_pos hcontrols]
    apply Performs.append _ (transferPositive_performs hfee)
    exact (transferTokens_performs htransfer).append (burnTokens_performs hburn)
  . next hforeign =>
    simp only [transferTokenIn, bind_eq_ok, require_eq_ok, okOr_eq_ok, checkedSub_eq_some] at h
    rcases h with ⟨_, _, _, ⟨_, rfl⟩, _, hrefill, _, hproceeds, hfee⟩
    rw [if_neg hforeign]
    apply Performs.append _ (transferPositive_performs hfee)
    exact (refill_performs hrefill).append (transferPositive_performs hproceeds)

theorem distributeTokenOut_inv (h : distributeTokenOut l params = .ok l')
    : Performs u64Max l (distributeOps (l.supply params.tokenOutMint.key) params) l' ∧
      (programControlsMint params.tokenOutMint →
        (0 < params.tokenOutMaxSupply →
          params.tokenOutMint.supply + params.tokenOutAmount ≤ params.tokenOutMaxSupply) ∧
        (0 < params.tokenOutMaxMintAmount →
          params.tokenOutAmount ≤ params.tokenOutMaxMintAmount)) := by
  unfold distributeTokenOut at h
  unfold distributeOps
  split at h
  . next hcontrols =>
    rw [if_pos hcontrols]
    rcases mintTokens_inv h with ⟨hperforms, hcaps⟩
    exact ⟨hperforms, fun _ => hcaps⟩
  . next hforeign =>
    rw [if_neg hforeign]
    exact ⟨transferTokens_performs h, fun hcontrols => absurd hcontrols hforeign⟩

section TakeOps

@[simp]
theorem minted_takeOps : minted m (takeOps params) = 0 := by
  unfold takeOps
  split <;> simp [Op.minted]

@[simp]
theorem mints_takeOps : mints m (takeOps params) = false := by
  unfold takeOps
  split <;> simp [Op.mints]

@[simp]
theorem mintedTo_takeOps : mintedTo p m (takeOps params) = 0 := by
  unfold takeOps
  split <;> simp [Op.mintedTo]

theorem burned_takeOps_eq :
    burned m (takeOps params)
      =
    if programControlsMint params.tokenInMint ∧ m = params.tokenInMint.key then
      params.tokenInNetAmount else 0 := by
  unfold takeOps
  split
  . next hcontrols => simp [Op.burned, hcontrols]
  . next hforeign => simp [hforeign]

theorem burned_takeOps (h : m ≠ params.tokenInMint.key) : burned m (takeOps params) = 0 := by
  rw [burned_takeOps_eq]
  simp [h]

theorem debited_takeOps_eq :
    debited k m (takeOps params)
      =
    (if k = params.tokenInSourceAccount ∧ m = params.tokenInMint.key then
      (if programControlsMint params.tokenInMint then params.tokenInNetAmount
      else params.tokenInRefillAmount +
        (params.tokenInNetAmount - params.tokenInRefillAmount)) + params.tokenInFeeAmount
    else 0) +
    (if programControlsMint params.tokenInMint ∧ k = params.tokenInBurnAccount ∧
      m = params.tokenInMint.key then params.tokenInNetAmount else 0) := by
  unfold takeOps
  split
  . next hcontrols =>
    simp only [debited_append, debited_cons, debited_nil, debited_transferOps, Op.debited, hcontrols,
      true_and]
    split <;> split <;> omega
  . next hforeign =>
    simp only [debited_append, debited_transferOps, hforeign, Bool.false_eq_true, false_and, if_false]
    split <;> omega

theorem debited_takeOps (hsource : k ≠ params.tokenInSourceAccount)
    (hburn : k ≠ params.tokenInBurnAccount) : debited k m (takeOps params) = 0 := by
  rw [debited_takeOps_eq]
  simp [hsource, hburn]

theorem credited_takeOps_eq :
    credited k m (takeOps params)
      =
    (if k = params.tokenInFeeDestinationAccount ∧ m = params.tokenInMint.key then
      params.tokenInFeeAmount else 0) +
    (if programControlsMint params.tokenInMint then
      if k = params.tokenInBurnAccount ∧ m = params.tokenInMint.key then params.tokenInNetAmount
      else 0
    else
      (if k = params.tokenInRefillDestinationAccount.getD .default ∧ m = params.tokenInMint.key then
        params.tokenInRefillAmount else 0) +
      (if k = params.tokenInDestinationAccount ∧ m = params.tokenInMint.key then
        params.tokenInNetAmount - params.tokenInRefillAmount else 0)) := by
  unfold takeOps
  split
  . simp only [credited_append, credited_cons, credited_nil, credited_transferOps, Op.credited]
    omega
  . simp only [credited_append, credited_transferOps]
    omega

end TakeOps

section DistributeOps

variable {supply : Nat}

theorem minted_distributeOps :
    minted m (distributeOps supply params)
      =
    if programControlsMint params.tokenOutMint ∧ m = params.tokenOutMint.key then
      params.tokenOutAmount
    else 0 := by
  unfold distributeOps
  split
  . next hcontrols => simp [Op.minted, hcontrols]
  . next hforeign => simp [Op.minted, hforeign]

theorem mints_distributeOps :
    mints m (distributeOps supply params)
      =
    decide (programControlsMint params.tokenOutMint ∧ m = params.tokenOutMint.key) := by
  unfold distributeOps
  split
  . next hcontrols => simp [Op.mints, hcontrols]
  . next hforeign => simp [Op.mints, hforeign]

theorem mintedTo_distributeOps (hp : p params.tokenOutDestinationAccount = false)
    : mintedTo p m (distributeOps supply params) = 0 := by
  unfold distributeOps
  split <;> simp [Op.mintedTo, hp]

theorem mintedTo_distributeOps_eq (hp : p params.tokenOutDestinationAccount = true)
    : mintedTo p m (distributeOps supply params)
        =
      if programControlsMint params.tokenOutMint ∧ m = params.tokenOutMint.key then
        params.tokenOutAmount
      else 0 := by
  unfold distributeOps
  split
  . next hcontrols => simp [Op.mintedTo, hcontrols, hp]
  . next hforeign => simp [Op.mintedTo, hforeign]

@[simp]
theorem burned_distributeOps : burned m (distributeOps supply params) = 0 := by
  unfold distributeOps
  split <;> simp [Op.burned]

theorem debited_distributeOps_eq :
    debited k m (distributeOps supply params)
      =
    if programControlsMint params.tokenOutMint = false ∧ k = params.tokenOutSourceAccount ∧
      m = params.tokenOutMint.key then params.tokenOutAmount else 0 := by
  unfold distributeOps
  split
  . next hcontrols => simp [Op.debited, hcontrols]
  . next hforeign => simp [Op.debited, hforeign]

theorem debited_distributeOps (hsource : k ≠ params.tokenOutSourceAccount)
    : debited k m (distributeOps supply params) = 0 := by
  rw [debited_distributeOps_eq]
  simp [hsource]

theorem credited_distributeOps_eq :
    credited k m (distributeOps supply params)
      =
    if k = params.tokenOutDestinationAccount ∧ m = params.tokenOutMint.key then
      params.tokenOutAmount else 0 := by
  unfold distributeOps
  split <;> simp [Op.credited]

end DistributeOps

end executeTokenOperations

def tokenOps (supply : Nat) (params : ExecTokenOpsParams) : List LedgerOp :=
  executeTokenOperations.takeOps params ++ executeTokenOperations.distributeOps supply params

section TokenOps

open executeTokenOperations

variable {params : ExecTokenOpsParams} {supply : Nat}

theorem executeTokenOperations_inv (h : executeTokenOperations l params = .ok l')
    : ∃ (supply : Nat), Performs u64Max l (tokenOps supply params) l' ∧
        (programControlsMint params.tokenOutMint →
          (0 < params.tokenOutMaxSupply →
            params.tokenOutMint.supply + params.tokenOutAmount ≤ params.tokenOutMaxSupply) ∧
          (0 < params.tokenOutMaxMintAmount →
            params.tokenOutAmount ≤ params.tokenOutMaxMintAmount)) := by
  unfold executeTokenOperations at h
  simp only [bind_eq_ok, require_eq_ok] at h
  rcases h with ⟨_, _, _, _, l₁, htake, hdistribute⟩
  rcases distributeTokenOut_inv hdistribute with ⟨hperforms, hcaps⟩
  exact ⟨_, (takeTokenIn_performs htake).append hperforms, hcaps⟩

theorem minted_tokenOps :
    minted m (tokenOps supply params)
      =
    if programControlsMint params.tokenOutMint ∧ m = params.tokenOutMint.key then
      params.tokenOutAmount
    else 0 := by
  simp [tokenOps, minted_distributeOps]

theorem mints_tokenOps :
    mints m (tokenOps supply params)
      =
    decide (programControlsMint params.tokenOutMint ∧ m = params.tokenOutMint.key) := by
  simp [tokenOps, mints_distributeOps]

theorem mintedTo_tokenOps (hp : p params.tokenOutDestinationAccount = false)
    : mintedTo p m (tokenOps supply params) = 0 := by
  simp [tokenOps, mintedTo_distributeOps hp]

theorem burned_tokenOps (h : m ≠ params.tokenInMint.key)
    : burned m (tokenOps supply params) = 0 := by
  simp [tokenOps, burned_takeOps h]

theorem debited_tokenOps (hin : k ≠ params.tokenInSourceAccount)
    (hburn : k ≠ params.tokenInBurnAccount) (hout : k ≠ params.tokenOutSourceAccount)
    : debited k m (tokenOps supply params) = 0 := by
  simp [tokenOps, debited_takeOps hin hburn, debited_distributeOps hout]

end TokenOps

end OnreApp
