import OnreApp.Redemption.Impl.RedemptionUtils
import OnreApp.Utils.Lemmas.TokenOps

namespace OnreApp

open Checked TokenLedger

variable {l l' : Ledger} {params : ExecuteRedemptionOpsParams} {k m : Pubkey} {p : Pubkey → Bool}

def redemptionNetOp (params : ExecuteRedemptionOpsParams) : LedgerOp :=
  if programControlsMint params.tokenInMint then
    .burn params.tokenInMint.key params.vaultTokenInAccount params.tokenInNetAmount
  else
    .transfer params.tokenInMint.key params.vaultTokenInAccount params.tokenInDestinationAccount
      params.tokenInNetAmount

def redemptionOps (params : ExecuteRedemptionOpsParams) : List LedgerOp :=
  [redemptionNetOp params] ++
    transferOps params.tokenInMint.key params.vaultTokenInAccount
      params.feeDestinationTokenInAccount params.tokenInFeeAmount ++
    [.transfer params.tokenOutMint.key params.vaultTokenOutAccount params.userTokenOutAccount
      params.tokenOutAmount]

theorem executeRedemptionOperations.takeTokenIn_performs (h : takeTokenIn l params = .ok l')
    : Performs u64Max l [redemptionNetOp params] l' := by
  unfold takeTokenIn at h
  unfold redemptionNetOp
  split at h
  . next hcontrols =>
    rw [if_pos hcontrols]
    apply burnTokens_performs h
  . next hforeign =>
    rw [if_neg hforeign]
    apply transferTokens_performs h

theorem executeRedemptionOperations_performs (h : executeRedemptionOperations l params = .ok l')
    : Performs u64Max l (redemptionOps params) l' := by
  unfold executeRedemptionOperations at h
  simp only [bind_eq_ok, require_eq_ok] at h
  rcases h with ⟨_, _, _, _, l₁, hnet, l₂, hfee, hout⟩
  exact ((executeRedemptionOperations.takeTokenIn_performs hnet).append
    (transferPositive_performs hfee)).append (transferTokens_performs hout)

section RedemptionOps

theorem debited_redemptionNetOp :
    debited k m [redemptionNetOp params]
      =
    if k = params.vaultTokenInAccount ∧ m = params.tokenInMint.key then params.tokenInNetAmount
    else 0 := by
  unfold redemptionNetOp
  split <;> simp [Op.debited]

@[simp]
theorem minted_redemptionOps : minted m (redemptionOps params) = 0 := by
  unfold redemptionOps redemptionNetOp
  split <;> simp [Op.minted]

@[simp]
theorem mints_redemptionOps : mints m (redemptionOps params) = false := by
  unfold redemptionOps redemptionNetOp
  split <;> simp [Op.mints]

@[simp]
theorem mintedTo_redemptionOps : mintedTo p m (redemptionOps params) = 0 := by
  unfold redemptionOps redemptionNetOp
  split <;> simp [Op.mintedTo]

theorem burned_redemptionOps (hcontrols : programControlsMint params.tokenInMint = true)
    : burned params.tokenInMint.key (redemptionOps params) = params.tokenInNetAmount := by
  unfold redemptionOps redemptionNetOp
  simp [hcontrols, Op.burned]

theorem debited_redemptionOps (hmint : m = params.tokenInMint.key) (hout : m ≠ params.tokenOutMint.key)
    (hvault : k = params.vaultTokenInAccount)
    : debited k m (redemptionOps params) = params.tokenInNetAmount + params.tokenInFeeAmount := by
  unfold redemptionOps redemptionNetOp
  split <;> simp [Op.debited, hmint, hvault, hmint ▸ hout]

theorem credited_redemptionOps (hdestination : k ≠ params.tokenInDestinationAccount)
    (hfee : k ≠ params.feeDestinationTokenInAccount) (hout : m ≠ params.tokenOutMint.key)
    : credited k m (redemptionOps params) = 0 := by
  unfold redemptionOps redemptionNetOp
  split <;> simp [Op.credited, hdestination, hfee, hout]

end RedemptionOps

section InsufficientFunds

theorem executeRedemptionOperations.takeTokenIn_insufficientFunds
    (h : takeTokenIn l params = .error (.token .insufficientFunds))
    : l.balance params.vaultTokenInAccount params.tokenInMint.key < params.tokenInNetAmount := by
  unfold takeTokenIn at h
  split at h
  . apply burnTokens_insufficientFunds h
  . apply transferTokens_insufficientFunds h

theorem executeRedemptionOperations_insufficientFunds
    (hlocked : params.tokenInNetAmount + params.tokenInFeeAmount
      ≤ l.balance params.vaultTokenInAccount params.tokenInMint.key)
    (hne : params.tokenInMint.key ≠ params.tokenOutMint.key)
    (h : executeRedemptionOperations l params = .error (.token .insufficientFunds))
    : l.balance params.vaultTokenOutAccount params.tokenOutMint.key < params.tokenOutAmount := by
  have hfails : FailsOnlyWith (fun e => e = .token .insufficientFunds →
      l.balance params.vaultTokenOutAccount params.tokenOutMint.key < params.tokenOutAmount)
      (executeRedemptionOperations l params) := by
    unfold executeRedemptionOperations
    refine failsOnlyWith_bind (failsOnlyWith_require nofun) ?_
    intro _ _
    refine failsOnlyWith_bind (failsOnlyWith_require nofun) ?_
    intro _ _
    refine failsOnlyWith_bind ?_ ?_
    . rintro _ he rfl
      have := executeRedemptionOperations.takeTokenIn_insufficientFunds he
      omega
    intro l₁ hnet
    have hbalance := (executeRedemptionOperations.takeTokenIn_performs hnet).balance
    refine failsOnlyWith_bind ?_ ?_
    . rintro _ he rfl
      have hlack := transferPositive_insufficientFunds he
      have hvault := hbalance params.vaultTokenInAccount params.tokenInMint.key
      rw [debited_redemptionNetOp, if_pos ⟨rfl, rfl⟩] at hvault
      omega
    intro l₂ hfee
    rintro _ he rfl
    have hlack := transferTokens_insufficientFunds he
    have hvault := hbalance params.vaultTokenOutAccount params.tokenOutMint.key
    have hvault' := (transferPositive_performs hfee).balance params.vaultTokenOutAccount
      params.tokenOutMint.key
    rw [debited_redemptionNetOp, if_neg (fun heq => hne heq.2.symm)] at hvault
    rw [debited_transferOps, if_neg (fun heq => hne heq.2.symm)] at hvault'
    omega
  exact hfails _ h rfl

end InsufficientFunds

end OnreApp
