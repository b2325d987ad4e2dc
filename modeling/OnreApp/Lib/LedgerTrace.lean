import OnreApp.Lib.TokenLedger

/-!
What a composite operation did to a ledger, as the list of the operations it performed, oldest
first. Balances and supplies after it are sums over that list.
-/

namespace TokenLedger

variable {κ μ : Type} [DecidableEq μ]

namespace Op

def minted (m : μ) : Op κ μ → Nat
  | .mintTo mint _ amount _ => if m = mint then amount else 0
  | _ => 0

def mints (m : μ) : Op κ μ → Bool
  | .mintTo mint _ _ _ => m = mint
  | _ => false

def mintedTo (p : κ → Bool) (m : μ) : Op κ μ → Nat
  | .mintTo mint destination amount _ => if m = mint ∧ p destination then amount else 0
  | _ => 0

def burned (m : μ) : Op κ μ → Nat
  | .burn mint _ amount => if m = mint then amount else 0
  | _ => 0

variable [DecidableEq κ]

def debited (k : κ) (m : μ) : Op κ μ → Nat
  | .transfer mint source _ amount => if k = source ∧ m = mint then amount else 0
  | .burn mint source amount => if k = source ∧ m = mint then amount else 0
  | .mintTo _ _ _ _ => 0

def credited (k : κ) (m : μ) : Op κ μ → Nat
  | .transfer mint _ destination amount => if k = destination ∧ m = mint then amount else 0
  | .mintTo mint destination amount _ => if k = destination ∧ m = mint then amount else 0
  | .burn _ _ _ => 0

end Op

section Totals

def minted (m : μ) (ops : List (Op κ μ)) : Nat := (ops.map (Op.minted m)).sum

def mints (m : μ) (ops : List (Op κ μ)) : Bool := ops.any (Op.mints m)

def mintedTo (p : κ → Bool) (m : μ) (ops : List (Op κ μ)) : Nat :=
  (ops.map (Op.mintedTo p m)).sum

def burned (m : μ) (ops : List (Op κ μ)) : Nat := (ops.map (Op.burned m)).sum

variable {p : κ → Bool} {k : κ} {m : μ} {op : Op κ μ} {ops ops' : List (Op κ μ)}

@[simp]
theorem minted_nil : minted m ([] : List (Op κ μ)) = 0 := rfl

@[simp]
theorem minted_cons : minted m (op :: ops) = op.minted m + minted m ops := by
  simp [minted]

@[simp]
theorem minted_append : minted m (ops ++ ops') = minted m ops + minted m ops' := by
  simp [minted]

@[simp]
theorem mints_nil : mints m ([] : List (Op κ μ)) = false := rfl

@[simp]
theorem mints_cons : mints m (op :: ops) = (op.mints m || mints m ops) := by
  simp [mints]

@[simp]
theorem mints_append : mints m (ops ++ ops') = (mints m ops || mints m ops') := by
  simp [mints]

theorem mints_of_mem {destination : κ} {n supplyAfter : Nat}
    (h : .mintTo m destination n supplyAfter ∈ ops) : mints m ops = true := by
  unfold mints
  rw [List.any_eq_true]
  exact ⟨_, h, by simp [Op.mints]⟩

@[simp]
theorem mintedTo_nil : mintedTo p m ([] : List (Op κ μ)) = 0 := rfl

@[simp]
theorem mintedTo_cons : mintedTo p m (op :: ops) = op.mintedTo p m + mintedTo p m ops := by
  simp [mintedTo]

@[simp]
theorem mintedTo_append : mintedTo p m (ops ++ ops') = mintedTo p m ops + mintedTo p m ops' := by
  simp [mintedTo]

theorem mintedTo_le_minted : mintedTo p m ops ≤ minted m ops := by
  induction ops with
  | nil => simp
  | cons op ops ih =>
    have : op.mintedTo p m ≤ op.minted m := by
      cases op with
      | mintTo =>
        simp only [Op.mintedTo, Op.minted]
        split <;> simp_all
      | transfer => apply Nat.le_refl 0
      | burn => apply Nat.le_refl 0
    simp only [mintedTo_cons, minted_cons]
    omega

theorem mintedTo_mono {q : κ → Bool} (hpq : ∀ (k : κ), p k = true → q k = true)
    : mintedTo p m ops ≤ mintedTo q m ops := by
  induction ops with
  | nil => simp
  | cons op ops ih =>
    have : op.mintedTo p m ≤ op.mintedTo q m := by
      cases op with
      | mintTo mint destination =>
        have := hpq destination
        simp only [Op.mintedTo]
        split <;> simp_all
      | transfer => apply Nat.le_refl 0
      | burn => apply Nat.le_refl 0
    simp only [mintedTo_cons]
    omega

theorem mintedTo_eq_zero (h : mints m ops = false) : mintedTo p m ops = 0 := by
  induction ops with
  | nil => simp
  | cons op ops ih =>
    simp only [mints_cons, Bool.or_eq_false_iff] at h
    rw [mintedTo_cons, ih h.2]
    cases op with
    | mintTo =>
      have := h.1
      simp_all [Op.mints, Op.mintedTo]
    | transfer => rfl
    | burn => rfl

@[simp]
theorem burned_nil : burned m ([] : List (Op κ μ)) = 0 := rfl

@[simp]
theorem burned_cons : burned m (op :: ops) = op.burned m + burned m ops := by
  simp [burned]

@[simp]
theorem burned_append : burned m (ops ++ ops') = burned m ops + burned m ops' := by
  simp [burned]

variable [DecidableEq κ]

def debited (k : κ) (m : μ) (ops : List (Op κ μ)) : Nat := (ops.map (Op.debited k m)).sum

def credited (k : κ) (m : μ) (ops : List (Op κ μ)) : Nat := (ops.map (Op.credited k m)).sum

@[simp]
theorem debited_nil : debited k m ([] : List (Op κ μ)) = 0 := rfl

@[simp]
theorem debited_cons : debited k m (op :: ops) = op.debited k m + debited k m ops := by
  simp [debited]

@[simp]
theorem debited_append : debited k m (ops ++ ops') = debited k m ops + debited k m ops' := by
  simp [debited]

@[simp]
theorem credited_nil : credited k m ([] : List (Op κ μ)) = 0 := rfl

@[simp]
theorem credited_cons : credited k m (op :: ops) = op.credited k m + credited k m ops := by
  simp [credited]

@[simp]
theorem credited_append : credited k m (ops ++ ops') = credited k m ops + credited k m ops' := by
  simp [credited]

end Totals

variable [DecidableEq κ]

inductive Performs (cap : Nat) : Ledger κ μ → List (Op κ μ) → Ledger κ μ → Prop where
  | nil (l : Ledger κ μ) : Performs cap l [] l
  | transfer {l l₁ l' : Ledger κ μ} {mint : μ} {source destination : κ} {n : Nat}
      {ops : List (Op κ μ)} (h : l.transfer cap mint source destination n = .ok l₁)
      (rest : Performs cap l₁ ops l')
      : Performs cap l (.transfer mint source destination n :: ops) l'
  | mintTo {l l₁ l' : Ledger κ μ} {mint : μ} {destination : κ} {n : Nat} {ops : List (Op κ μ)}
      (h : l.mintTo cap mint destination n = .ok l₁) (rest : Performs cap l₁ ops l')
      : Performs cap l (.mintTo mint destination n (l.supply mint + n) :: ops) l'
  | burn {l l₁ l' : Ledger κ μ} {mint : μ} {source : κ} {n : Nat} {ops : List (Op κ μ)}
      (h : l.burn mint source n = .ok l₁) (rest : Performs cap l₁ ops l')
      : Performs cap l (.burn mint source n :: ops) l'

namespace Performs

variable {cap : Nat} {l l₁ l' : Ledger κ μ} {ops ops' : List (Op κ μ)}

theorem append (h : Performs cap l ops l₁) (h' : Performs cap l₁ ops' l')
    : Performs cap l (ops ++ ops') l' := by
  induction h with
  | nil => exact h'
  | transfer hop _ ih => exact .transfer hop (ih h')
  | mintTo hop _ ih => exact .mintTo hop (ih h')
  | burn hop _ ih => exact .burn hop (ih h')

theorem log (h : Performs cap l ops l') : l'.log = ops.reverse ++ l.log := by
  induction h with
  | nil => rfl
  | transfer hop _ ih => simp [ih, Ledger.transfer_log hop]
  | mintTo hop _ ih => simp [ih, Ledger.mintTo_log hop]
  | burn hop _ ih => simp [ih, Ledger.burn_log hop]

theorem supply (h : Performs cap l ops l') (m : μ)
    : l'.supply m + burned m ops = l.supply m + minted m ops := by
  induction h with
  | nil => simp
  | transfer hop _ ih =>
    rw [Ledger.transfer_supply hop] at ih
    simpa [Op.minted, Op.burned] using ih
  | @mintTo l l₁ l' mint _ n _ hop _ ih =>
    have hstep := Ledger.mintTo_supply hop m
    simp only [minted_cons, burned_cons, Op.minted, Op.burned]
    omega
  | @burn l l₁ l' mint _ n _ hop _ ih =>
    have hstep := Ledger.burn_supply hop m
    simp only [minted_cons, burned_cons, Op.minted, Op.burned]
    omega

theorem balance (h : Performs cap l ops l') (k : κ) (m : μ)
    : l'.balance k m + debited k m ops = l.balance k m + credited k m ops := by
  induction h with
  | nil => simp
  | transfer hop _ ih =>
    have hstep := Ledger.transfer_balance hop k m
    simp only [debited_cons, credited_cons, Op.debited, Op.credited]
    omega
  | mintTo hop _ ih =>
    have hstep := Ledger.mintTo_balance hop k m
    simp only [debited_cons, credited_cons, Op.debited, Op.credited]
    omega
  | burn hop _ ih =>
    have hstep := Ledger.burn_balance hop k m
    simp only [debited_cons, credited_cons, Op.debited, Op.credited]
    omega

theorem supplyAfter_le (h : Performs cap l ops l') {m : μ} {destination : κ} {n supplyAfter : Nat}
    (hmem : .mintTo m destination n supplyAfter ∈ ops)
    : supplyAfter ≤ l.supply m + minted m ops := by
  induction h with
  | nil => simp at hmem
  | transfer hop _ ih =>
    have := ih (by simpa using hmem)
    rw [Ledger.transfer_supply hop] at this
    simpa [Op.minted] using this
  | @mintTo l l₁ l' mint _ _ _ hop _ ih =>
    have hstep := Ledger.mintTo_supply hop m
    simp only [minted_cons, Op.minted]
    rcases List.mem_cons.mp hmem with heq | hmem
    . cases heq
      simp
    . have := ih hmem
      omega
  | burn hop _ ih =>
    have := ih (by simpa using hmem)
    have hstep := Ledger.burn_supply hop m
    simp only [minted_cons, Op.minted]
    omega

end Performs

end TokenLedger
