import Mathlib.Tactic.Ring
import Mathlib.Algebra.Order.Floor.Defs
import Mathlib.Data.Nat.Log

/-!
Fixed width arithmetic on `Nat` and `Int`: checked operations return `none` when the result does not
fit, saturating operations clamp it. A width is given by the largest (and for signed integers the
smallest) value it can hold. `asU64` reinterprets a signed 64 bit integer, `truncU64` and `truncU32`
drop the upper bits. The second half is the error monad such code runs in, with the inversion lemmas
for its operations.
-/

namespace Checked

def u32Max : Nat := 4294967295

def u64Max : Nat := 18446744073709551615

def u128Max : Nat := 340282366920938463463374607431768211455

def i64Max : Int := 9223372036854775807

def i64Min : Int := -9223372036854775808

def i128Max : Int := 170141183460469231731687303715884105727

def i128Min : Int := -170141183460469231731687303715884105728

def checkedAdd (max a b : Nat) : Option Nat :=
  if a + b ≤ max then some (a + b) else none

def checkedSub (a b : Nat) : Option Nat :=
  if b ≤ a then some (a - b) else none

def checkedMul (max a b : Nat) : Option Nat :=
  if a * b ≤ max then some (a * b) else none

def checkedDiv (a b : Nat) : Option Nat :=
  if b = 0 then none else some (a / b)

def checkedPow (max a n : Nat) : Option Nat :=
  if a ^ n ≤ max then some (a ^ n) else none

def saturatingAdd (max a b : Nat) : Nat := min (a + b) max

def saturatingMul (max a b : Nat) : Nat := min (a * b) max

def tryFrom (max a : Nat) : Option Nat :=
  if a ≤ max then some a else none

def checkedSubInt (min max a b : Int) : Option Int :=
  if min ≤ a - b ∧ a - b ≤ max then some (a - b) else none

def checkedMulInt (min max a b : Int) : Option Int :=
  if min ≤ a * b ∧ a * b ≤ max then some (a * b) else none

def saturatingAddInt (lo hi a b : Int) : Int := max lo (min (a + b) hi)

def saturatingMulInt (lo hi a b : Int) : Int := max lo (min (a * b) hi)

def asU64 (a : Int) : Nat := (a % 18446744073709551616).toNat

def truncU64 (a : Nat) : Nat := a % 18446744073709551616

def truncU32 (a : Nat) : Nat := a % 4294967296

section Inversion

@[simp]
theorem checkedAdd_eq_some {max a b c : Nat} :
    checkedAdd max a b = some c ↔ a + b ≤ max ∧ a + b = c := by
  unfold checkedAdd
  split <;> simp_all

theorem checkedAdd_eq_none {max a b : Nat} (h : checkedAdd max a b = none) : max < a + b := by
  unfold checkedAdd at h
  split at h
  . cases h
  . omega

@[simp]
theorem checkedSub_eq_some {a b c : Nat} : checkedSub a b = some c ↔ b ≤ a ∧ a - b = c := by
  unfold checkedSub
  split <;> simp_all

@[simp]
theorem checkedMul_eq_some {max a b c : Nat} :
    checkedMul max a b = some c ↔ a * b ≤ max ∧ a * b = c := by
  unfold checkedMul
  split <;> simp_all

@[simp]
theorem checkedDiv_eq_some {a b c : Nat} : checkedDiv a b = some c ↔ b ≠ 0 ∧ a / b = c := by
  unfold checkedDiv
  split <;> simp_all

@[simp]
theorem checkedPow_eq_some {max a n c : Nat} :
    checkedPow max a n = some c ↔ a ^ n ≤ max ∧ a ^ n = c := by
  unfold checkedPow
  split <;> simp_all

@[simp]
theorem tryFrom_eq_some {max a b : Nat} : tryFrom max a = some b ↔ a ≤ max ∧ a = b := by
  unfold tryFrom
  split <;> simp_all

@[simp]
theorem checkedSubInt_eq_some {min max a b c : Int} :
    checkedSubInt min max a b = some c ↔ (min ≤ a - b ∧ a - b ≤ max) ∧ a - b = c := by
  unfold checkedSubInt
  split <;> simp_all

@[simp]
theorem checkedMulInt_eq_some {min max a b c : Int} :
    checkedMulInt min max a b = some c ↔ (min ≤ a * b ∧ a * b ≤ max) ∧ a * b = c := by
  unfold checkedMulInt
  split <;> simp_all

theorem truncU64_of_le {a : Nat} (h : a ≤ u64Max) : truncU64 a = a := by
  unfold truncU64
  unfold u64Max at h
  omega

theorem saturatingMul_le_saturatingMul {max a b c d : Nat} (h1 : a ≤ c) (h2 : b ≤ d) :
    saturatingMul max a b ≤ saturatingMul max c d := by
  unfold saturatingMul
  have := Nat.mul_le_mul h1 h2
  omega

theorem saturatingAdd_le_saturatingAdd {max a b c d : Nat} (h1 : a ≤ c) (h2 : b ≤ d) :
    saturatingAdd max a b ≤ saturatingAdd max c d := by
  unfold saturatingAdd
  omega

end Inversion

section Result

variable {ε α β : Type}

def okOr (o : Option α) (e : ε) : Except ε α :=
  match o with
  | some a => .ok a
  | none => .error e

def require (c : Prop) [Decidable c] (e : ε) : Except ε Unit :=
  if c then .ok () else .error e

def mapErr (x : Except ε α) (e : ε) : Except ε α :=
  match x with
  | .ok a => .ok a
  | .error _ => .error e

def MonotoneOk (f : Nat → Except ε Nat) : Prop :=
  ∀ (v v' out out' : Nat), v ≤ v' → f v = .ok out → f v' = .ok out' → out ≤ out'

def AntitoneOk (f : Nat → Except ε Nat) : Prop :=
  ∀ (v v' out out' : Nat), v ≤ v' → f v = .ok out → f v' = .ok out' → out' ≤ out

theorem mapErr_eq_ok {x : Except ε α} {e : ε} {a : α} : mapErr x e = .ok a ↔ x = .ok a := by
  cases x <;> simp [mapErr]

@[simp]
theorem okOr_eq_ok {o : Option α} {e : ε} {a : α} : okOr o e = .ok a ↔ o = some a := by
  cases o <;> simp [okOr]

@[simp]
theorem require_eq_ok {c : Prop} [Decidable c] {e : ε} {u : Unit} :
    require c e = .ok u ↔ c := by
  unfold require
  split <;> simp_all

@[simp]
theorem bind_eq_ok {x : Except ε α} {f : α → Except ε β} {b : β} :
    x >>= f = .ok b ↔ ∃ a, x = .ok a ∧ f a = .ok b := by
  cases x with
  | error e =>
    constructor
    . intro h
      cases h
    . rintro ⟨a, h, _⟩
      cases h
  | ok a =>
    constructor
    . intro h
      exact ⟨a, rfl, h⟩
    . rintro ⟨a', h, h'⟩
      cases h
      exact h'

@[simp]
theorem ok_bind (a : α) (f : α → Except ε β) : (.ok a : Except ε α) >>= f = f a := rfl

@[simp]
theorem pure_eq_ok {a b : α} : (pure a : Except ε α) = .ok b ↔ a = b := by
  constructor
  . intro h
    apply Except.ok.inj h
  . intro h
    rw [h]
    rfl

theorem map_eq_ok {x : Except ε α} {f : α → β} {b : β} (h : x.map f = .ok b)
    : ∃ a, x = .ok a ∧ f a = b := by
  cases x with
  | error e => cases h
  | ok a => exact ⟨a, rfl, Except.ok.inj h⟩

theorem map_bind_of {γ : Type} {x : Except ε α} {f : α → Except ε β} {g : α → Except ε γ}
    {h : β → γ} (hfg : ∀ a, (f a).map h = g a) : (x >>= f).map h = x >>= g := by
  cases x with
  | error e => rfl
  | ok a => exact hfg a

theorem map_bind_map {γ δ : Type} {x : Except ε α} {y : Except ε β} {f : α → Except ε γ}
    {g : β → Except ε δ} {k : α → β} {h : γ → δ} (hxy : x.map k = y)
    (hfg : ∀ a, (f a).map h = g (k a)) : (x >>= f).map h = y >>= g := by
  rw [← hxy]
  cases x with
  | error e => rfl
  | ok a => exact hfg a

@[simp]
theorem toOption_eq_some {x : Except ε α} {a : α} : x.toOption = some a ↔ x = .ok a := by
  cases x <;> simp [Except.toOption]

theorem exists_ok_of_view {x : Except ε α} {view : α → Option β} {b : β}
    (h : x.toOption.bind view = some b) : ∃ (a : α), x = .ok a ∧ view a = some b := by
  cases x with
  | error e => cases h
  | ok a => exact ⟨a, rfl, h⟩

section FailsOnlyWith

def FailsOnlyWith (P : ε → Prop) (x : Except ε α) : Prop := ∀ (e : ε), x = .error e → P e

variable {P : ε → Prop}

theorem failsOnlyWith_pure (a : α) : FailsOnlyWith P (pure a) := by
  intro e h
  cases h

theorem failsOnlyWith_okOr {o : Option α} {e : ε} (h : P e) : FailsOnlyWith P (okOr o e) := by
  intro e' h'
  cases o with
  | some a => cases h'
  | none =>
    cases h'
    exact h

theorem failsOnlyWith_okOr_of {o : Option α} {e : ε} (h : o = none → P e)
    : FailsOnlyWith P (okOr o e) := by
  cases o with
  | some a =>
    intro e' h'
    cases h'
  | none => exact failsOnlyWith_okOr (h rfl)

theorem failsOnlyWith_require {c : Prop} [Decidable c] {e : ε} (h : ¬c → P e) :
    FailsOnlyWith P (require c e) := by
  intro e' h'
  unfold require at h'
  split at h'
  . cases h'
  . next hc =>
    cases h'
    exact h hc

theorem failsOnlyWith_bind {x : Except ε α} {f : α → Except ε β} (hx : FailsOnlyWith P x)
    (hf : ∀ (a : α), x = .ok a → FailsOnlyWith P (f a)) : FailsOnlyWith P (x >>= f) := by
  cases x with
  | error e =>
    intro e' h
    cases h
    exact hx e rfl
  | ok a => exact hf a rfl

end FailsOnlyWith

end Result

end Checked
