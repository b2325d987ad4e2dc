import OnreApp.Lib.Checked
import Mathlib.Data.List.Induction

/-!
Runs of a machine whose steps can fail. A run takes a list of inputs and succeeds when every step
does.
-/

namespace Run

variable {σ ι ε : Type} {step : σ → ι → Except ε σ} {s s' : σ} {inputs : List ι}

def run (step : σ → ι → Except ε σ) (s : σ) : List ι → Except ε σ
  | [] => .ok s
  | i :: inputs => do
    let s ← step s i
    run step s inputs

theorem run_cons_eq_ok {i : ι}
    : run step s (i :: inputs) = .ok s' ↔ ∃ next, step s i = .ok next ∧ run step next inputs = .ok s'
    := by
  rw [run, Checked.bind_eq_ok]

theorem run_inv (P : σ → Prop) (C : ι → Prop)
    (hstep : ∀ (s s' : σ) (i : ι), C i → P s → step s i = .ok s' → P s')
    (hinputs : ∀ i ∈ inputs, C i) (hinit : P s) (h : run step s inputs = .ok s') : P s' := by
  induction inputs generalizing s with
  | nil =>
    cases h
    exact hinit
  | cons i inputs ih =>
    rcases run_cons_eq_ok.mp h with ⟨next, hnext, hrest⟩
    apply ih _ _ hrest
    . intro j hj
      exact hinputs j (List.mem_cons_of_mem i hj)
    . exact hstep s next i (hinputs i List.mem_cons_self) hinit hnext

/-- Every state a run passes through, the first and the last one included. -/
def Throughout (step : σ → ι → Except ε σ) (P : σ → Prop) (s : σ) : List ι → Prop
  | [] => P s
  | i :: inputs => P s ∧ ∀ (s' : σ), step s i = .ok s' → Throughout step P s' inputs

theorem run_append {inputs' : List ι} {s₁ : σ} (h : run step s inputs = .ok s₁)
    (h' : run step s₁ inputs' = .ok s') : run step s (inputs ++ inputs') = .ok s' := by
  induction inputs generalizing s with
  | nil =>
    cases h
    exact h'
  | cons i inputs ih =>
    rcases run_cons_eq_ok.mp h with ⟨next, hnext, hrest⟩
    exact run_cons_eq_ok.mpr ⟨next, hnext, ih hrest⟩

theorem run_append_inv {inputs' : List ι} (h : run step s (inputs ++ inputs') = .ok s')
    : ∃ (s₁ : σ), run step s inputs = .ok s₁ ∧ run step s₁ inputs' = .ok s' := by
  induction inputs generalizing s with
  | nil => exact ⟨s, rfl, h⟩
  | cons i inputs ih =>
    rcases run_cons_eq_ok.mp h with ⟨next, hnext, hrest⟩
    rcases ih hrest with ⟨s₁, hrun, hlast⟩
    exact ⟨s₁, run_cons_eq_ok.mpr ⟨next, hnext, hrun⟩, hlast⟩

theorem run_singleton {i : ι} : run step s [i] = step s i := by
  unfold run
  cases step s i <;> rfl

theorem Throughout.snoc {P : σ → Prop} {i : ι} {s₁ : σ} (h : Throughout step P s inputs)
    (hrun : run step s inputs = .ok s₁) (hlast : ∀ (s' : σ), step s₁ i = .ok s' → P s')
    : Throughout step P s (inputs ++ [i]) := by
  induction inputs generalizing s with
  | nil =>
    cases hrun
    exact ⟨h, hlast⟩
  | cons j inputs ih =>
    rcases run_cons_eq_ok.mp hrun with ⟨next, hnext, hrest⟩
    refine ⟨h.1, ?_⟩
    intro s' hs'
    have heq : next = s' := Except.ok.inj (hnext.symm.trans hs')
    subst heq
    exact ih (h.2 next hnext) hrest

-- Induction on the inputs from the last one back: either that one made the change, or it did not
-- and the change of the run before it is still the last.
theorem last_change {α : Type} (f : σ → α) (h : run step s inputs = .ok s') (hne : f s' ≠ f s)
    : ∃ (before : List ι) (i : ι) (after : List ι) (s₁ s₂ : σ),
        inputs = before ++ i :: after ∧ run step s before = .ok s₁ ∧ step s₁ i = .ok s₂ ∧
        f s₁ ≠ f s' ∧ f s₂ = f s' ∧ run step s₂ after = .ok s' ∧
        Throughout step (fun t => f t = f s') s₂ after := by
  induction inputs using List.reverseRecOn generalizing s' with
  | nil =>
    cases h
    exact absurd rfl hne
  | append_singleton inputs i ih =>
    rcases run_append_inv h with ⟨s₁, hrun, hlast⟩
    rw [run_singleton] at hlast
    by_cases hchange : f s₁ = f s'
    . rcases ih hrun (hchange ▸ hne) with
        ⟨before, j, after, u₁, u₂, rfl, hbefore, hstep, hold, hnew, hafter, hstays⟩
      refine ⟨before, j, after ++ [i], u₁, u₂, by simp, hbefore, hstep, hchange ▸ hold,
        hnew.trans hchange, ?_, ?_⟩
      . exact run_append hafter (run_singleton.trans hlast)
      . rw [hchange] at hstays
        apply hstays.snoc hafter
        intro t ht
        rw [Except.ok.inj (ht.symm.trans hlast)]
    . exact ⟨inputs, i, [], s₁, s', rfl, hrun, hlast, hchange, rfl, rfl, rfl⟩

theorem run_history (P : List ι → σ → Prop) (hinit : P [] s)
    (hstep : ∀ (before : List ι) (s₁ s₂ : σ) (i : ι),
      P before s₁ → step s₁ i = .ok s₂ → P (before ++ [i]) s₂)
    (h : run step s inputs = .ok s') : P inputs s' := by
  induction inputs using List.reverseRecOn generalizing s' with
  | nil =>
    cases h
    exact hinit
  | append_singleton inputs i ih =>
    rcases run_append_inv h with ⟨s₁, hrun, hlast⟩
    rw [run_singleton] at hlast
    exact hstep inputs s₁ s' i (ih hrun) hlast

/-- What steps keep unless they break it is kept, or there is a first step that breaks it. -/
theorem kept_or_broken (P : σ → Prop) (R : σ → σ → Prop) (B : σ → ι → Prop)
    (hrefl : ∀ (s : σ), R s s) (htrans : ∀ (s₁ s₂ s₃ : σ), R s₁ s₂ → R s₂ s₃ → R s₁ s₃)
    (hstep : ∀ (s₁ s₂ : σ) (i : ι), P s₁ → step s₁ i = .ok s₂ → P s₂ ∧ R s₁ s₂ ∨ B s₁ i)
    (hinit : P s) (h : run step s inputs = .ok s')
    : P s' ∧ R s s' ∨
      ∃ (before : List ι) (i : ι) (after : List ι) (s₁ : σ),
        inputs = before ++ i :: after ∧ run step s before = .ok s₁ ∧ P s₁ ∧ R s s₁ ∧ B s₁ i := by
  induction inputs generalizing s with
  | nil =>
    cases h
    exact .inl ⟨hinit, hrefl s'⟩
  | cons i inputs ih =>
    rcases run_cons_eq_ok.mp h with ⟨next, hnext, hrest⟩
    rcases hstep s next i hinit hnext with ⟨hP, hR⟩ | hbroken
    . rcases ih hP hrest with ⟨hP', hR'⟩ | ⟨before, j, after, s₁, rfl, hrun, hP₁, hR₁, hbroken⟩
      . exact .inl ⟨hP', htrans s next s' hR hR'⟩
      . exact .inr ⟨i :: before, j, after, s₁, rfl, run_cons_eq_ok.mpr ⟨next, hnext, hrun⟩, hP₁,
          htrans s next s₁ hR hR₁, hbroken⟩
    . exact .inr ⟨[], i, inputs, s, rfl, rfl, hinit, hrefl s, hbroken⟩

theorem exists_drop (f : σ → Nat) (h : run step s inputs = .ok s') (hless : f s' < f s)
    : ∃ (before : List ι) (i : ι) (after : List ι) (s₁ s₂ : σ),
        inputs = before ++ i :: after ∧ run step s before = .ok s₁ ∧ step s₁ i = .ok s₂ ∧
        f s₂ < f s₁ := by
  have hcases := kept_or_broken (fun _ => True) (fun s s' => f s ≤ f s')
    (fun s i => ∃ (s₂ : σ), step s i = .ok s₂ ∧ f s₂ < f s) (fun _ => Nat.le_refl _)
    (fun _ _ _ => Nat.le_trans) (fun s₁ s₂ i _ hstep => ?_) trivial h
  case refine_1 =>
    rcases Nat.lt_or_ge (f s₂) (f s₁) with hlt | hge
    . exact .inr ⟨s₂, hstep, hlt⟩
    . exact .inl ⟨trivial, hge⟩
  rcases hcases with ⟨_, hle⟩ | ⟨before, i, after, s₁, hsplit, hrun, _, _, s₂, hstep, hlt⟩
  . omega
  . exact ⟨before, i, after, s₁, s₂, hsplit, hrun, hstep, hlt⟩

section Total

def total (step : σ → ι → Except ε σ) (f : σ → ι → Nat) (s : σ) : List ι → Nat
  | [] => 0
  | i :: inputs =>
    f s i +
      match step s i with
      | .ok s' => total step f s' inputs
      | .error _ => 0

theorem le_add_total (f : σ → ι → Nat) (g : σ → Nat)
    (hstep : ∀ (s s' : σ) (i : ι), step s i = .ok s' → g s ≤ g s' + f s i)
    (h : run step s inputs = .ok s') : g s ≤ g s' + total step f s inputs := by
  induction inputs generalizing s with
  | nil =>
    cases h
    exact Nat.le_refl _
  | cons i inputs ih =>
    rcases run_cons_eq_ok.mp h with ⟨next, hnext, hrest⟩
    have hfirst := hstep s next i hnext
    have hlater := ih hrest
    simp only [total, hnext]
    omega

end Total

end Run
