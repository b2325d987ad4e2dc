import Mathlib.Data.List.MinMax

namespace MaxByKey

variable {α β : Type} [LinearOrder β]

def maxByKey (key : α → β) (l : List α) : Option α := l.reverse.argmax key

def minByKey (key : α → β) (l : List α) : Option α := l.argmin key

variable {key : α → β} {l l₁ l₂ : List α} {a : α}

theorem mem_of_maxByKey (h : maxByKey key l = some a) : a ∈ l := by
  apply List.mem_reverse.mp
  apply List.argmax_mem h

theorem le_of_maxByKey (h : maxByKey key l = some a) : ∀ b ∈ l, key b ≤ key a := by
  intro b hb
  apply List.le_of_mem_argmax _ h
  apply List.mem_reverse.mpr hb

theorem mem_of_minByKey (h : minByKey key l = some a) : a ∈ l := List.argmin_mem h

theorem le_of_minByKey (h : minByKey key l = some a) : ∀ b ∈ l, key a ≤ key b := by
  intro b hb
  apply List.le_of_mem_argmin hb h

theorem minByKey_eq_none : minByKey key l = none ↔ l = [] := List.argmin_eq_none

theorem maxByKey_eq_none : maxByKey key l = none ↔ l = [] := by
  unfold maxByKey
  rw [List.argmax_eq_none]
  apply List.reverse_eq_nil_iff

theorem maxByKey_eq_some (hinj : ∀ a ∈ l, ∀ b ∈ l, key a = key b → a = b) :
    maxByKey key l = some a ↔ a ∈ l ∧ ∀ b ∈ l, key b ≤ key a := by
  constructor
  . intro h
    exact ⟨mem_of_maxByKey h, le_of_maxByKey h⟩
  . rintro ⟨hmem, hmax⟩
    cases hres : maxByKey key l with
    | none =>
      rw [maxByKey_eq_none] at hres
      rw [hres] at hmem
      cases hmem
    | some c =>
      have hc := mem_of_maxByKey hres
      have hle := le_of_maxByKey hres a hmem
      rw [hinj c hc a hmem (le_antisymm (hmax c hc) hle)]

theorem maxByKey_eq_of_dominated (hinj : ∀ a ∈ l₂, ∀ b ∈ l₂, key a = key b → a = b)
    (hsub : ∀ a ∈ l₁, a ∈ l₂) (hdom : ∀ b ∈ l₂, b ∉ l₁ → ∃ c ∈ l₁, key b < key c) :
    maxByKey key l₁ = maxByKey key l₂ := by
  have hinj₁ : ∀ a ∈ l₁, ∀ b ∈ l₁, key a = key b → a = b := by
    intro a ha b hb
    exact hinj a (hsub a ha) b (hsub b hb)
  apply Option.ext
  intro a
  rw [maxByKey_eq_some hinj₁, maxByKey_eq_some hinj]
  constructor
  . rintro ⟨hmem, hmax⟩
    refine ⟨hsub a hmem, ?_⟩
    intro b hb
    by_cases hb₁ : b ∈ l₁
    . exact hmax b hb₁
    . rcases hdom b hb hb₁ with ⟨c, hc, hlt⟩
      apply le_trans (le_of_lt hlt) (hmax c hc)
  . rintro ⟨hmem, hmax⟩
    have hmem₁ : a ∈ l₁ := by
      by_contra hna
      rcases hdom a hmem hna with ⟨c, hc, hlt⟩
      exact absurd (hmax c (hsub c hc)) (not_le_of_gt hlt)
    exact ⟨hmem₁, fun b hb => hmax b (hsub b hb)⟩

end MaxByKey
