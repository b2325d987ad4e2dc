import Mathlib.Algebra.Order.BigOperators.Group.List
import Mathlib.Algebra.Ring.Nat

namespace Timeline

variable {ι : Type} {f : ι → Nat} {p q r : Int → Bool} {records : List (Int × ι)}

def total (f : ι → Nat) (p : Int → Bool) (records : List (Int × ι)) : Nat :=
  ((records.filter fun e => p e.1).map fun e => f e.2).sum

@[simp]
theorem total_nil : total f p [] = 0 := rfl

theorem total_cons {e : Int × ι}
    : total f p (e :: records) = (if p e.1 then f e.2 else 0) + total f p records := by
  unfold total
  rw [List.filter_cons]
  split
  . rw [List.map_cons, List.sum_cons]
  . rw [Nat.zero_add]

theorem total_congr (h : ∀ e ∈ records, p e.1 = q e.1) : total f p records = total f q records := by
  unfold total
  rw [List.filter_congr h]

theorem total_eq_zero (h : ∀ e ∈ records, p e.1 = true → f e.2 = 0) : total f p records = 0 := by
  unfold total
  rw [List.sum_eq_zero]
  intro n hn
  simp only [List.mem_map, List.mem_filter] at hn
  rcases hn with ⟨e, ⟨hmem, hp⟩, rfl⟩
  exact h e hmem hp

theorem total_add_le (hdisjoint : ∀ (t : Int), p t = true → q t = false)
    (hp : ∀ (t : Int), p t = true → r t = true) (hq : ∀ (t : Int), q t = true → r t = true)
    : total f p records + total f q records ≤ total f r records := by
  induction records with
  | nil => simp
  | cons e records ih =>
    simp only [total_cons]
    have := hdisjoint e.1
    have := hp e.1
    have := hq e.1
    cases hpe : p e.1 <;> cases hqe : q e.1 <;> simp_all <;> omega

theorem total_mono (h : ∀ (t : Int), p t = true → q t = true)
    : total f p records ≤ total f q records := by
  have hle : total f p records + total f (fun _ => false) records ≤ total f q records :=
    total_add_le (fun _ _ => rfl) h (fun _ hfalse => absurd hfalse Bool.false_ne_true)
  omega

end Timeline
