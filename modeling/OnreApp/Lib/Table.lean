import Mathlib.Algebra.Ring.Nat
import Mathlib.Data.List.AList

namespace Table

variable {α β : Type} [DecidableEq α]

def total (f : β → Nat) (t : AList fun _ : α => β) : Nat := (t.entries.map fun e => f e.2).sum

variable {f : β → Nat} {t : AList fun _ : α => β} {k : α} {v : β}

omit [DecidableEq α] in
@[simp]
theorem total_empty : total f (∅ : AList fun _ : α => β) = 0 := rfl

theorem total_eq_of_lookup (h : t.lookup k = some v) : total f t = f v + total f (t.erase k) := by
  have hmem : k ∈ t.entries.keys := AList.lookup_isSome.mp (by rw [h]; rfl)
  rcases List.exists_of_kerase hmem with ⟨v', l₁, l₂, hk, hentries, herase⟩
  have hv : v' = v := by
    rw [AList.lookup, hentries, List.dlookup_append] at h
    simpa [List.dlookup_eq_none.mpr hk] using h
  have hentries' : (t.erase k).entries = l₁ ++ l₂ := herase
  unfold total
  rw [hentries', hentries, hv]
  simp only [List.map_append, List.map_cons, List.sum_append, List.sum_cons]
  omega

theorem total_insert : total f (t.insert k v) = f v + total f (t.erase k) := by
  have herase : (t.erase k).entries = t.entries.kerase k := rfl
  unfold total
  rw [AList.entries_insert, herase, List.map_cons, List.sum_cons]

theorem total_insert_of_lookup_eq_none (h : t.lookup k = none)
    : total f (t.insert k v) = f v + total f t := by
  have hnot : k ∉ t := AList.lookup_eq_none.mp h
  unfold total
  rw [AList.entries_insert_of_notMem hnot]
  simp

theorem le_total_of_lookup (h : t.lookup k = some v) : f v ≤ total f t := by
  rw [total_eq_of_lookup h]
  apply Nat.le_add_right _ _

theorem total_eq_zero (h : ∀ (k : α) (v : β), t.lookup k = some v → f v = 0) : total f t = 0 := by
  unfold total
  rw [List.sum_eq_zero_iff_forall_eq_nat]
  intro n hn
  rcases List.mem_map.mp hn with ⟨⟨k, v⟩, hmem, rfl⟩
  exact h k v (AList.mem_lookup_iff.mpr hmem)

section Lookup

theorem lookup_insert_eq (k' : α)
    : (t.insert k v).lookup k' = if k' = k then some v else t.lookup k' := by
  split
  . next heq => rw [heq, AList.lookup_insert]
  . next hne => rw [AList.lookup_insert_ne hne]

theorem lookup_erase_eq (k' : α)
    : (t.erase k).lookup k' = if k' = k then none else t.lookup k' := by
  split
  . next heq => rw [heq, AList.lookup_erase]
  . next hne => rw [AList.lookup_erase_ne hne]

end Lookup

end Table
