import Mathlib.Data.Finset.Card
import Mathlib.Data.Fintype.Basic
import Mathlib.Data.Fintype.Card
import Mathlib.Tactic.Push

/-!
A fixed number of places, some of them marked as empty, as a finite set: a value is put into the
first empty place and taken out of the first place that holds it. Both agree with the set as long as
no value is stored twice.
-/

namespace Slots

variable {α : Type} [DecidableEq α] {n : Nat}

def find (slots : Vector α n) (a : α) : Option (Fin n) :=
  (List.finRange n).find? fun i => slots.get i = a

def put (empty : α) (slots : Vector α n) (a : α) : Option (Vector α n) :=
  (find slots empty).map fun (i : Fin n) => slots.set i a i.isLt

def take (empty : α) (slots : Vector α n) (a : α) : Option (Vector α n) :=
  (find slots a).map fun (i : Fin n) => slots.set i empty i.isLt

def members (empty : α) (slots : Vector α n) : Finset α :=
  (Finset.univ.image slots.get).erase empty

def Distinct (empty : α) (slots : Vector α n) : Prop :=
  ∀ (i j : Fin n), slots.get i ≠ empty → slots.get i = slots.get j → i = j

variable {empty a b : α} {slots slots' : Vector α n} {i : Fin n}

section Find

theorem find_eq_some (h : find slots a = some i) : slots.get i = a := by
  unfold find at h
  simpa using List.find?_some h

theorem find_eq_none : find slots a = none ↔ ∀ (i : Fin n), slots.get i ≠ a := by
  unfold find
  simp

omit [DecidableEq α] in
theorem set_get (j : Fin n)
    : (slots.set i a i.isLt).get j = if j = i then a else slots.get j := by
  have hset : (slots.set i a i.isLt).get j = if i.val = j.val then a else slots.get j :=
    Vector.getElem_set ..
  rw [hset]
  by_cases hij : j = i
  . simp [hij]
  . rw [if_neg hij, if_neg]
    intro hval
    exact hij (Fin.ext hval.symm)

end Find

section Members

theorem mem_members : a ∈ members empty slots ↔ a ≠ empty ∧ ∃ (i : Fin n), slots.get i = a := by
  unfold members
  simp

theorem members_replicate : members empty (Vector.replicate n empty) = ∅ := by
  ext a
  rw [mem_members]
  simp only [Finset.notMem_empty, iff_false, not_and, not_exists]
  intro hne i hi
  apply hne
  rw [← hi]
  apply Vector.getElem_replicate

omit [DecidableEq α] in
theorem distinct_replicate : Distinct empty (Vector.replicate n empty) := by
  intro i _ hne
  apply absurd _ hne
  apply Vector.getElem_replicate

omit [DecidableEq α] in
theorem mem_toList : a ∈ slots.toList ↔ ∃ (i : Fin n), slots.get i = a := by
  rw [Vector.mem_toList_iff, Vector.mem_iff_getElem]
  constructor
  . rintro ⟨i, hi, h⟩
    exact ⟨⟨i, hi⟩, h⟩
  . rintro ⟨i, h⟩
    exact ⟨i.val, i.isLt, h⟩

theorem card_members_lt (hi : slots.get i = empty) : (members empty slots).card < n := by
  have hsub : members empty slots ⊆ (Finset.univ.erase i).image slots.get := by
    intro a ha
    rcases mem_members.mp ha with ⟨hne, j, hj⟩
    rw [Finset.mem_image]
    refine ⟨j, ?_, hj⟩
    rw [Finset.mem_erase]
    refine ⟨?_, Finset.mem_univ j⟩
    intro hji
    apply hne
    rw [← hj, hji, hi]
  have hcard : (Finset.univ.erase i : Finset (Fin n)).card = n - 1 := by
    rw [Finset.card_erase_of_mem (Finset.mem_univ i), Finset.card_fin]
  have hle := Nat.le_trans (Finset.card_le_card hsub) Finset.card_image_le
  have hpos := i.isLt
  omega

theorem Distinct.card_members (h : Distinct empty slots)
    (hfull : ∀ (i : Fin n), slots.get i ≠ empty)
    : (members empty slots).card = n := by
  have hinj : Function.Injective slots.get := fun i j hij => h i j (hfull i) hij
  unfold members
  rw [Finset.erase_eq_of_notMem]
  . rw [Finset.card_image_of_injective _ hinj, Finset.card_fin]
  . simpa using hfull

end Members

section Put

theorem Distinct.put_eq_none (h : Distinct empty slots)
    : put empty slots a = none ↔ (members empty slots).card = n := by
  unfold put
  rw [Option.map_eq_none_iff]
  constructor
  . intro hnone
    exact h.card_members (find_eq_none.mp hnone)
  . intro hcard
    rw [find_eq_none]
    intro i hi
    have hlt := card_members_lt hi
    omega

theorem Distinct.exists_get_iff (h : Distinct empty slots)
    : (∃ (i : Fin n), slots.get i = a) ↔
        a ∈ members empty slots ∨ a = empty ∧ (members empty slots).card ≠ n := by
  rw [mem_members]
  by_cases hne : a = empty
  . subst hne
    have hnotFull : (members a slots).card ≠ n ↔ ∃ (i : Fin n), slots.get i = a := by
      rw [Ne, ← h.put_eq_none (a := a), put, Option.map_eq_none_iff, find_eq_none]
      simp
    simp [hnotFull]
  . simp [hne]

theorem put_inv (h : put empty slots a = some slots')
    : ∃ (i : Fin n), slots.get i = empty ∧ slots' = slots.set i a i.isLt := by
  unfold put at h
  rw [Option.map_eq_some_iff] at h
  rcases h with ⟨i, hi, rfl⟩
  exact ⟨i, find_eq_some hi, rfl⟩

theorem members_put (hne : a ≠ empty) (h : put empty slots a = some slots')
    : members empty slots' = insert a (members empty slots) := by
  rcases put_inv h with ⟨i, hi, rfl⟩
  ext b
  rw [Finset.mem_insert, mem_members, mem_members]
  constructor
  . rintro ⟨hb, j, hj⟩
    rw [set_get] at hj
    split at hj
    . exact .inl hj.symm
    . exact .inr ⟨hb, j, hj⟩
  . rintro (rfl | ⟨hb, j, hj⟩)
    . refine ⟨hne, i, ?_⟩
      rw [set_get, if_pos rfl]
    . refine ⟨hb, j, ?_⟩
      rw [set_get, if_neg]
      . exact hj
      . rintro rfl
        exact hb (hj.symm.trans hi)

theorem Distinct.put (hdistinct : Distinct empty slots) (hnew : a ∉ members empty slots)
    (h : put empty slots a = some slots') : Distinct empty slots' := by
  rcases put_inv h with ⟨i, hi, rfl⟩
  have hother : ∀ (j : Fin n), a ≠ empty → slots.get j ≠ a := by
    intro j hne hj
    exact hnew (mem_members.mpr ⟨hne, j, hj⟩)
  intro j k
  rw [set_get, set_get]
  split
  . next hj =>
    split
    . next hk => exact fun _ _ => hj.trans hk.symm
    . exact fun hne heq => absurd heq.symm (hother k hne)
  . split
    . next hk =>
      intro hne heq
      rw [heq] at hne
      exact absurd heq (hother j hne)
    . exact hdistinct j k

end Put

section Take

theorem take_inv (h : take empty slots a = some slots')
    : ∃ (i : Fin n), slots.get i = a ∧ slots' = slots.set i empty i.isLt := by
  unfold take at h
  rw [Option.map_eq_some_iff] at h
  rcases h with ⟨i, hi, rfl⟩
  exact ⟨i, find_eq_some hi, rfl⟩

theorem Distinct.members_take (hdistinct : Distinct empty slots)
    (h : take empty slots a = some slots')
    : members empty slots' = (members empty slots).erase a := by
  rcases take_inv h with ⟨i, rfl, rfl⟩
  ext b
  rw [Finset.mem_erase, mem_members, mem_members]
  constructor
  . rintro ⟨hb, j, hj⟩
    rw [set_get] at hj
    split at hj
    . exact absurd hj.symm hb
    . next hji =>
      refine ⟨?_, hb, j, hj⟩
      rintro rfl
      exact hji (hdistinct j i (by rw [hj]; exact hb) hj)
  . rintro ⟨hba, hb, j, hj⟩
    refine ⟨hb, j, ?_⟩
    rw [set_get, if_neg]
    . exact hj
    . rintro rfl
      exact hba hj.symm

theorem Distinct.take (hdistinct : Distinct empty slots) (h : take empty slots a = some slots')
    : Distinct empty slots' := by
  rcases take_inv h with ⟨i, _, rfl⟩
  intro j k
  rw [set_get, set_get]
  split
  . exact fun hne => absurd rfl hne
  . split
    . exact fun hne heq => absurd heq hne
    . exact hdistinct j k

end Take

end Slots
