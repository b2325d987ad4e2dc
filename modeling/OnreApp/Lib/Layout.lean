import Mathlib.Algebra.Order.BigOperators.Group.List
import Mathlib.Algebra.Ring.Nat
import Mathlib.Data.List.Flatten
import Mathlib.Data.List.TakeDrop

namespace Layout

variable {α : Type} {fields : List (List α)} {field : List α} {i : Nat}

def bytes (fields : List (List α)) : List α := fields.flatten

def offset (fields : List (List α)) (i : Nat) : Nat := ((fields.take i).map List.length).sum

theorem bytes_eq (h : fields[i]? = some field)
    : bytes fields = (fields.take i).flatten ++ (field ++ (fields.drop (i + 1)).flatten) := by
  rcases List.getElem?_eq_some_iff.mp h with ⟨hi, rfl⟩
  have hsplit : fields = fields.take i ++ fields[i] :: fields.drop (i + 1) := by
    rw [List.getElem_cons_drop, List.take_append_drop]
  unfold bytes
  conv_lhs => rw [hsplit]
  rw [List.flatten_append, List.flatten_cons]

theorem take_drop_offset (h : fields[i]? = some field) (rest : List α)
    : ((bytes fields ++ rest).drop (offset fields i)).take field.length = field := by
  rw [bytes_eq h, offset, ← List.length_flatten, List.append_assoc, List.drop_left,
    List.append_assoc, List.take_left]

theorem getElem?_offset {a : α} (h : fields[i]? = some [a]) (rest : List α)
    : (bytes fields ++ rest)[offset fields i]? = some a := by
  rw [bytes_eq h, offset, ← List.length_flatten, List.append_assoc,
    List.getElem?_append_right (Nat.le_refl _), Nat.sub_self]
  rfl

theorem length_bytes (fields : List (List α))
    : (bytes fields).length = (fields.map List.length).sum := by
  unfold bytes
  rw [List.length_flatten]

end Layout
