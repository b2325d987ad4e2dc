import OnreApp.Ui.Impl.JsValue

namespace OnreApp.Ui

open Utf16

variable {s : JsString} {n : Nat}

theorem digit_ten_eq_some {u : UInt16} {d : Nat} (h : digit 10 u = some d)
    : 48 ≤ u.toNat ∧ u.toNat ≤ 57 := by
  unfold digit digitValue at h
  rw [Option.filter_eq_some_iff] at h
  rcases h with ⟨h, hbase⟩
  rw [decide_eq_true_eq] at hbase
  split at h
  . assumption
  . split at h
    . injection h
      omega
    . split at h
      . injection h
        omega
      . contradiction

theorem digitsFrom_ten_units {acc : Nat} (h : digitsFrom 10 acc s = some n)
    : ∀ u ∈ s, 48 ≤ u.toNat ∧ u.toNat ≤ 57 := by
  induction s generalizing acc with
  | nil => simp
  | cons u rest ih =>
    rw [digitsFrom] at h
    split at h
    . next d hd =>
      rw [List.forall_mem_cons]
      exact ⟨digit_ten_eq_some hd, ih h⟩
    . contradiction

theorem digits_ten_units (h : digits 10 s = some n) : ∀ u ∈ s, 48 ≤ u.toNat ∧ u.toNat ≤ 57 := by
  unfold digits at h
  split at h
  . contradiction
  . apply digitsFrom_ten_units h

theorem map_digits_units {f : Nat → Int} {z : Int} (h : (digits 10 s).map f = some z)
    : ∀ u ∈ s, 43 ≤ u.toNat ∧ u.toNat ≤ 57 := by
  intro u hu
  rw [Option.map_eq_some_iff] at h
  rcases h with ⟨m, hm, _⟩
  have := digits_ten_units hm u hu
  omega

theorem signedInteger_units {z : Int} (h : signedInteger s = some z)
    : ∀ u ∈ s, 43 ≤ u.toNat ∧ u.toNat ≤ 57 := by
  unfold signedInteger at h
  split at h
  . simp
  . next u rest =>
    split at h
    . next hminus =>
      rw [List.forall_mem_cons]
      refine ⟨?_, map_digits_units h⟩
      rw [hminus]
      decide
    . split at h
      . next hplus =>
        rw [List.forall_mem_cons]
        refine ⟨?_, map_digits_units h⟩
        rw [hplus]
        decide
      . exact map_digits_units h

theorem isSpace_eq_false {u : UInt16} (h : 43 ≤ u.toNat ∧ u.toNat ≤ 57) : isSpace u = false := by
  unfold isSpace
  rw [← Bool.not_eq_true, List.contains_iff_mem]
  simp only [List.mem_cons, List.not_mem_nil, or_false]
  omega

theorem dropWhile_eq_self_of_forall {α : Type} {p : α → Bool} {l : List α}
    (h : ∀ a ∈ l, p a = false) : l.dropWhile p = l := by
  cases l with
  | nil => rfl
  | cons a l =>
    rw [List.forall_mem_cons] at h
    rw [List.dropWhile_cons, h.1]
    rfl

theorem trim_eq_self (h : ∀ u ∈ s, isSpace u = false) : trim s = s := by
  unfold trim
  rw [dropWhile_eq_self_of_forall h]
  rw [dropWhile_eq_self_of_forall]
  . rw [List.reverse_reverse]
  . intro u hu
    apply h
    rwa [List.mem_reverse] at hu

theorem bigInt_of_signedInteger {z : Int} (h : signedInteger s = some z) : bigInt s = some z := by
  have htrim : trim s = s := by
    apply trim_eq_self
    intro u hu
    apply isSpace_eq_false
    apply signedInteger_units h u hu
  unfold bigInt
  rw [htrim]
  simp only [h]
  rw [if_neg]
  intro hs
  rw [hs] at h
  contradiction

theorem toNat_of_isDigit {c : Char} (h : c.isDigit = true) : 48 ≤ c.toNat ∧ c.toNat ≤ 57 := by
  simpa [Char.isDigit, UInt32.le_iff_toNat_le] using h

theorem toNat_codeUnit {c : Char} (h : c.isDigit = true) : (codeUnit c).toNat = c.toNat := by
  have := toNat_of_isDigit h
  rw [codeUnit, UInt16.toNat_ofNat']
  omega

theorem digit_codeUnit {c : Char} (h : c.isDigit = true)
    : digit 10 (codeUnit c) = some (c.toNat - '0'.toNat) := by
  have hrange := toNat_of_isDigit h
  unfold digit digitValue
  rw [toNat_codeUnit h, if_pos hrange]
  rw [Option.filter_eq_some_iff]
  refine ⟨rfl, ?_⟩
  rw [decide_eq_true_eq]
  change c.toNat - 48 < 10
  omega

theorem digitsFrom_ten {chars : List Char} (h : ∀ c ∈ chars, c.isDigit = true) (acc : Nat)
    : digitsFrom 10 acc (chars.map codeUnit) = some (Nat.ofDigitChars 10 chars acc) := by
  induction chars generalizing acc with
  | nil => rw [List.map_nil, digitsFrom, Nat.ofDigitChars_nil]
  | cons c chars ih =>
    rw [List.forall_mem_cons] at h
    rw [List.map_cons, digitsFrom, digit_codeUnit h.1, Nat.ofDigitChars_cons]
    apply ih h.2

theorem flatMap_ofChar_digits {chars : List Char} (h : ∀ c ∈ chars, c.isDigit = true)
    : chars.flatMap ofChar = chars.map codeUnit := by
  rw [List.map_eq_flatMap]
  apply List.flatMap_congr
  intro c hc
  have := toNat_of_isDigit (h c hc)
  unfold ofChar
  rw [if_pos (by omega)]

theorem text_repr (n : Nat) : text n.repr = (Nat.toDigits 10 n).map codeUnit := by
  unfold text ofString ofChars
  rw [Nat.toList_repr]
  apply flatMap_ofChar_digits
  intro c hc
  apply Nat.isDigit_of_mem_toDigits (by decide) (by decide) hc

theorem digits_repr (n : Nat) : digits 10 (text n.repr) = some n := by
  unfold digits
  rw [text_repr, if_neg]
  . rw [digitsFrom_ten, Nat.ofDigitChars_ten_toDigits]
    intro c hc
    apply Nat.isDigit_of_mem_toDigits (by decide) (by decide) hc
  . simp [Nat.toDigits_ne_nil]

theorem signedInteger_decimal (z : Int) : signedInteger (decimal z) = some z := by
  unfold decimal
  split
  . rw [signedInteger, if_pos rfl, digits_repr]
    rw [Option.map_some]
    congr 1
    omega
  . next hsign =>
    have hunits := digits_ten_units (digits_repr z.natAbs)
    have hdigits := digits_repr z.natAbs
    unfold signedInteger
    split
    . next hempty =>
      rw [hempty] at hdigits
      contradiction
    . next u rest hcons =>
      rw [hcons] at hunits hdigits
      rw [List.forall_mem_cons] at hunits
      rw [if_neg, if_neg, hdigits, Option.map_some]
      . congr 1
        change (z.natAbs : Int) = z
        omega
      . intro hplus
        rw [hplus] at hunits
        exact absurd hunits.1 (by decide)
      . intro hminus
        rw [hminus] at hunits
        exact absurd hunits.1 (by decide)

theorem textValue_of_lt {z : Int} (h : z.natAbs < 2 ^ 53) : JsValue.textValue z = z := by
  rw [JsValue.textValue, Double.shortest_of_lt h]
  apply Int.sign_mul_natAbs

theorem dist_textValue_mul_le {z : Int} (h : Double.IsExact z.natAbs)
    : (JsValue.textValue z - z).natAbs * 2 ^ 53 ≤ z.natAbs := by
  have hdist := Double.dist_shortest_mul_le h
  have hsign : JsValue.textValue z - z = z.sign * (Double.shortest z.natAbs - z.natAbs) := by
    rw [Int.mul_sub, Int.sign_mul_natAbs]
    rfl
  rw [hsign, Int.natAbs_mul]
  calc z.sign.natAbs * ((Double.shortest z.natAbs : Int) - z.natAbs).natAbs * 2 ^ 53
      ≤ 1 * ((Double.shortest z.natAbs : Int) - z.natAbs).natAbs * 2 ^ 53 := by
        apply Nat.mul_le_mul_right
        apply Nat.mul_le_mul_right
        rw [Int.natAbs_sign]
        split <;> decide
    _ ≤ z.natAbs := by rwa [Nat.one_mul]

end OnreApp.Ui
