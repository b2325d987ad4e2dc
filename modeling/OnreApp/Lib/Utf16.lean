import Mathlib.Data.List.Basic

/-!
Strings as sequences of 16 bit code units, and their bytes in UTF-8. A surrogate that is not half of
a pair stands for no character: encoding replaces it, and decoding replaces each byte that starts no
character.
-/

namespace Utf16

abbrev Units := List UInt16

def isHigh (u : UInt16) : Bool := 0xD800 ≤ u.toNat && u.toNat < 0xDC00

def isLow (u : UInt16) : Bool := 0xDC00 ≤ u.toNat && u.toNat < 0xE000

def isSurrogate (u : UInt16) : Bool := isHigh u || isLow u

def replacement : Char := Char.ofNat 0xFFFD

def ofLone (u : UInt16) : Char :=
  if isSurrogate u then replacement else Char.ofNat u.toNat

def ofPair (high low : UInt16) : Char :=
  Char.ofNat (0x10000 + (high.toNat - 0xD800) * 0x400 + (low.toNat - 0xDC00))

def toChars : Units → List Char
  | [] => []
  | [u] => [ofLone u]
  | u :: v :: rest =>
    if isHigh u && isLow v then
      ofPair u v :: toChars rest
    else
      ofLone u :: toChars (v :: rest)

def ofChar (c : Char) : Units :=
  if c.toNat < 0x10000 then
    [UInt16.ofNat c.toNat]
  else
    [UInt16.ofNat (0xD800 + (c.toNat - 0x10000) / 0x400),
      UInt16.ofNat (0xDC00 + (c.toNat - 0x10000) % 0x400)]

def ofChars (chars : List Char) : Units := chars.flatMap ofChar

def ofString (s : String) : Units := ofChars s.toList

def isWellFormed : Units → Bool
  | [] => true
  | [u] => !isSurrogate u
  | u :: v :: rest =>
    if isHigh u && isLow v then
      isWellFormed rest
    else
      !isSurrogate u && isWellFormed (v :: rest)

def toWellFormed (units : Units) : Units := ofChars (toChars units)

def encodeUtf8 (units : Units) : List UInt8 := (toChars units).flatMap String.utf8EncodeChar

def decodeChars (bytes : List UInt8) : List Char :=
  match bytes with
  | [] => []
  | b :: rest =>
    match (b :: rest).toByteArray.utf8DecodeChar? 0 with
    | some c => c :: decodeChars ((b :: rest).drop c.utf8Size)
    | none => replacement :: decodeChars rest
termination_by bytes.length
decreasing_by
  . have := c.utf8Size_pos
    simp only [List.length_drop, List.length_cons]
    omega
  . simp

def decodeUtf8 (bytes : List UInt8) : Units := ofChars (decodeChars bytes)

theorem decodeChars_encodeChar_append (c : Char) (bytes : List UInt8)
    : decodeChars (String.utf8EncodeChar c ++ bytes) = c :: decodeChars bytes := by
  have hdecode : (String.utf8EncodeChar c ++ bytes).toByteArray.utf8DecodeChar? 0 = some c := by
    rw [List.toByteArray_append]
    apply ByteArray.utf8DecodeChar?_utf8EncodeChar_append
  have hdrop : (String.utf8EncodeChar c ++ bytes).drop c.utf8Size = bytes := by
    apply List.drop_left'
    apply String.length_utf8EncodeChar
  rw [decodeChars.eq_def]
  split
  . next hnil =>
    have hlength := congrArg List.length hnil
    have := c.utf8Size_pos
    simp only [List.length_append, String.length_utf8EncodeChar, List.length_nil] at hlength
    omega
  . next b rest hcons =>
    rw [hcons] at hdecode hdrop
    rw [hdecode]
    simp only
    rw [hdrop]

theorem decodeChars_encode (chars : List Char)
    : decodeChars (chars.flatMap String.utf8EncodeChar) = chars := by
  induction chars with
  | nil =>
    rw [List.flatMap_nil, decodeChars]
  | cons c chars ih =>
    rw [List.flatMap_cons, decodeChars_encodeChar_append, ih]

theorem decodeUtf8_encodeUtf8 (units : Units)
    : decodeUtf8 (encodeUtf8 units) = toWellFormed units := by
  unfold decodeUtf8 encodeUtf8 toWellFormed
  rw [decodeChars_encode]

theorem toNat_ofNat_of_lt {n : Nat} (h : n < 0xD800 ∨ 0xDFFF < n ∧ n < 0x110000)
    : (Char.ofNat n).toNat = n := by
  unfold Char.ofNat
  rw [dif_pos h]
  exact UInt32.toNat_ofNatLT

def IsLoneValue (n : Nat) : Prop := n < 0xD800 ∨ 0xDFFF < n ∧ n < 0x10000

theorem ofChar_ofNat_of_isLoneValue {n : Nat} (h : IsLoneValue n)
    : ofChar (Char.ofNat n) = [UInt16.ofNat n] := by
  have hvalid : (Char.ofNat n).toNat = n := by
    apply toNat_ofNat_of_lt
    unfold IsLoneValue at h
    omega
  unfold ofChar
  rw [hvalid, if_pos]
  unfold IsLoneValue at h
  omega

theorem isLoneValue_toNat {u : UInt16} (h : isSurrogate u = false) : IsLoneValue u.toNat := by
  have hu := u.toNat_lt
  simp only [isSurrogate, isHigh, isLow, Bool.or_eq_false_iff, Bool.and_eq_false_iff,
    decide_eq_false_iff_not] at h
  unfold IsLoneValue
  omega

theorem ofChar_ofLone (u : UInt16)
    : ofChar (ofLone u) = [if isSurrogate u then 0xFFFD else u] := by
  unfold ofLone
  split
  . rfl
  . next h =>
    rw [Bool.not_eq_true] at h
    rw [ofChar_ofNat_of_isLoneValue (isLoneValue_toNat h), UInt16.ofNat_toNat]

theorem ofLone_eq_self_iff {u : UInt16}
    : (if isSurrogate u then (0xFFFD : UInt16) else u) = u ↔ isSurrogate u = false := by
  split
  . next h =>
    simp only [h, Bool.true_eq_false, iff_false]
    intro hreplaced
    rw [← hreplaced] at h
    exact absurd h (by decide)
  . next h => simpa using h

theorem ofChar_ofPair {u v : UInt16} (hu : isHigh u = true) (hv : isLow v = true)
    : ofChar (ofPair u v) = [u, v] := by
  simp only [isHigh, isLow, Bool.and_eq_true, decide_eq_true_eq] at hu hv
  have hvalid : (ofPair u v).toNat
      = 0x10000 + ((u.toNat - 0xD800) * 0x400 + (v.toNat - 0xDC00)) := by
    unfold ofPair
    rw [Nat.add_assoc]
    apply toNat_ofNat_of_lt
    omega
  have hhigh : 0xD800 + ((u.toNat - 0xD800) * 0x400 + (v.toNat - 0xDC00)) / 0x400 = u.toNat := by
    omega
  have hlow : 0xDC00 + ((u.toNat - 0xD800) * 0x400 + (v.toNat - 0xDC00)) % 0x400 = v.toNat := by
    omega
  unfold ofChar
  rw [hvalid, if_neg (by omega), Nat.add_sub_cancel_left, hhigh, hlow]
  rw [UInt16.ofNat_toNat, UInt16.ofNat_toNat]

theorem toWellFormed_eq_self_iff (units : Units)
    : toWellFormed units = units ↔ isWellFormed units = true := by
  unfold toWellFormed ofChars
  induction units using toChars.induct with
  | case1 => simp [toChars, isWellFormed]
  | case2 u =>
    rw [toChars, isWellFormed, List.flatMap_singleton, ofChar_ofLone]
    rw [List.singleton_inj, ofLone_eq_self_iff, Bool.not_eq_true']
  | case3 u v rest hpair ih =>
    have hsurrogates := hpair
    rw [Bool.and_eq_true] at hsurrogates
    rw [toChars, if_pos hpair, List.flatMap_cons, ofChar_ofPair hsurrogates.1 hsurrogates.2]
    rw [isWellFormed, if_pos hpair, ← ih]
    simp
  | case4 u v rest hpair ih =>
    rw [toChars, if_neg hpair, List.flatMap_cons, ofChar_ofLone, List.singleton_append]
    rw [List.cons.injEq, ofLone_eq_self_iff, ih]
    rw [isWellFormed, if_neg hpair, Bool.and_eq_true, Bool.not_eq_true']

end Utf16
