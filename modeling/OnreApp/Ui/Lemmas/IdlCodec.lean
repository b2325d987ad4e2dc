import OnreApp.Lib.Checked
import OnreApp.Ui.Lemmas.IdlInteger
import Mathlib.Data.List.Forall2

/-!
Decoding after encoding. The bytes of a value decode, wherever they stand in a buffer, to a value of
the wrapped datum that its texts denote: every integer modulo the width of its type and every string
with its lone surrogates replaced.
-/

namespace OnreApp.Ui

open Utf16 Checked JsValue

namespace IdlData

def wrap : IdlData → IdlData
  | bool b => bool b
  | integer type n =>
    match integerByteLength type with
    | some size => integer type (wrapInteger size (isSigned type) n)
    | none => integer type n
  | string s => string (toWellFormed s)
  | absent => absent
  | list items => list (items.map wrap)
  | record items => record (items.map wrap)

end IdlData

variable {rt : Runtime} {numberValue : Int → Int} {typeByName : JsString → Option IdlTypeDef}

theorem Represents.ne_empty {type : IdlType} {value : JsValue} {data : IdlData}
    (hoption : type.isOption = false) (hstring : type ≠ .primitive .string)
    (h : Represents numberValue typeByName type value data)
    : value ≠ .null ∧ value ≠ .undefined ∧ value ≠ .string [] := by
  cases h with
  | bool => simp
  | integer _ hvalue =>
    cases hvalue with
    | number => simp
    | bigint => simp
    | string hs =>
      simp only [ne_eq, reduceCtorEq, not_false_eq_true, JsValue.string.injEq, true_and]
      intro hempty
      rw [hempty] at hs
      contradiction
  | string => contradiction
  | absent => contradiction
  | present => contradiction
  | vec => simp
  | struct => simp

theorem IsDecimal.unique {value : JsValue} {n m : Int} (hn : IsDecimal numberValue value n)
    (hm : IsDecimal numberValue value m) : n = m := by
  cases hn with
  | number _ hnumber =>
    cases hm with
    | number _ hnumber' => rw [← hnumber, ← hnumber']
  | bigint => cases hm; rfl
  | string hs =>
    cases hm with
    | string ht =>
      rw [hs] at ht
      injection ht

theorem eq_of_zip {α β : Type} {l : List α} {r s : List β} {P : α → β → Prop}
    (hr : l.length = r.length) (hs : l.length = s.length)
    (h : ∀ pair ∈ l.zip r, ∀ b, P pair.1 b → pair.2 = b) (hP : ∀ pair ∈ l.zip s, P pair.1 pair.2)
    : r = s := by
  induction l generalizing r s with
  | nil =>
    rw [List.length_nil] at hr hs
    rw [List.length_eq_zero_iff.mp hr.symm, List.length_eq_zero_iff.mp hs.symm]
  | cons a l ih =>
    cases r with
    | nil => contradiction
    | cons b r =>
      cases s with
      | nil => contradiction
      | cons c s =>
        simp only [List.zip_cons_cons, List.forall_mem_cons] at h hP
        rw [List.length_cons, List.length_cons, Nat.succ_inj] at hr hs
        rw [h.1 c hP.1, ih hr hs h.2 hP.2]

theorem Represents.unique {type : IdlType} {value : JsValue} {data data' : IdlData}
    (h : Represents numberValue typeByName type value data)
    (h' : Represents numberValue typeByName type value data')
    : data = data' := by
  induction h generalizing data' with
  | bool b =>
    cases h' with
    | bool => rfl
    | integer htype _ => contradiction
  | integer htype hvalue =>
    cases h' with
    | bool => contradiction
    | integer _ hvalue' => rw [hvalue.unique hvalue']
    | string => contradiction
  | string s =>
    cases h' with
    | integer htype _ => contradiction
    | string => rfl
  | absent =>
    cases h' with
    | absent => rfl
    | present hoption hstring hvalue =>
      have hne := hvalue.ne_empty hoption hstring
      exact absurd rfl hne.1
  | present hoption hstring hvalue ih =>
    cases h' with
    | absent =>
      have hne := hvalue.ne_empty hoption hstring
      exact absurd rfl hne.1
    | present _ _ hvalue' => exact ih hvalue'
  | vec hbound hlength hitems ih =>
    cases h' with
    | vec _ hlength' hitems' =>
      rw [eq_of_zip hlength hlength' ih hitems']
  | struct hname htype hkeys hlength hfields ih =>
    cases h' with
    | struct hname' htype' _ hlength' hfields' =>
      rw [hname] at hname'
      injection hname' with hname'
      rw [← hname', htype] at htype'
      injection htype' with htype'
      subst htype'
      have hrecord := eq_of_zip (P := fun field => Represents numberValue typeByName field.type
        ((JsValue.object _).get field.name)) hlength hlength' ih hfields'
      rw [hrecord]

theorem map_eq_self_iff_of_zip {α β : Type} {l : List α} {r : List β} {f : β → β} {P : β → Prop}
    (hlength : l.length = r.length) (h : ∀ pair ∈ l.zip r, f pair.2 = pair.2 ↔ P pair.2)
    : r.map f = r ↔ ∀ b ∈ r, P b := by
  induction l generalizing r with
  | nil =>
    rw [List.length_nil] at hlength
    rw [List.length_eq_zero_iff.mp hlength.symm]
    simp
  | cons a l ih =>
    cases r with
    | nil => simp
    | cons b r =>
      rw [List.zip_cons_cons, List.forall_mem_cons] at h
      rw [List.length_cons, List.length_cons, Nat.succ_inj] at hlength
      rw [List.map_cons, List.cons.injEq, List.forall_mem_cons, h.1, ih hlength h.2]

theorem Represents.wrap_eq_self_iff {type : IdlType} {value : JsValue} {data : IdlData}
    (h : Represents numberValue typeByName type value data) : data.wrap = data ↔ data.Fits := by
  induction h with
  | bool => simp [IdlData.wrap, IdlData.Fits]
  | integer htype _ =>
    simp only [IdlData.wrap, IdlData.Fits, htype, IdlData.integer.injEq, true_and]
    apply wrapInteger_eq_self_iff _ htype
  | string s =>
    simp only [IdlData.wrap, IdlData.Fits, IdlData.string.injEq]
    apply toWellFormed_eq_self_iff
  | absent => simp [IdlData.wrap, IdlData.Fits]
  | present _ _ _ ih => exact ih
  | vec _ hlength _ ih =>
    simp only [IdlData.wrap, IdlData.Fits, IdlData.list.injEq]
    apply map_eq_self_iff_of_zip hlength ih
  | struct _ _ _ hlength _ ih =>
    simp only [IdlData.wrap, IdlData.Fits, IdlData.record.injEq]
    apply map_eq_self_iff_of_zip hlength ih

theorem IsDecimal.exists_text {value : JsValue} {n : Int} (h : IsDecimal id value n)
    : ∃ m, IsDecimal textValue value m ∧ (m - n).natAbs * 2 ^ 53 ≤ n.natAbs := by
  cases h with
  | number hexact hnumber =>
    rw [← hnumber]
    exact ⟨_, .number hexact rfl, dist_textValue_mul_le hexact⟩
  | bigint => exact ⟨n, .bigint n, by simp⟩
  | string hs => exact ⟨n, .string hs, by simp⟩

theorem exists_of_zip {α β : Type} {l : List α} {r : List β} {f : β → β} {P : α → β → Prop}
    (hlength : l.length = r.length)
    (h : ∀ pair ∈ l.zip r, ∃ b, P pair.1 b ∧ (f b = pair.2 → b = pair.2))
    : ∃ s, l.length = s.length ∧ (∀ pair ∈ l.zip s, P pair.1 pair.2) ∧ (s.map f = r → s = r) := by
  induction l generalizing r with
  | nil =>
    rw [List.length_nil] at hlength
    rw [List.length_eq_zero_iff.mp hlength.symm]
    exact ⟨[], rfl, by simp, fun _ => rfl⟩
  | cons a l ih =>
    cases r with
    | nil => contradiction
    | cons b r =>
      simp only [List.zip_cons_cons, List.forall_mem_cons] at h
      rcases h with ⟨⟨c, hc, hback⟩, htail⟩
      rcases ih (Nat.succ_inj.mp hlength) htail with ⟨s, hs, hP, hmap⟩
      refine ⟨c :: s, by rw [List.length_cons, List.length_cons, hs], ?_, ?_⟩
      . rw [List.zip_cons_cons, List.forall_mem_cons]
        exact ⟨hc, hP⟩
      . rw [List.map_cons, List.cons.injEq]
        rintro ⟨hhead, hrest⟩
        rw [hback hhead, hmap hrest]

-- what the texts of a value denote, which is never wrapped to the value unless it is the value
theorem Represents.exists_text {type : IdlType} {value : JsValue} {data : IdlData}
    (h : Represents id typeByName type value data)
    : ∃ data', Represents textValue typeByName type value data'
        ∧ (data'.wrap = data → data' = data) := by
  induction h with
  | bool b => exact ⟨_, .bool b, fun _ => rfl⟩
  | integer htype hvalue =>
    rcases hvalue.exists_text with ⟨m, hm, hdist⟩
    refine ⟨_, .integer htype hm, ?_⟩
    simp only [IdlData.wrap, htype, IdlData.integer.injEq, true_and]
    apply eq_of_wrapInteger_eq hdist
  | string s => exact ⟨_, .string s, fun _ => rfl⟩
  | absent => exact ⟨_, .absent, fun _ => rfl⟩
  | present hoption hstring _ ih =>
    rcases ih with ⟨data', hdata', hback⟩
    exact ⟨data', .present hoption hstring hdata', hback⟩
  | vec hbound hlength _ ih =>
    rcases exists_of_zip hlength ih with ⟨items, hitems, hrepresents, hback⟩
    refine ⟨_, .vec hbound hitems hrepresents, ?_⟩
    simpa only [IdlData.wrap, IdlData.list.injEq] using hback
  | struct hname htype hkeys hlength _ ih =>
    rcases exists_of_zip (P := fun field => Represents textValue typeByName field.type
      ((JsValue.object _).get field.name)) hlength ih with ⟨items, hitems, hrepresents, hback⟩
    refine ⟨_, .struct hname htype hkeys hitems hrepresents, ?_⟩
    simpa only [IdlData.wrap, IdlData.record.injEq] using hback

section DecodesTo

variable (rt typeByName)

/-- Wherever `bytes` stand in a buffer, they are decoded to `value` and nothing more is read. -/
def DecodesTo (depth : Nat) (type : IdlType) (bytes : Buffer) (value : JsValue) : Prop :=
  ∀ before after : Buffer,
    decodeType rt typeByName depth type (before ++ bytes ++ after) before.length
      =
    .ok (value, before.length + bytes.length)

end DecodesTo

theorem subarray_append (before bytes after : Buffer)
    : subarray (before ++ bytes ++ after) before.length (before.length + bytes.length) = bytes := by
  unfold subarray
  rw [List.append_assoc, List.drop_left, Nat.add_sub_cancel_left, List.take_left]

theorem getElem?_append (before after : Buffer) (b : UInt8) (bytes : Buffer)
    : (before ++ b :: bytes ++ after)[before.length]? = some b := by
  simp

theorem decodeU32_append (before after : Buffer) {n : Nat} (h : n < 2 ^ 32)
    : decodeU32 (before ++ LittleEndian.encode 4 n ++ after) before.length
        =
      (n, before.length + 4) := by
  have hsub := subarray_append before (LittleEndian.encode 4 n) after
  rw [LittleEndian.length_encode] at hsub
  unfold decodeU32
  rw [hsub, integerValue_eq, LittleEndian.decode_encode_of_lt (by omega)]

theorem decodesTo_bool (depth : Nat) (b : Bool)
    : DecodesTo rt typeByName (depth + 1) (.primitive .bool) [if b then 1 else 0] (.boolean b) := by
  intro before after
  rw [decodeType, decodePrimitive, getElem?_append]
  cases b <;> rfl

theorem decodesTo_integer (depth : Nat) {type : PrimitiveIdlType} {size : Nat} {bytes : Buffer}
    (hsize : integerByteLength type = some size) (hlength : bytes.length = size)
    : DecodesTo rt typeByName (depth + 1) (.primitive type) bytes
        (decodeInteger bytes (isSigned type)) := by
  intro before after
  have hsub := subarray_append before bytes after
  rw [hlength] at hsub ⊢
  rw [decodeType]
  cases type <;> simp only [integerByteLength, reduceCtorEq, Option.some.injEq] at hsize
  all_goals
    subst hsize
    simp only [decodePrimitive, integerByteLength, hsub]
    rfl

theorem decodesTo_string (depth : Nat) {s : JsString} (h : (encodeUtf8 s).length < 2 ^ 32)
    : DecodesTo rt typeByName (depth + 1) (.primitive .string)
        (LittleEndian.encode 4 (encodeUtf8 s).length ++ encodeUtf8 s) (.string (toWellFormed s)) := by
  intro before after
  have hlength := decodeU32_append before (encodeUtf8 s ++ after) h
  have hsub := subarray_append (before ++ LittleEndian.encode 4 (encodeUtf8 s).length)
    (encodeUtf8 s) after
  simp only [List.length_append, LittleEndian.length_encode, List.append_assoc] at hlength hsub
  rw [decodeType, decodePrimitive]
  simp only [List.append_assoc, hlength, hsub, decodeUtf8_encodeUtf8, List.length_append,
    LittleEndian.length_encode]
  rw [← Nat.add_assoc]
  rfl

theorem decodesTo_absent (depth : Nat) (type : IdlType)
    : DecodesTo rt typeByName (depth + 1) (.option type) [0] .null := by
  intro before after
  rw [decodeType, getElem?_append, if_neg (by decide)]
  rfl

theorem decodesTo_present {depth : Nat} {type : IdlType} {bytes : Buffer} {value : JsValue}
    (h : DecodesTo rt typeByName depth type bytes value)
    : DecodesTo rt typeByName (depth + 1) (.option type) (1 :: bytes) value := by
  intro before after
  have htagged := h (before ++ [1]) after
  simp only [List.append_assoc, List.cons_append, List.nil_append, List.length_append,
    List.length_singleton] at htagged
  rw [decodeType, getElem?_append, if_pos rfl]
  simp only [List.append_assoc, List.cons_append, List.length_cons]
  rw [htagged, Nat.add_assoc, Nat.add_comm 1]

section Parts

structure DecodedPart where
  bytes : Buffer
  value : JsValue
  data : IdlData

variable (rt typeByName)

def DecodedPart.IsOf (part : DecodedPart) (depth : Nat) (type : IdlType) : Prop :=
  DecodesTo rt typeByName depth type part.bytes part.value
    ∧ Represents id typeByName type part.value part.data

def DecodesWrapped (depth depth' : Nat) : Prop :=
  ∀ (type : IdlType) (value : JsValue) (data : IdlData) (bytes : Buffer),
    Represents textValue typeByName type value data →
    encodeType rt typeByName depth type value = .ok bytes →
    ∃ value', DecodesTo rt typeByName depth' type bytes value'
      ∧ Represents id typeByName type value' data.wrap

variable {rt typeByName}

theorem mapM_cons_eq_ok {α β ε : Type} {f : α → Except ε β} {a : α} {l : List α} {bs : List β}
    : (a :: l).mapM f = .ok bs ↔ ∃ b bs', f a = .ok b ∧ l.mapM f = .ok bs' ∧ b :: bs' = bs := by
  simp only [List.mapM_cons, bind_eq_ok, pure_eq_ok]
  constructor
  . rintro ⟨b, hb, bs', hbs', hcons⟩
    exact ⟨b, bs', hb, hbs', hcons⟩
  . rintro ⟨b, bs', hb, hbs', hcons⟩
    exact ⟨b, hb, bs', hbs', hcons⟩

theorem exists_parts {α : Type} (typeOf : α → IdlType) (valueOf : α → JsValue) {depth depth' : Nat}
    (h : DecodesWrapped rt typeByName depth depth') {l : List α} {data : List IdlData}
    {buffers : List Buffer} (hlength : l.length = data.length)
    (hvalues : ∀ pair ∈ l.zip data,
      Represents textValue typeByName (typeOf pair.1) (valueOf pair.1) pair.2)
    (hbuffers : l.mapM (fun a => encodeType rt typeByName depth (typeOf a) (valueOf a)) = .ok buffers)
    : ∃ parts : List DecodedPart,
        parts.map DecodedPart.bytes = buffers
          ∧ parts.map DecodedPart.data = data.map IdlData.wrap
          ∧ List.Forall₂ (fun a part => part.IsOf rt typeByName depth' (typeOf a)) l parts := by
  induction l generalizing data buffers with
  | nil =>
    rw [List.length_nil] at hlength
    rw [List.length_eq_zero_iff.mp hlength.symm]
    rw [List.mapM_nil, pure_eq_ok] at hbuffers
    exact ⟨[], hbuffers, rfl, .nil⟩
  | cons a l ihl =>
    cases data with
    | nil => contradiction
    | cons d data =>
      rw [List.zip_cons_cons, List.forall_mem_cons] at hvalues
      rw [mapM_cons_eq_ok] at hbuffers
      rcases hbuffers with ⟨bytes, buffers', hbytes, hbuffers', rfl⟩
      rcases h _ _ _ _ hvalues.1 hbytes with ⟨value, hdecodes, hrepresents⟩
      rcases ihl (Nat.succ_inj.mp hlength) hvalues.2 hbuffers' with ⟨parts, hparts, hdata, hof⟩
      refine ⟨⟨bytes, value, d.wrap⟩ :: parts, ?_, ?_, ?_⟩
      . rw [List.map_cons, hparts]
      . rw [List.map_cons, List.map_cons, hdata]
      . exact .cons ⟨hdecodes, hrepresents⟩ hof

theorem decodeItems_append {depth : Nat} {type : IdlType} {parts : List DecodedPart}
    (h : ∀ part ∈ parts, DecodesTo rt typeByName depth type part.bytes part.value)
    (before after : Buffer)
    : decodeItems
          (decodeType rt typeByName depth type
            (before ++ (parts.map DecodedPart.bytes).flatten ++ after))
          parts.length before.length
        =
      .ok (parts.map DecodedPart.value,
        before.length + (parts.map DecodedPart.bytes).flatten.length) := by
  induction parts generalizing before with
  | nil => rfl
  | cons part parts ih =>
    rw [List.forall_mem_cons] at h
    have hhead := h.1 before ((parts.map DecodedPart.bytes).flatten ++ after)
    have htail := ih h.2 (before ++ part.bytes)
    simp only [List.append_assoc, List.length_append] at hhead htail
    simp only [List.map_cons, List.flatten_cons, List.append_assoc, List.length_cons,
      List.length_append, decodeItems]
    rw [hhead, ok_bind]
    simp only
    rw [htail, ok_bind]
    simp only [Nat.add_assoc]
    rfl

theorem decodesTo_vec {depth : Nat} {type : IdlType} {parts : List DecodedPart}
    (h : ∀ part ∈ parts, DecodesTo rt typeByName depth type part.bytes part.value)
    (hbound : parts.length < 2 ^ 32)
    : DecodesTo rt typeByName (depth + 1) (.vec type)
        (LittleEndian.encode 4 parts.length ++ (parts.map DecodedPart.bytes).flatten)
        (.array (parts.map DecodedPart.value)) := by
  intro before after
  have hlength := decodeU32_append before ((parts.map DecodedPart.bytes).flatten ++ after) hbound
  have hitems := decodeItems_append h (before ++ LittleEndian.encode 4 parts.length) after
  simp only [List.append_assoc, List.length_append, LittleEndian.length_encode] at hlength hitems
  simp only [decodeType, List.append_assoc, List.length_append, LittleEndian.length_encode, hlength]
  rw [hitems, ok_bind, Nat.add_assoc]
  rfl

theorem setProperty_of_fresh {entries : List (JsString × JsValue)} {name : JsString}
    (h : name ∉ entries.map Prod.fst) (value : JsValue)
    : setProperty entries name value = entries ++ [(name, value)] := by
  unfold setProperty
  rw [if_neg]
  rw [List.any_eq_true]
  rintro ⟨entry, hentry, hname⟩
  apply h
  rw [List.mem_map]
  exact ⟨entry, hentry, of_decide_eq_true hname⟩

theorem lookup_eq_some_of_nodup {entries : List (JsString × JsValue)}
    (hnodup : (entries.map Prod.fst).Nodup) {entry : JsString × JsValue} (h : entry ∈ entries)
    : entries.lookup entry.1 = some entry.2 := by
  induction entries with
  | nil => contradiction
  | cons head entries ih =>
    rw [List.map_cons, List.nodup_cons] at hnodup
    rw [List.lookup_cons]
    rcases List.mem_cons.mp h with rfl | hmem
    . rw [beq_self_eq_true]
    . have hne : entry.1 ≠ head.1 := by
        intro heq
        apply hnodup.1
        rw [← heq]
        apply List.mem_map_of_mem hmem
      rw [beq_eq_false_iff_ne.mpr hne]
      apply ih hnodup.2 hmem

def entriesOf (fields : List IdlArg) (parts : List DecodedPart) : List (JsString × JsValue) :=
  (fields.zip parts).map fun pair => (pair.1.name, pair.2.value)

theorem keys_entriesOf {fields : List IdlArg} {parts : List DecodedPart}
    (h : fields.length = parts.length)
    : (entriesOf fields parts).map Prod.fst = fields.map IdlArg.name := by
  unfold entriesOf
  rw [List.map_map]
  change (fields.zip parts).map (IdlArg.name ∘ Prod.fst) = _
  rw [← List.map_map, List.map_fst_zip (by omega)]

theorem decodeFields_append {depth : Nat} {fields : List IdlArg} {parts : List DecodedPart}
    (h : List.Forall₂
      (fun field part => DecodesTo rt typeByName depth field.type part.bytes part.value)
      fields parts)
    (hnodup : (fields.map IdlArg.name).Nodup) (object : List (JsString × JsValue))
    (hfresh : ∀ name ∈ fields.map IdlArg.name, name ∉ object.map Prod.fst) (before after : Buffer)
    : decodeFields
          (fun type => decodeType rt typeByName depth type
            (before ++ (parts.map DecodedPart.bytes).flatten ++ after))
          fields object before.length
        =
      .ok (object ++ entriesOf fields parts,
        before.length + (parts.map DecodedPart.bytes).flatten.length) := by
  induction h generalizing object before with
  | nil =>
    rw [decodeFields]
    simp [entriesOf]
  | @cons field part fields parts hhead _ ih =>
    rw [List.map_cons, List.nodup_cons] at hnodup
    rw [List.map_cons, List.forall_mem_cons] at hfresh
    have hdecode := hhead before ((parts.map DecodedPart.bytes).flatten ++ after)
    have hset := setProperty_of_fresh hfresh.1 part.value
    have htail := ih hnodup.2 (object ++ [(field.name, part.value)]) (by
      intro name hname
      rw [List.map_append, List.mem_append]
      rintro (hold | hnew)
      . exact hfresh.2 name hname hold
      . apply hnodup.1
        rwa [← show name = field.name from List.mem_singleton.mp hnew]) (before ++ part.bytes)
    simp only [List.append_assoc, List.length_append] at hdecode htail
    simp only [List.map_cons, List.flatten_cons, List.append_assoc, List.length_append, decodeFields]
    rw [hdecode, ok_bind]
    simp only
    rw [hset, htail, Nat.add_assoc]
    rfl

theorem decodesTo_struct {depth : Nat} {name : JsString} {typeDef : IdlTypeDef} {type : IdlStruct}
    {parts : List DecodedPart} (hname : typeByName name = some typeDef)
    (htype : typeDef.type = .struct type)
    (h : List.Forall₂
      (fun field part => DecodesTo rt typeByName depth field.type part.bytes part.value)
      type.fields parts)
    : DecodesTo rt typeByName (depth + 1) (.defined name) (parts.map DecodedPart.bytes).flatten
        (.object (entriesOf type.fields parts)) := by
  intro before after
  have hfields := decodeFields_append h type.nodup [] (by simp) before after
  simp only [decodeType, decodeDefined, hname, htype]
  rw [hfields, ok_bind]
  rfl

theorem represents_struct {name : JsString} {typeDef : IdlTypeDef} {type : IdlStruct}
    {parts : List DecodedPart} (hname : typeByName name = some typeDef)
    (htype : typeDef.type = .struct type)
    (h : List.Forall₂ (fun field part => Represents id typeByName field.type part.value part.data)
      type.fields parts)
    : Represents id typeByName (.defined name) (.object (entriesOf type.fields parts))
        (.record (parts.map DecodedPart.data)) := by
  have hlength := h.length_eq
  apply Represents.struct hname htype
  . intro entry hentry
    rw [← keys_entriesOf hlength]
    apply List.mem_map_of_mem hentry
  . rw [List.length_map, hlength]
  . intro pair hpair
    rw [List.zip_map_right, List.mem_map] at hpair
    rcases hpair with ⟨⟨field, part⟩, hmem, rfl⟩
    have hget : (JsValue.object (entriesOf type.fields parts)).get field.name = part.value := by
      have hentry : (field.name, part.value) ∈ entriesOf type.fields parts :=
        List.mem_map_of_mem hmem
      have hlookup := lookup_eq_some_of_nodup
        (by rw [keys_entriesOf hlength]; exact type.nodup) hentry
      rw [JsValue.get, hlookup, Option.getD_some]
    simp only [Prod.map_apply, id_eq]
    rw [hget]
    exact List.forall₂_iff_zip.mp h |>.2 hmem

end Parts

theorem alloc_eq_ok {bytes bytes' : Buffer}
    : alloc bytes = .ok bytes' ↔ bytes.length ≤ kMaxLength ∧ bytes = bytes' := by
  unfold alloc
  split
  . next h =>
    rw [pure_eq_ok]
    exact ⟨fun heq => ⟨h, heq⟩, fun heq => heq.2⟩
  . next h =>
    constructor
    . intro hthrow
      contradiction
    . intro hle
      exact absurd hle.1 h

theorem encodePrimitive_integer {type : PrimitiveIdlType} {size : Nat} {value : JsValue} {n : Int}
    {bytes : Buffer} (htype : integerByteLength type = some size)
    (hdecimal : IsDecimal textValue value n)
    (h : encodePrimitive rt type value = .ok bytes)
    : bytes = LittleEndian.encode size (n % 256 ^ size).toNat := by
  have hinteger : encodeInteger rt value size (isSigned type) = .ok bytes := by
    cases type <;> simp only [integerByteLength, reduceCtorEq, Option.some.injEq] at htype
    all_goals
      subst htype
      exact h
  apply encodeInteger_inv hdecimal hinteger

theorem encodePrimitive_string {s : JsString} {bytes : Buffer}
    (h : encodePrimitive rt .string (.string s) = .ok bytes)
    : (encodeUtf8 s).length < 2 ^ 32
        ∧ bytes = LittleEndian.encode 4 (encodeUtf8 s).length ++ encodeUtf8 s := by
  rw [encodePrimitive, JsValue.toText, bind_eq_ok] at h
  rcases h with ⟨utf8, hutf8, h⟩
  rw [alloc_eq_ok] at hutf8
  rcases hutf8 with ⟨hmax, rfl⟩
  have hlength : (encodeUtf8 s).length < 2 ^ 32 := by
    unfold kMaxLength at hmax
    omega
  rw [encodeU32_eq hlength, ok_bind, concat, alloc_eq_ok] at h
  refine ⟨hlength, ?_⟩
  rw [← h.2]
  simp

theorem encodeType_present {type : IdlType} {value : JsValue} {bytes : Buffer} {depth : Nat}
    (hvalue : value ≠ .null ∧ value ≠ .undefined ∧ value ≠ .string [])
    (h : encodeType rt typeByName (depth + 1) (.option type) value = .ok bytes)
    : ∃ inner, encodeType rt typeByName depth type value = .ok inner ∧ bytes = 1 :: inner := by
  rw [encodeType, bind_eq_ok] at h
  . rcases h with ⟨inner, hinner, h⟩
    rw [concat, alloc_eq_ok] at h
    refine ⟨inner, hinner, ?_⟩
    rw [← h.2]
    simp
  . exact hvalue.1
  . exact hvalue.2.1
  . exact hvalue.2.2

theorem encodeType_vec {type : IdlType} {items : List JsValue} {bytes : Buffer} {depth : Nat}
    (hbound : items.length < 2 ^ 32)
    (h : encodeType rt typeByName (depth + 1) (.vec type) (.array items) = .ok bytes)
    : ∃ buffers, items.mapM (encodeType rt typeByName depth type) = .ok buffers
        ∧ bytes = LittleEndian.encode 4 items.length ++ buffers.flatten := by
  rw [encodeType, toArray, pure_bind, encodeU32_eq hbound, ok_bind, bind_eq_ok] at h
  rcases h with ⟨buffers, hbuffers, h⟩
  rw [concat, alloc_eq_ok] at h
  refine ⟨buffers, hbuffers, ?_⟩
  rw [← h.2, List.flatten_cons]

theorem encodeType_struct {name : JsString} {typeDef : IdlTypeDef} {type : IdlStruct}
    {entries : List (JsString × JsValue)} {bytes : Buffer} {depth : Nat}
    (hname : typeByName name = some typeDef) (htype : typeDef.type = .struct type)
    (h : encodeType rt typeByName (depth + 1) (.defined name) (.object entries) = .ok bytes)
    : ∃ buffers,
        type.fields.mapM (fun field => encodeType rt typeByName depth field.type
          ((JsValue.object entries).get field.name)) = .ok buffers
          ∧ bytes = buffers.flatten := by
  rw [encodeType, encodeDefined, hname] at h
  simp only [htype] at h
  rw [encodeFields, bind_eq_ok] at h
  rcases h with ⟨buffers, hbuffers, h⟩
  rw [concat, alloc_eq_ok] at h
  exact ⟨buffers, hbuffers, h.2.symm⟩

theorem forall_mem_of_forall₂ {α β : Type} {P : β → Prop} {l : List α} {r : List β}
    (h : List.Forall₂ (fun _ b => P b) l r) : ∀ b ∈ r, P b := by
  induction h with
  | nil => simp
  | cons hb _ ih =>
    rw [List.forall_mem_cons]
    exact ⟨hb, ih⟩

section

variable {depth depth' : Nat} {bytes : Buffer}

theorem exists_decodesTo_vec {type : IdlType} {items : List JsValue} {data : List IdlData}
    (h : DecodesWrapped rt typeByName depth depth') (hbound : items.length < 2 ^ 32)
    (hlength : items.length = data.length)
    (hitems : ∀ pair ∈ items.zip data, Represents textValue typeByName type pair.1 pair.2)
    (hbytes : encodeType rt typeByName (depth + 1) (.vec type) (.array items) = .ok bytes)
    : ∃ value', DecodesTo rt typeByName (depth' + 1) (.vec type) bytes value'
        ∧ Represents id typeByName (.vec type) value' (IdlData.list data).wrap := by
  rcases encodeType_vec hbound hbytes with ⟨buffers, hbuffers, rfl⟩
  rcases exists_parts (fun _ => type) id h hlength hitems hbuffers with ⟨parts, rfl, hdata, hof⟩
  have hparts := forall_mem_of_forall₂ hof
  rw [hof.length_eq] at hbound ⊢
  refine ⟨_, decodesTo_vec (fun part hpart => (hparts part hpart).1) hbound, ?_⟩
  rw [IdlData.wrap, ← hdata]
  apply Represents.vec
  . rwa [List.length_map]
  . rw [List.length_map, List.length_map]
  . intro pair hpair
    rw [List.zip_map', List.mem_map] at hpair
    rcases hpair with ⟨part, hpart, rfl⟩
    exact (hparts part hpart).2

theorem exists_decodesTo_struct {name : JsString} {typeDef : IdlTypeDef} {type : IdlStruct}
    {entries : List (JsString × JsValue)} {data : List IdlData}
    (h : DecodesWrapped rt typeByName depth depth') (hname : typeByName name = some typeDef)
    (htype : typeDef.type = .struct type) (hlength : type.fields.length = data.length)
    (hfields : ∀ pair ∈ type.fields.zip data,
      Represents textValue typeByName pair.1.type ((JsValue.object entries).get pair.1.name) pair.2)
    (hbytes : encodeType rt typeByName (depth + 1) (.defined name) (.object entries) = .ok bytes)
    : ∃ value', DecodesTo rt typeByName (depth' + 1) (.defined name) bytes value'
        ∧ Represents id typeByName (.defined name) value' (IdlData.record data).wrap := by
  rcases encodeType_struct hname htype hbytes with ⟨buffers, hbuffers, rfl⟩
  rcases exists_parts IdlArg.type (fun field => (JsValue.object entries).get field.name) h hlength
    hfields hbuffers with ⟨parts, rfl, hdata, hof⟩
  refine ⟨_, decodesTo_struct hname htype (hof.imp fun _ _ hpart => hpart.1), ?_⟩
  rw [IdlData.wrap, ← hdata]
  apply represents_struct hname htype (hof.imp fun _ _ hpart => hpart.2)

theorem decodesWrapped (hdepth : depth ≤ depth') : DecodesWrapped rt typeByName depth depth' := by
  induction depth generalizing depth' with
  | zero =>
    intro type value data bytes _ hbytes
    contradiction
  | succ depth ih =>
    obtain ⟨depth', rfl⟩ : ∃ k, depth' = k + 1 := ⟨depth' - 1, by omega⟩
    have ih := ih (Nat.le_of_succ_le_succ hdepth)
    intro type value data bytes hvalue hbytes
    cases hvalue with
    | bool b =>
      rw [encodeType, encodePrimitive, pure_eq_ok] at hbytes
      rw [← hbytes]
      refine ⟨_, decodesTo_bool depth' b, ?_⟩
      rw [IdlData.wrap]
      apply Represents.bool
    | integer htype hdecimal =>
      have hbytes := encodePrimitive_integer htype hdecimal hbytes
      rw [hbytes]
      refine ⟨_, decodesTo_integer depth' htype (LittleEndian.length_encode _ _), ?_⟩
      simp only [IdlData.wrap, htype]
      apply Represents.integer htype
      rw [← signedValue_encode (integerByteLength_pos htype)]
      apply decodeInteger_isDecimal
    | string s =>
      rcases encodePrimitive_string hbytes with ⟨hlength, hbytes⟩
      rw [hbytes]
      refine ⟨_, decodesTo_string depth' hlength, ?_⟩
      rw [IdlData.wrap]
      apply Represents.string
    | absent =>
      rw [encodeType, pure_eq_ok] at hbytes
      rw [← hbytes]
      refine ⟨_, decodesTo_absent depth' _, ?_⟩
      rw [IdlData.wrap]
      apply Represents.absent
    | present hoption hstring hvalue =>
      rcases encodeType_present (hvalue.ne_empty hoption hstring) hbytes with ⟨inner, hinner, rfl⟩
      rcases ih _ _ _ _ hvalue hinner with ⟨value', hdecodes, hrepresents⟩
      exact ⟨value', decodesTo_present hdecodes, .present hoption hstring hrepresents⟩
    | vec hbound hlength hitems =>
      exact exists_decodesTo_vec ih hbound hlength hitems hbytes
    | struct hname htype _ hlength hfields =>
      exact exists_decodesTo_struct ih hname htype hlength hfields hbytes

variable (rt typeByName) in
/-- In every buffer that has `bytes` somewhere, decoding there gives a value of `data` back and goes
on right after them. -/
def RoundTrips (depth : Nat) (type : IdlType) (data : IdlData) (bytes : Buffer) : Prop :=
  ∀ before after : Buffer, ∃ value,
    decodeType rt typeByName depth type (before ++ bytes ++ after) before.length
        =
      .ok (value, before.length + bytes.length)
      ∧ Represents id typeByName type value data

end

section Engine

def plainRuntime : Runtime where
  exponentText _ := text "1e+21"
  bigInt_exponentText _ := by decide
  toLowerCase s := s.map fun u => if 65 ≤ u.toNat ∧ u.toNat ≤ 90 then u + 32 else u
  jsonParse _ := throw .syntaxError
  publicKeyToBuffer _ := throw .typeError
  publicKeyToBase58 _ := throw .typeError

-- the text of 2 ^ 60 has other digits, and these are what is encoded
example : encodeType plainRuntime (fun _ => none) 1 (.primitive .u64) (.number (2 ^ 60))
    = .ok (LittleEndian.encode 8 1152921504606847000) := by rfl

end Engine

end OnreApp.Ui
