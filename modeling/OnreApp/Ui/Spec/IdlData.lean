import OnreApp.Ui.Impl.IdlCodec

/-!
What the values of the UI mean. The same datum has several values: an integer is a number, a bigint
or the text of its digits, and an object has its entries in any order.
-/

namespace OnreApp.Ui

open Utf16

section IsDecimal

variable (numberValue : Int → Int)

/-- `numberValue` is what a number stands for: itself, or what its text says. -/
inductive IsDecimal : JsValue → Int → Prop where
  | number {n m : Int} (hexact : Double.IsExact n.natAbs) (hvalue : numberValue n = m)
      : IsDecimal (.number n) m
  | bigint (n : Int) : IsDecimal (.bigint n) n
  | string {s : JsString} {n : Int} (h : signedInteger s = some n) : IsDecimal (.string s) n

end IsDecimal

def PrimitiveIdlType.InRange : PrimitiveIdlType → Int → Prop
  | u8, n => 0 ≤ n ∧ n < 2 ^ 8
  | u16, n => 0 ≤ n ∧ n < 2 ^ 16
  | u32, n => 0 ≤ n ∧ n < 2 ^ 32
  | u64, n => 0 ≤ n ∧ n < 2 ^ 64
  | i64, n => -2 ^ 63 ≤ n ∧ n < 2 ^ 63
  | _, _ => False

inductive IdlData where
  | bool (b : Bool)
  | integer (type : PrimitiveIdlType) (n : Int)
  | string (s : JsString)
  | absent
  | list (items : List IdlData)
  | record (items : List IdlData)

def IdlData.Fits : IdlData → Prop
  | bool _ => True
  | integer type n => type.InRange n
  | string s => isWellFormed s = true
  | absent => True
  | list items => ∀ item ∈ items, item.Fits
  | record items => ∀ item ∈ items, item.Fits

def IdlType.isOption : IdlType → Bool
  | option _ => true
  | _ => false

section Represents

variable (numberValue : Int → Int) (typeByName : JsString → Option IdlTypeDef)

/-- `value` has the shape of `type`. An array of the language has fewer than `2 ^ 32` items. -/
inductive Represents : IdlType → JsValue → IdlData → Prop where
  | bool (b : Bool) : Represents (.primitive .bool) (.boolean b) (.bool b)
  | integer {type : PrimitiveIdlType} {size : Nat} {value : JsValue} {n : Int}
      (htype : integerByteLength type = some size) (hvalue : IsDecimal numberValue value n)
      : Represents (.primitive type) value (.integer type n)
  | string (s : JsString) : Represents (.primitive .string) (.string s) (.string s)
  | absent {type : IdlType} : Represents (.option type) .null .absent
  | present {type : IdlType} {value : JsValue} {data : IdlData}
      (hoption : type.isOption = false) (hstring : type ≠ .primitive .string)
      (hvalue : Represents type value data)
      : Represents (.option type) value data
  | vec {type : IdlType} {items : List JsValue} {data : List IdlData}
      (hbound : items.length < 2 ^ 32) (hlength : items.length = data.length)
      (hitems : ∀ pair ∈ items.zip data, Represents type pair.1 pair.2)
      : Represents (.vec type) (.array items) (.list data)
  | struct {name : JsString} {typeDef : IdlTypeDef} {type : IdlStruct}
      {entries : List (JsString × JsValue)} {data : List IdlData}
      (hname : typeByName name = some typeDef) (htype : typeDef.type = .struct type)
      (hkeys : ∀ entry ∈ entries, entry.1 ∈ type.fields.map IdlArg.name)
      (hlength : type.fields.length = data.length)
      (hfields : ∀ pair ∈ type.fields.zip data,
        Represents pair.1.type ((JsValue.object entries).get pair.1.name) pair.2)
      : Represents (.defined name) (.object entries) (.record data)

end Represents

end OnreApp.Ui
