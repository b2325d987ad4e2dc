import OnreApp.Ui.Impl.JsValue

/-!
The codec of the admin UI: instruction arguments to bytes and return data from bytes, both directed
by the types of the program's IDL. The first argument of the recursive functions is the depth of
calls the engine has left; at 0 it throws.
-/

namespace OnreApp.Ui

open Utf16

abbrev Buffer := List UInt8

inductive PrimitiveIdlType where
  | bool
  | i64
  | pubkey
  | string
  | u8
  | u16
  | u32
  | u64
  deriving DecidableEq

inductive IdlType where
  | primitive (type : PrimitiveIdlType)
  | option (type : IdlType)
  | vec (type : IdlType)
  | array (type : IdlType) (length : Nat)
  | defined (name : JsString)
  deriving DecidableEq

structure IdlArg where
  name : JsString
  type : IdlType

structure IdlStruct where
  fields : List IdlArg
  nodup : (fields.map IdlArg.name).Nodup

inductive IdlVariantFields where
  | named (fields : List IdlArg)
  | tuple (types : List IdlType)

structure IdlVariant where
  name : JsString
  fields : Option IdlVariantFields

inductive IdlTypeDefKind where
  | struct (type : IdlStruct)
  | enum (variants : List IdlVariant)

structure IdlTypeDef where
  name : JsString
  type : IdlTypeDefKind

def PrimitiveIdlType.name : PrimitiveIdlType → String
  | bool => "bool"
  | i64 => "i64"
  | pubkey => "pubkey"
  | string => "string"
  | u8 => "u8"
  | u16 => "u16"
  | u32 => "u32"
  | u64 => "u64"

def IdlType.stringify : IdlType → JsString
  | primitive type => text "\"" ++ text type.name ++ text "\""
  | option type => text "\x7b\"option\":" ++ type.stringify ++ text "\x7d"
  | vec type => text "\x7b\"vec\":" ++ type.stringify ++ text "\x7d"
  | array type length =>
    text "\x7b\"array\":[" ++ type.stringify ++ text "," ++ decimal length ++ text "]\x7d"
  | defined name => text "\x7b\"defined\":\x7b\"name\":\"" ++ name ++ text "\"\x7d\x7d"

def normalizeName (rt : Runtime) (name : JsString) : JsString :=
  rt.toLowerCase ((name.filter (· ≠ codeUnit '_')).filter (· ≠ codeUnit '-'))

def parseBoolean (rt : Runtime) (value : JsValue) : Bool :=
  match value with
  | .boolean b => b
  | value =>
    rt.toLowerCase (value.toText rt) = text "true" || value.toText rt = text "1"

section Buffer

-- the longest buffer, `kMaxLength` of the package `buffer`
def kMaxLength : Nat := 0x7fffffff

def alloc (bytes : Buffer) : Js Buffer :=
  if bytes.length ≤ kMaxLength then
    return bytes
  else
    throw .rangeError

def concat (parts : List Buffer) : Js Buffer := alloc parts.flatten

def subarray (bytes : Buffer) (start stop : Nat) : Buffer := (bytes.drop start).take (stop - start)

end Buffer

section Integer

def integerByteLength : PrimitiveIdlType → Option Nat
  | .u8 => some 1
  | .u16 => some 2
  | .u32 => some 4
  | .u64 => some 8
  | .i64 => some 8
  | _ => none

-- `type.startsWith("i")`
def isSigned (type : PrimitiveIdlType) : Bool := (text type.name).head? = some (codeUnit 'i')

-- `& 0xffn` is the remainder modulo 256, also of a negative number
def integerBytes (bigint : Int) (byteLength : Nat) : Buffer :=
  (List.range byteLength).map fun (i : Nat) =>
    UInt8.ofNat ((bigint >>> (i * 8)) % 256).toNat

def encodeInteger (rt : Runtime) (value : JsValue) (byteLength : Nat) (signed : Bool)
    : Js Buffer := do
  let bigint ← (value.orElse (.string (text "0"))).toBigInt rt
  let max : Int := 2 ^ (byteLength * 8)
  if signed ∧ bigint < 0 then
    return integerBytes (max + bigint) byteLength
  else
    return integerBytes bigint byteLength

def encodeU32 (rt : Runtime) (value : Nat) : Js Buffer := encodeInteger rt (.number value) 4 false

def integerValue (bytes : Buffer) : Nat :=
  bytes.zipIdx.foldl (fun value byte => value ||| (byte.1.toNat <<< (byte.2 * 8))) 0

def maxSafeInteger : Int := 2 ^ 53 - 1

def minSafeInteger : Int := -(2 ^ 53 - 1)

-- of no bytes there is no sign bit: `1n << -1n` is 0
def signedValue (bytes : Buffer) (signed : Bool) : Int :=
  let value := integerValue bytes
  let signBit := 1 <<< (bytes.length * 8 - 1)
  if signed ∧ value &&& signBit ≠ 0 then
    (value : Int) - 2 ^ (bytes.length * 8)
  else
    value

def decodeInteger (bytes : Buffer) (signed : Bool) : JsValue :=
  let value := signedValue bytes signed
  if value ≤ maxSafeInteger ∧ value ≥ minSafeInteger then
    .number value
  else
    .string (decimal value)

end Integer

section Encode

def encodePrimitive (rt : Runtime) (type : PrimitiveIdlType) (value : JsValue) : Js Buffer :=
  match type with
  | .bool => return [if parseBoolean rt value then 1 else 0]
  | .pubkey => rt.publicKeyToBuffer (value.toText rt)
  | .string => do
    let bytes ← alloc (encodeUtf8 (value.toText rt))
    let length ← encodeU32 rt bytes.length
    concat [length, bytes]
  | type =>
    match integerByteLength type with
    | none => throw (.error (text "Unsupported primitive type: " ++ text type.name))
    | some size => encodeInteger rt value size (isSigned type)

-- `Array.isArray(value) ? value : JSON.parse(String(value || "[]"))`, where what is no array has
-- no `map` to call
def toArray (rt : Runtime) (value : JsValue) : Js (List JsValue) :=
  match value with
  | .array items => return items
  | value => do
    match ← rt.jsonParse ((value.orElse (.string (text "[]"))).toText rt) with
    | .array items => return items
    | _ => throw .typeError

def toObject (value : JsValue) : JsValue :=
  if value.isTruthy ∧ value.isObject then value else .object []

def findVariant (rt : Runtime) (variants : List IdlVariant) (name : JsString)
    : Option IdlVariant :=
  variants.find? fun candidate => normalizeName rt candidate.name = normalizeName rt name

def invalidVariant (typeDef : IdlTypeDef) (name : JsString) : JsError :=
  .error (text "Invalid " ++ typeDef.name ++ text " variant: " ++ name)

-- a name that is no JSON text is looked up by a call with the same name, over and over
def resolveEnumVariant (rt : Runtime) (typeDef : IdlTypeDef)
    : Nat → JsValue → Js (IdlVariant × JsValue)
  | 0, _ => throw .rangeError
  | depth + 1, value =>
    match typeDef.type with
    | .struct _ => throw (.error (typeDef.name ++ text " is not an enum"))
    | .enum variants =>
      match value with
      | .string s => do
        let parsed ←
          if (trim s).head? = some (codeUnit '\x7b') then rt.jsonParse s else pure (.string s)
        resolveEnumVariant rt typeDef depth parsed
      | value =>
        if value.isTruthy ∧ value.isObject then
          match value.firstKey with
          | none =>
            if variants.isEmpty then
              throw (invalidVariant typeDef (text "undefined"))
            else
              throw .typeError
          | some key =>
            match findVariant rt variants key with
            | none => throw (invalidVariant typeDef key)
            | some variant => return (variant, value.get key)
        else
          match findVariant rt variants (value.toText rt) with
          | none => throw (invalidVariant typeDef (value.toText rt))
          | some variant => return (variant, .undefined)

def encodeFields (encode : IdlType → JsValue → Js Buffer) (fields : List IdlArg) (value : JsValue)
    : Js Buffer := do
  let parts ← fields.mapM fun field => encode field.type ((toObject value).get field.name)
  concat parts

def encodeEnumFields (encode : IdlType → JsValue → Js Buffer) (fields : IdlVariantFields)
    (value : JsValue) : Js Buffer :=
  match fields with
  | .named [] => return []
  | .tuple [] => return []
  | .named fields => encodeFields encode fields value
  | .tuple types => do
    let items :=
      match value with
      | .array items => items
      | value => [value]
    let parts ← types.zipIdx.mapM fun type => encode type.1 (items.getD type.2 .undefined)
    concat parts

variable (rt : Runtime) (typeByName : JsString → Option IdlTypeDef)

def encodeDefined (depth : Nat) (encode : IdlType → JsValue → Js Buffer) (name : JsString)
    (value : JsValue) : Js Buffer :=
  match typeByName name with
  | none => throw (.error (text "Unknown defined type: " ++ name))
  | some typeDef =>
    match typeDef.type with
    | .struct type => encodeFields encode type.fields value
    | .enum variants => do
      let (variant, payload) ← resolveEnumVariant rt typeDef depth value
      let index :=
        match variants.findIdx? fun candidate => candidate.name = variant.name with
        | some index => UInt8.ofNat index
        | none => 255
      let payload ←
        match variant.fields with
        | none => pure []
        | some fields => encodeEnumFields encode fields payload
      concat [[index], payload]

def encodeType : Nat → IdlType → JsValue → Js Buffer
  | 0, _, _ => throw .rangeError
  | depth + 1, type, value =>
    match type with
    | .primitive type => encodePrimitive rt type value
    | .option type =>
      match value with
      | .null => return [0]
      | .undefined => return [0]
      | .string [] => return [0]
      | value => do
        let bytes ← encodeType depth type value
        concat [[1], bytes]
    | .vec type => do
      let items ← toArray rt value
      let length ← encodeU32 rt items.length
      let parts ← items.mapM (encodeType depth type)
      concat (length :: parts)
    | .array type length => do
      let items ← toArray rt value
      if items.length ≠ length then
        throw (.error (text "Expected array length " ++ decimal length))
      else
        let parts ← items.mapM (encodeType depth type)
        concat parts
    | .defined name => encodeDefined rt typeByName depth (encodeType depth) name value

end Encode

section Decode

-- `decodeType("u32", bytes, offset)`, whose value is a safe integer
def decodeU32 (bytes : Buffer) (offset : Nat) : Nat × Nat :=
  (integerValue (subarray bytes offset (offset + 4)), offset + 4)

def decodePrimitive (rt : Runtime) (type : PrimitiveIdlType) (bytes : Buffer) (offset : Nat)
    : Js (JsValue × Nat) :=
  match type with
  | .bool => return (.boolean (bytes[offset]? ≠ some 0), offset + 1)
  | .pubkey => do
    let address ← rt.publicKeyToBase58 (subarray bytes offset (offset + 32))
    return (.string address, offset + 32)
  | .string =>
    let (length, afterLength) := decodeU32 bytes offset
    return (.string (decodeUtf8 (subarray bytes afterLength (afterLength + length))),
      afterLength + length)
  | type =>
    match integerByteLength type with
    | none => throw (.error (text "Unsupported return primitive: " ++ text type.name))
    | some size =>
      return (decodeInteger (subarray bytes offset (offset + size)) (isSigned type), offset + size)

def decodeItems (decode : Nat → Js (JsValue × Nat)) : Nat → Nat → Js (List JsValue × Nat)
  | 0, cursor => return ([], cursor)
  | n + 1, cursor => do
    let (value, next) ← decode cursor
    let (values, cursor) ← decodeItems decode n next
    return (value :: values, cursor)

def decodeFields (decode : IdlType → Nat → Js (JsValue × Nat))
    : List IdlArg → List (JsString × JsValue) → Nat → Js (List (JsString × JsValue) × Nat)
  | [], object, cursor => return (object, cursor)
  | field :: fields, object, cursor => do
    let (value, next) ← decode field.type cursor
    decodeFields decode fields (setProperty object field.name value) next

variable (rt : Runtime) (typeByName : JsString → Option IdlTypeDef)

def decodeDefined (decode : IdlType → Nat → Js (JsValue × Nat)) (name : JsString) (bytes : Buffer)
    (offset : Nat) : Js (JsValue × Nat) :=
  match typeByName name with
  | none => throw (.error (text "Unknown defined type: " ++ name))
  | some typeDef =>
    match typeDef.type with
    | .struct type => do
      let (object, cursor) ← decodeFields decode type.fields [] offset
      return (.object object, cursor)
    | .enum variants =>
      match bytes[offset]? with
      | none => throw (.error (text "Invalid enum variant index: " ++ text "undefined"))
      | some index =>
        match variants[index.toNat]? with
        | none =>
          throw (.error (text "Invalid enum variant index: " ++ decimal index.toNat))
        | some variant => return (.object [(variant.name, .object [])], offset + 1)

def decodeType : Nat → IdlType → Buffer → Nat → Js (JsValue × Nat)
  | 0, _, _, _ => throw .rangeError
  | depth + 1, type, bytes, offset =>
    match type with
    | .primitive type => decodePrimitive rt type bytes offset
    | .option type =>
      if bytes[offset]? = some 1 then
        decodeType depth type bytes (offset + 1)
      else
        return (.null, offset + 1)
    | .vec type => do
      let (length, start) := decodeU32 bytes offset
      let (values, cursor) ← decodeItems (decodeType depth type bytes) length start
      return (.array values, cursor)
    | .defined name =>
      decodeDefined typeByName (fun type => decodeType depth type bytes) name bytes offset
    | .array type length =>
      throw (.error (text "Unsupported return type: " ++ (IdlType.array type length).stringify))

end Decode

end OnreApp.Ui
