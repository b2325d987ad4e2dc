import OnreApp.Lib.Double
import OnreApp.Lib.Utf16
import Mathlib.Algebra.Ring.Int.Defs
import Mathlib.Algebra.Ring.Nat

/-!
The values the admin UI hands to its codec, with the conversions of the language the codec uses:
`String(value)`, `BigInt(text)` and the test of a value as a condition. Numbers are the integral
ones; the integers that are no floating point number do not occur. What an engine or a package
decides is in `Runtime`.
-/

namespace OnreApp.Ui

open Utf16

abbrev JsString := Utf16.Units

abbrev text (s : String) : JsString := ofString s

abbrev codeUnit (c : Char) : UInt16 := UInt16.ofNat c.toNat

inductive JsError where
  | error (message : JsString)
  | typeError
  | syntaxError
  | rangeError
  deriving DecidableEq

abbrev Js := Except JsError

/-- The entries of an object stand in the order of `Object.keys`. -/
inductive JsValue where
  | undefined
  | null
  | boolean (b : Bool)
  | number (n : Int)
  | bigint (n : Int)
  | string (s : JsString)
  | array (items : List JsValue)
  | object (entries : List (JsString × JsValue))

section BigInt

def isSpace (u : UInt16) : Bool :=
  [0x9, 0xA, 0xB, 0xC, 0xD, 0x20, 0xA0, 0x1680, 0x2000, 0x2001, 0x2002, 0x2003, 0x2004, 0x2005,
    0x2006, 0x2007, 0x2008, 0x2009, 0x200A, 0x2028, 0x2029, 0x202F, 0x205F, 0x3000, 0xFEFF].contains
    u.toNat

def trim (s : JsString) : JsString :=
  ((s.dropWhile isSpace).reverse.dropWhile isSpace).reverse

def digitValue (u : UInt16) : Option Nat :=
  if 48 ≤ u.toNat ∧ u.toNat ≤ 57 then
    some (u.toNat - 48)
  else if 65 ≤ u.toNat ∧ u.toNat ≤ 90 then
    some (u.toNat - 55)
  else if 97 ≤ u.toNat ∧ u.toNat ≤ 122 then
    some (u.toNat - 87)
  else
    none

def digit (base : Nat) (u : UInt16) : Option Nat := (digitValue u).filter (· < base)

def digitsFrom (base : Nat) : Nat → JsString → Option Nat
  | acc, [] => some acc
  | acc, u :: rest =>
    match digit base u with
    | some d => digitsFrom base (base * acc + d) rest
    | none => none

def digits (base : Nat) (s : JsString) : Option Nat :=
  if s = [] then none else digitsFrom base 0 s

def signedInteger (s : JsString) : Option Int :=
  match s with
  | [] => none
  | u :: rest =>
    if u = codeUnit '-' then
      (digits 10 rest).map fun (n : Nat) => -(n : Int)
    else if u = codeUnit '+' then
      (digits 10 rest).map Int.ofNat
    else
      (digits 10 (u :: rest)).map Int.ofNat

def nonDecimalInteger (s : JsString) : Option Int :=
  let literal := s.drop 2
  if s.take 2 = text "0x" ∨ s.take 2 = text "0X" then
    (digits 16 literal).map Int.ofNat
  else if s.take 2 = text "0o" ∨ s.take 2 = text "0O" then
    (digits 8 literal).map Int.ofNat
  else if s.take 2 = text "0b" ∨ s.take 2 = text "0B" then
    (digits 2 literal).map Int.ofNat
  else
    none

def bigInt (s : JsString) : Option Int :=
  let literal := trim s
  if literal = [] then
    some 0
  else
    match signedInteger literal with
    | some n => some n
    | none => nonDecimalInteger literal

def decimal (n : Int) : JsString :=
  if n < 0 then
    codeUnit '-' :: text n.natAbs.repr
  else
    text n.natAbs.repr

end BigInt

/-- `exponentText` is the text of a number of at least `10 ^ 21`, which `BigInt` does not accept. -/
structure Runtime where
  exponentText : Int → JsString
  bigInt_exponentText : ∀ n, bigInt (exponentText n) = none
  toLowerCase : JsString → JsString
  jsonParse : JsString → Js JsValue
  publicKeyToBuffer : JsString → Js (List UInt8)
  publicKeyToBase58 : List UInt8 → Js JsString

namespace JsValue

def isTruthy : JsValue → Bool
  | undefined => false
  | null => false
  | boolean b => b
  | number n => n != 0
  | bigint n => n != 0
  | string s => !s.isEmpty
  | array _ => true
  | object _ => true

def orElse (value default : JsValue) : JsValue := if value.isTruthy then value else default

def isObject : JsValue → Bool
  | null => true
  | array _ => true
  | object _ => true
  | _ => false

/-- The integer that the text of a number is the decimal text of. -/
def textValue (n : Int) : Int := n.sign * Double.shortest n.natAbs

def numberText (rt : Runtime) (n : Int) : JsString :=
  if n.natAbs < 10 ^ 21 then decimal (textValue n) else rt.exponentText n

mutual

def toText (rt : Runtime) : JsValue → JsString
  | undefined => text "undefined"
  | null => text "null"
  | boolean b => text (if b then "true" else "false")
  | number n => numberText rt n
  | bigint n => decimal n
  | string s => s
  | array items => joinText rt items
  | object _ => text "[object Object]"

def joinText (rt : Runtime) : List JsValue → JsString
  | [] => []
  | [item] => elementText rt item
  | item :: rest => elementText rt item ++ text "," ++ joinText rt rest

def elementText (rt : Runtime) : JsValue → JsString
  | undefined => []
  | null => []
  | boolean b => text (if b then "true" else "false")
  | number n => numberText rt n
  | bigint n => decimal n
  | string s => s
  | array items => joinText rt items
  | object _ => text "[object Object]"

end

def toBigInt (rt : Runtime) (value : JsValue) : Js Int :=
  match bigInt (toText rt value) with
  | some n => return n
  | none => throw .syntaxError

def get (value : JsValue) (name : JsString) : JsValue :=
  match value with
  | object entries => (entries.lookup name).getD undefined
  | array items =>
    if name = text "length" then
      number items.length
    else
      match items.zipIdx.find? fun item => decimal item.2 = name with
      | some item => item.1
      | none => undefined
  | _ => undefined

def firstKey : JsValue → Option JsString
  | object entries => entries.head?.map Prod.fst
  | array items => items.head?.map fun _ => text "0"
  | _ => none

end JsValue

def setProperty (entries : List (JsString × JsValue)) (name : JsString) (value : JsValue)
    : List (JsString × JsValue) :=
  if entries.any fun entry => entry.1 = name then
    entries.map fun entry => if entry.1 = name then (name, value) else entry
  else
    entries ++ [(name, value)]

end OnreApp.Ui
