import LuaDebugger.Decimal.Text
import LuaDebugger.Decimal.Read
import LuaDebugger.Text.Bytes
/-!
# Script values

A value of the script language: `nil`, a boolean, a binary64 number, a byte string, or a
reference to an object of the heap (a table, a function, a coroutine or a userdata). Objects
are named by their index in the heap, so two references are the same object exactly when
their indices agree.

* `Value.typeName` is the name the language gives the type of a value.
* `Value.truthy`: only `nil` and `false` are false.
* `Value.rawEq` is equality without metamethods: numbers compare as binary64 values, strings
  byte by byte, objects by identity.
* `Key` is the hashable form of a value that can index a table; `0.0` and `-0.0` are one key.
* `numberText` writes a number as the language prints it: a value with no fraction that fits
  a signed 64-bit integer as that integer, any other value in the shortest general form.
-/

namespace LuaDebugger.Lua

/-- A value of the script language. -/
inductive Value where
  | nil
  | bool (b : Bool)
  | number (x : Float)
  | str (s : ByteArray)
  /-- A table of the heap. -/
  | table (id : Nat)
  /-- A function of the heap, written in the script or built in. -/
  | fn (id : Nat)
  /-- A coroutine of the heap. -/
  | thread (id : Nat)
  /-- A bare object of the heap. -/
  | userdata (id : Nat)
  deriving Inhabited

namespace Value

/-- The text `s` as a string value. -/
def ofString (s : String) : Value := .str s.toUTF8

/-- The name of the type of a value. -/
def typeName : Value → String
  | .nil => "nil"
  | .bool _ => "boolean"
  | .number _ => "number"
  | .str _ => "string"
  | .table _ => "table"
  | .fn _ => "function"
  | .thread _ => "thread"
  | .userdata _ => "userdata"

/-- Whether a value counts as true: all but `nil` and `false` do. -/
def truthy : Value → Bool
  | .nil => false
  | .bool b => b
  | _ => true

/-- Equality without metamethods. -/
def rawEq : Value → Value → Bool
  | .nil, .nil => true
  | .bool a, .bool b => a == b
  | .number a, .number b => a == b
  | .str a, .str b => a == b
  | .table a, .table b => a == b
  | .fn a, .fn b => a == b
  | .thread a, .thread b => a == b
  | .userdata a, .userdata b => a == b
  | _, _ => false

/-- Whether the value is `nil`. -/
def isNil : Value → Bool
  | .nil => true
  | _ => false

end Value

/-- The hashable form of a value that indexes a table. -/
inductive Key where
  /-- A number, by its bits; zero is always the positive zero. -/
  | num (bits : UInt64)
  | bool (b : Bool)
  | str (s : ByteArray)
  | table (id : Nat)
  | fn (id : Nat)
  | thread (id : Nat)
  | userdata (id : Nat)
  deriving DecidableEq, Hashable, Inhabited

namespace Key

/-- The key of a number: both zeros are one key. -/
def ofNumber (x : Float) : Key := if x == 0 then .num (0.0 : Float).toBits else .num x.toBits

/-- The key of a value; `nil` has none. -/
def ofValue : Value → Option Key
  | .nil => none
  | .bool b => some (.bool b)
  | .number x => some (ofNumber x)
  | .str s => some (.str s)
  | .table i => some (.table i)
  | .fn i => some (.fn i)
  | .thread i => some (.thread i)
  | .userdata i => some (.userdata i)

/-- The value a key stands for. -/
def toValue : Key → Value
  | .num b => .number (Float.ofBits b)
  | .bool b => .bool b
  | .str s => .str s
  | .table i => .table i
  | .fn i => .fn i
  | .thread i => .thread i
  | .userdata i => .userdata i

/-- Whether the key is a string. -/
def isStr : Key → Bool
  | .str _ => true
  | _ => false

end Key

/-! ### Numbers as integers -/

/-- The signed 64-bit integer a binary64 value converts to by truncation, with the value
`-2^63` for every value outside the range and for NaN. -/
def truncInt64 (x : Float) : Int :=
  let bits := x.toBits
  let e := ((bits >>> 52) &&& 0x7FF).toNat
  if e = 0x7FF then -2 ^ 63
  else
    let b := Decimal.Binary.ofBits bits
    let mag : Nat := if b.q ≥ 0 then b.m * 2 ^ b.q.toNat else b.m / 2 ^ (-b.q).toNat
    let n : Int := if bits >>> 63 = 1 then -(mag : Int) else mag
    if n < -2 ^ 63 ∨ n ≥ 2 ^ 63 then -2 ^ 63 else n

/-- The signed 64-bit integer that `n` wraps around to, as machine arithmetic on integers
wraps. -/
def wrapInt64 (n : Int) : Int := (n + 2 ^ 63) % 2 ^ 64 - 2 ^ 63

/-- The machine integer a binary64 value converts to: `truncInt64`. -/
def truncInt (x : Float) : Int := truncInt64 x

/-- Whether a number is an integer that survives the trip through a signed 64-bit integer. -/
def isIntegral (x : Float) : Bool :=
  match Decimal.integralValue? x with
  | some n => decide (-2 ^ 63 ≤ n ∧ n < 2 ^ 63)
  | none => false

/-- The binary64 value nearest to an integer. -/
def floatOfInt (n : Int) : Float :=
  if n < 0 then -(Float.ofNat n.natAbs) else Float.ofNat n.toNat

/-- The text of a number: an integer in the 64-bit range as that integer, any other value in
the shortest general form (`1e+100`, `0.5`, `NaN`, `+Inf`). -/
def numberText (x : Float) : String :=
  match Decimal.integralValue? x with
  | some n => if -2 ^ 63 ≤ n ∧ n < 2 ^ 63 then toString n
    else Decimal.FloatFormat.general.render x
  | none => Decimal.FloatFormat.general.render x

/-! ### Reading numbers -/

/-- Drops the blanks ` `, tab and newline from both ends of a byte string. -/
def trimNumberBlanks (b : ByteArray) : List UInt8 :=
  let isBlank (c : UInt8) : Bool := c == 32 || c == 9 || c == 10
  ((b.toList.dropWhile isBlank).reverse.dropWhile isBlank).reverse

/-- The text of a list of bytes, each byte read as the character with that code. -/
def latinText (bs : List UInt8) : String := String.ofList (bs.map fun b ↦ Char.ofNat b.toNat)

/-- Reads a number the way arithmetic converts a string: after trimming blanks, as a 64-bit
integer with an optional base prefix, else as a binary64 text. -/
def parseNumber? (b : ByteArray) : Option Float :=
  let s := latinText (trimNumberBlanks b)
  match Decimal.readInt 0 s with
  | .ok n => some (floatOfInt n)
  | .error _ =>
    match Decimal.readFloat s with
    | .ok x => some x
    | .error _ => none

/-- The number a value converts to in arithmetic: itself, or a string that reads as one. -/
def Value.toNumber? : Value → Option Float
  | .number x => some x
  | .str s => parseNumber? s
  | _ => none

end LuaDebugger.Lua
