import LuaDebugger.Lua.Code
import LuaDebugger.Elementary.ExpLog
/-!
# Arithmetic on numbers

The binary operators of the language on binary64 values.

* `fmod` is the exact remainder of a truncated division, with the sign of the dividend; it
  is computed on the integers the two values are multiples of, so no rounding happens.
* `floorMod` is the remainder of the `%` operator: `fmod` moved by the divisor when the two
  signs differ, so that the result takes the sign of the divisor.
* `power` raises to a power the way the operator `^` does: the integral part of the
  exponent by repeated squaring of a mantissa kept in `[1/2, 1)` beside a separate binary
  exponent, so that no intermediate value overflows, and a fractional part through `exp`
  and `log`.
-/

namespace LuaDebugger.Lua

/-- Whether a binary64 value is an infinity. -/
def isInf (x : Float) : Bool := x.toBits &&& 0x7FFFFFFFFFFFFFFF = 0x7FF0000000000000

/-- Whether a binary64 value is negative, `-0` included. -/
def signBit (x : Float) : Bool := x.toBits >>> 63 = 1

/-- The remainder of `x / y` truncated toward zero, exact: NaN when `y` is zero or `x` is not
finite, `x` itself when `y` is infinite. -/
def fmod (x y : Float) : Float :=
  if y == 0 ∨ isInf x ∨ x.isNaN ∨ y.isNaN then 0.0 / 0.0
  else if isInf y then x
  else
    let a := Decimal.Binary.ofBits x.toBits
    let b := Decimal.Binary.ofBits y.toBits
    let e := min a.q b.q
    let big := a.m * 2 ^ (a.q - e).toNat
    let unit := b.m * 2 ^ (b.q - e).toNat
    let r := (Float.ofNat (big % unit)).scaleB e
    if signBit x then -r else r

/-- The remainder of the `%` operator: the sign follows the divisor. -/
def floorMod (x y : Float) : Float :=
  let v := fmod x y
  if (y > 0 ∧ v < 0) ∨ (y < 0 ∧ v > 0) then v + y else v

/-- The integral and fractional parts of a non-negative finite value. -/
def splitFraction (y : Float) : Float × Float :=
  if y < 1 then (0, y) else let i := y.floor; (i, y - i)

/-- Whether a value is an odd integer below `2^53` in magnitude. -/
def isOddInteger (x : Float) : Bool :=
  if x.abs ≥ 9007199254740992.0 then false
  else
    let (i, f) := splitFraction x.abs
    f == 0 ∧ i.toUInt64 % 2 = 1

/-- Multiplies `a1 * 2^ae` by `x1 * 2^xe` raised to `i`, squaring `x1` and halving `i` at each
step; a binary exponent beyond `±4096` ends the loop, since the result then overflows or
vanishes whatever follows. -/
def powerLoop : Nat → Nat → Float → Int → Float → Int → Float × Int
  | 0, _, _, _, a1, ae => (a1, ae)
  | fuel + 1, i, x1, xe, a1, ae =>
    if i = 0 then (a1, ae)
    else if xe < -4096 ∨ 4096 < xe then (a1, ae + xe)
    else
      let (a1, ae) := if i % 2 = 1 then (a1 * x1, ae + xe) else (a1, ae)
      let x1 := x1 * x1
      let xe := 2 * xe
      let (x1, xe) := if x1 < 0.5 then (x1 + x1, xe - 1) else (x1, xe)
      powerLoop fuel (i / 2) x1 xe a1 ae

/-- `x` raised to `y`. -/
def power (x y : Float) : Float :=
  let inf : Float := 1.0 / 0.0
  if y == 0 ∨ x == 1 then 1
  else if y == 1 then x
  else if x.isNaN ∨ y.isNaN then 0.0 / 0.0
  else if x == 0 then
    if y < 0 then (if signBit x ∧ isOddInteger y then -inf else inf)
    else (if signBit x ∧ isOddInteger y then x else 0)
  else if isInf y then
    if x == -1 then 1
    else if (x.abs < 1) == (y > 0) then 0
    else inf
  else if isInf x then
    if x < 0 then
      -- the reciprocal of `x` is `-0`
      if y < 0 then (if isOddInteger y then -0.0 else 0)
      else (if isOddInteger y then -inf else inf)
    else if y < 0 then 0 else inf
  else if y == 0.5 then x.sqrt
  else if y == -0.5 then 1 / x.sqrt
  else
    let (yi, yf) := splitFraction y.abs
    if yf != 0 ∧ x < 0 then 0.0 / 0.0
    else if yi ≥ 9223372036854775808.0 then
      if x == -1 then 1
      else if (x.abs < 1) == (y > 0) then 0
      else inf
    else
      let (yi, yf) := if yf > 0.5 then (yi + 1, yf - 1) else (yi, yf)
      let a1 : Float := if yf != 0 then Elementary.exp (yf * Elementary.log x) else 1
      let (x1, xe) := x.frExp
      let (a1, ae) := powerLoop 64 yi.toUInt64.toNat x1 xe a1 0
      let (a1, ae) := if y < 0 then ((if a1 != 0 then 1 / a1 else a1), -ae) else (a1, ae)
      a1.scaleB ae

namespace ArithOp

/-- The operator on two numbers. -/
def apply : ArithOp → Float → Float → Float
  | .add, a, b => a + b
  | .sub, a, b => a - b
  | .mul, a, b => a * b
  | .div, a, b => a / b
  | .mod, a, b => floorMod a b
  | .pow, a, b => power a b

/-- The metamethod of the operator. -/
def event (op : ArithOp) : String := "__" ++ op.name

end ArithOp

/-- Whether a byte string sorts before another: bytewise, a prefix first. -/
def bytesLt (a b : ByteArray) : Bool := decide (a.toList < b.toList)

/-- Whether a byte string sorts before another or equals it. -/
def bytesLe (a b : ByteArray) : Bool := decide (a.toList ≤ b.toList)

end LuaDebugger.Lua
