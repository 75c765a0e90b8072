import LuaDebugger.Elementary.Trig
/-!
# Inverse trigonometric functions

The classic Cephes routines. `atan` reduces a positive argument to `[0, 0.66]`, through
`π/2 - atan(1/x)` above `tan(3π/8)` and `π/4 + atan((x-1)/(x+1))` between, and there
evaluates a rational function; the lost low bits of `π/2` are added back. `asin` goes
through `atan` of `x/√(1-x²)`, or of its reciprocal above 0.7; `acos x` is `π/2 - asin x`;
`atan2` picks the quadrant of `atan (y/x)` after the cases of zeros and infinities.
-/

namespace LuaDebugger

namespace Elementary

/-- The coefficients of the numerator of the arctangent series. -/
def atanNum : Float × List Float :=
  (Float.ofBits 0xBFEC007FA1F72594,
    [Float.ofBits 0xC03028545B6B807A, Float.ofBits 0xC052C08C36880273,
      Float.ofBits 0xC05EB8BF2D05BA25, Float.ofBits 0xC0503669FD28EC8E])

/-- The coefficients of the denominator of the arctangent series, after its leading one. -/
def atanDen : List Float :=
  [Float.ofBits 0x4038DBC45B14603C, Float.ofBits 0x4064A0DD43B8FA25,
    Float.ofBits 0x407B0E18D2E2BE3B, Float.ofBits 0x407E563F13B049EA,
    Float.ofBits 0x4068519EFBBD62EC]

/-- The arctangent of `x` in `[0, 0.66]`. -/
def atanSeries (x : Float) : Float :=
  let z := x * x
  let z := z * horner atanNum.1 atanNum.2 z / horner 1.0 atanDen z
  x * z + x

/-- The low bits of `π/2` that its binary64 value lacks. -/
def halfPiRest : Float := Float.ofBits 0x3C91A62633145C07

/-- The arctangent of a positive `x`. -/
def atanPositive (x : Float) : Float :=
  if x ≤ 0.66 then atanSeries x
  else if x > Float.ofBits 0x4003504F333F9DE6 then pi / 2.0 - atanSeries (1.0 / x) + halfPiRest
  else pi / 4.0 + atanSeries ((x - 1.0) / (x + 1.0)) + 0.5 * halfPiRest

/-- The arctangent. -/
def atan (x : Float) : Float :=
  if x == 0 then x else if x > 0 then atanPositive x else -atanPositive (-x)

/-- The arcsine. -/
def asin (x : Float) : Float :=
  if x == 0 then x
  else
    let a := x.abs
    if a > 1 then 0.0 / 0.0
    else
      let t := (1.0 - a * a).sqrt
      let t := if a > 0.7 then pi / 2.0 - atanPositive (t / a) else atanPositive (a / t)
      if x < 0 then -t else t

/-- The arccosine. -/
def acos (x : Float) : Float := pi / 2.0 - asin x

/-- `v` with the sign of `s`. -/
def copySign (v s : Float) : Float :=
  Float.ofBits ((v.toBits &&& 0x7FFFFFFFFFFFFFFF) ||| (s.toBits &&& 0x8000000000000000))

/-- The angle of the point `(x, y)`. -/
def atan2 (y x : Float) : Float :=
  let xNeg := x.toBits >>> 63 = 1
  if y.isNaN ∨ x.isNaN then 0.0 / 0.0
  else if y == 0 then (if x ≥ 0 ∧ !xNeg then copySign 0 y else copySign pi y)
  else if x == 0 then copySign (pi / 2.0) y
  else if !isFinite x then
    if x > 0 then (if !isFinite y then copySign (pi / 4.0) y else copySign 0 y)
    else if !isFinite y then copySign (Float.ofBits 0x4002D97C7F3321D2) y
    else copySign pi y
  else if !isFinite y then copySign (pi / 2.0) y
  else
    let q := atan (y / x)
    if x < 0 then (if q ≤ 0 then q + pi else q - pi) else q

end Elementary

end LuaDebugger
