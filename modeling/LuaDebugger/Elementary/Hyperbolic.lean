import LuaDebugger.Elementary.ExpLog
/-!
# Hyperbolic functions

`sinh` is a rational function of `x²` up to 0.5 (Hart and Cheney's #2029), `(eˣ - e⁻ˣ)/2`
up to 21 and `eˣ/2` beyond; `cosh` is `(eˣ + e⁻ˣ)/2` up to 21 and `eˣ/2` beyond; `tanh` is a
rational function of `x²` below 0.625, `1 - 2/(e²ˣ + 1)` up to `log(2¹²⁷)/2` and `±1` past
it. The exponentials are those of `Elementary.exp`.
-/

namespace LuaDebugger

namespace Elementary

/-- The coefficients of the numerator of `sinh` near zero. -/
def sinhNum : Float × List Float :=
  (Float.ofBits 0xC03A4E3DE8540779,
    [Float.ofBits 0xC0A69C6C36DA2DFB, Float.ofBits 0xC0F5F38B8605D22D,
      Float.ofBits 0xC1233FDEBA64BB4F])

/-- The coefficients of the denominator of `sinh` near zero, after its leading one. -/
def sinhDen : List Float :=
  [Float.ofBits 0xC065B5B9FCD003BB, Float.ofBits 0x40CDB7963EAE91E1,
    Float.ofBits 0xC1233FDEBA64BB4F]

/-- The hyperbolic sine. Only a negative argument is turned around, so a negative zero
goes through the series as it is and comes out as a negative zero, while a positive zero
comes out positive. -/
def sinh (x : Float) : Float :=
  let a := if x < 0 then -x else x
  let t :=
    if a > 21 then exp a * 0.5
    else if a > 0.5 then
      let ex := exp a
      (ex - 1.0 / ex) * 0.5
    else
      let sq := a * a
      horner sinhNum.1 sinhNum.2 sq * a / horner 1.0 sinhDen sq
  if x < 0 then -t else t

/-- The hyperbolic cosine. -/
def cosh (x : Float) : Float :=
  let a := x.abs
  if a > 21 then exp a * 0.5
  else
    let ex := exp a
    (ex + 1.0 / ex) * 0.5

/-- The coefficients of the numerator of `tanh` near zero. -/
def tanhNum : Float × List Float :=
  (Float.ofBits 0xBFEEDC5BAAFD6F4B, [Float.ofBits 0xC058D26A0E26682D, Float.ofBits 0xC0993AC030580563])

/-- The coefficients of the denominator of `tanh` near zero, after its leading one. -/
def tanhDen : List Float :=
  [Float.ofBits 0x405C33F28A581B86, Float.ofBits 0x40A176FA0E5535FA, Float.ofBits 0x40B2EC102442040C]

/-- The hyperbolic tangent. -/
def tanh (x : Float) : Float :=
  let z := x.abs
  if z > 0.5 * Float.ofBits 0x405601E678FC457B then (if x < 0 then -1.0 else 1.0)
  else if z ≥ 0.625 then
    let s := exp (2.0 * z)
    let z := 1.0 - 2.0 / (s + 1.0)
    if x < 0 then -z else z
  else if x == 0 then x
  else
    let s := x * x
    x + x * s * horner tanhNum.1 tanhNum.2 s / horner 1.0 tanhDen s

end Elementary

end LuaDebugger
