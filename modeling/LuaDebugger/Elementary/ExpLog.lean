import LuaDebugger.Elementary.Binary
/-!
# The exponential and the logarithm

Both are computed by a fixed sequence of binary64 operations, each rounded to nearest, so
that every result is determined down to its last bit: the steps below are the definition,
not an approximation of `eˣ` or `ln x` to within some error.

* `exp x`: `x = k·ln 2 + r` with `k` the integer nearest to `x·log₂ e` (ties to even), so
  that `|r| ≤ ln 2 / 2`, `r` reduced with `ln 2` in two parts by fused multiply-adds;
  `eʳ - 1` comes from a Taylor polynomial of degree eight at `r/16`, by Horner's rule in
  fused multiply-adds, squared back three times through `y ↦ y·(y + 2)`; the fourth
  squaring and the addition of one are a single fused multiply-add, `y·(y + 2) + 1`, and
  the result is that times `2ᵏ`. It is infinite past `709.78…`, and also from where `k`
  reaches `1024`, a little above `709.43`; a result under the normal range is scaled in
  two steps, and one below `2⁻¹⁰⁷⁴` is zero.
* `log x`: `x = 2ᵏ·f` with `f` in `[√2/2, √2)`, and `log f` from the series in
  `s = (f - 1)/(f + 1)` with the coefficients of the classic fdlibm routine. The exponent
  and the mantissa are read straight from the bits, so a subnormal `x` reads as a normal one
  of the least exponent.
* `log10 x` is `log x` times the binary64 value nearest to `1/ln 10`.
-/

namespace LuaDebugger

namespace Elementary

/-- `log₂ e`. -/
def log2e : Float := Float.ofBits 0x3FF71547652B82FE
/-- The leading bits of `ln 2`, for the reduction of `exp`. -/
def ln2Upper : Float := Float.ofBits 0x3FE62E42FEFA3000
/-- The rest of `ln 2`, for the reduction of `exp`. -/
def ln2Lower : Float := Float.ofBits 0x3D53DE6AF278ECE6
/-- The largest argument of `exp` with a finite result. -/
def expOverflow : Float := Float.ofBits 0x40862E42FEFA39EF

/-- The Taylor coefficients of `eʳ - 1`, from `1/8!` down to `1/1!`. -/
def expTaylor : Float × List Float :=
  (Float.ofBits 0x3EFA01A01A01A01A,
    [Float.ofBits 0x3F2A01A01A01A01A, Float.ofBits 0x3F56C16C16C16C17,
      Float.ofBits 0x3F81111111111111, Float.ofBits 0x3FA5555555555555,
      Float.ofBits 0x3FC5555555555555, 0.5, 1.0])

/-- The integer nearest to a binary64 value, ties to even, as a 32-bit integer; the least
one when it does not fit. It is found from the magnitude, whose distance to its floor is
computed exactly: below one the floor is zero, and from one on the two are within a factor
of two of each other. -/
def roundInt32 (t : Float) : Int :=
  if t.isNaN ∨ t ≥ 2147483647.5 ∨ t < -2147483648.5 then -2147483648
  else
    let a := t.abs
    let f := a.floor
    let below := f.toUInt64.toNat
    let d := a - f
    let n := if d > 0.5 then below + 1
      else if d < 0.5 then below
      else if below % 2 = 0 then below else below + 1
    if t < 0 then -(n : Int) else n

/-- `2^e` for an exponent of the normal range, `-1022 ≤ e ≤ 1023`. -/
def twoPow (e : Int) : Float := Float.ofBits ((e + 1023).toNat.toUInt64 <<< 52)

/-- The exponential function. -/
def exp (x : Float) : Float :=
  if x.isNaN then x
  else if !isFinite x then (if x > 0 then x else 0)
  else if x > expOverflow then 1.0 / 0.0
  else
    let k := roundInt32 (log2e * x)
    let fk := Float.ofInt k
    let r := fusedMulAdd (-ln2Upper) fk x
    let r := fusedMulAdd (-ln2Lower) fk r
    let r := r * 0.0625
    let y := fusedHorner expTaylor.1 expTaylor.2 r * r
    let y := (y + 2.0) * y
    let y := (y + 2.0) * y
    let y := (y + 2.0) * y
    let y := fusedMulAdd (y + 2.0) y 1.0
    let biased := k + 1023
    if biased ≥ 2047 then 1.0 / 0.0
    else if biased > 0 then twoPow k * y
    else if biased < -52 then 0
    else y * twoPow (k + 1022) * twoPow (-1022)

/-- The coefficients of the logarithm's series in `s²`. -/
def logOdd : Float × List Float :=
  (Float.ofBits 0x3FC2F112DF3E5244,
    [Float.ofBits 0x3FC7466496CB03DE, Float.ofBits 0x3FD2492494229359,
      Float.ofBits 0x3FE5555555555593])

/-- The coefficients of the logarithm's series in `s⁴`. -/
def logEven : Float × List Float :=
  (Float.ofBits 0x3FC39A09D078C69F,
    [Float.ofBits 0x3FCC71C51D8E78AF, Float.ofBits 0x3FD999999997FA04])

/-- The leading bits of `ln 2`, for the logarithm. -/
def ln2High : Float := Float.ofBits 0x3FE62E42FEE00000
/-- The rest of `ln 2`, for the logarithm. -/
def ln2Low : Float := Float.ofBits 0x3DEA39EF35793C76

/-- The natural logarithm. -/
def log (x : Float) : Float :=
  let b := x.toBits
  if b &&& 0x7FFFFFFFFFFFFFFF = 0 then -1.0 / 0.0
  else if b >>> 63 = 1 then 0.0 / 0.0
  else if b ≥ 0x7FF0000000000000 then x
  else
    let f1 := Float.ofBits ((b &&& 0x000FFFFFFFFFFFFF) ||| 0x3FE0000000000000)
    let k := Float.ofInt ((((b >>> 52) &&& 0x7FF).toNat : Int) - 0x3FE)
    let small := f1 ≤ Float.ofBits 0x3FE6A09E667F3BCD
    let k := if small then k - 1.0 else k
    let f := (if small then f1 * 2.0 else f1) - 1.0
    let s := f / (2.0 + f)
    let s2 := s * s
    let s4 := s2 * s2
    let t1 := s2 * horner logOdd.1 logOdd.2 s4
    let t2 := s4 * horner logEven.1 logEven.2 s4
    let r := t1 + t2
    let hfsq := 0.5 * f * f
    k * ln2High - ((hfsq - (s * (hfsq + r) + k * ln2Low)) - f)

/-- The binary64 value nearest to `1/ln 10`. -/
def invLn10 : Float := Float.ofBits 0x3FDBCB7B1526E50E

/-- The decimal logarithm. -/
def log10 (x : Float) : Float := log x * invLn10

end Elementary

end LuaDebugger
