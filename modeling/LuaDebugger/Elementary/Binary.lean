import LuaDebugger.CoreInstances
/-!
# Binary64 values as exact dyadic numbers

A finite binary64 value is `±m * 2^q` with a natural mantissa `m`. This module reads values
that way, rounds an exact dyadic number back to the nearest binary64 value (ties to even,
through the subnormal range, to infinity past the largest finite value), and with the two
computes the fused multiply-add `x * y + z` with a single rounding, which the exponential
function needs in its argument reduction.

It also holds `horner`, the evaluation of a polynomial by Horner's rule in binary64
arithmetic, in the order of operations that the elementary functions rely on.
-/

namespace LuaDebugger

namespace Elementary

/-- A finite binary64 value as a sign, a mantissa and the exponent of its last bit. -/
structure Dyadic where
  neg : Bool
  m : Nat
  q : Int

/-- The exact value of a finite binary64 value. -/
def Dyadic.ofFloat (x : Float) : Dyadic :=
  let b := x.toBits
  let e := ((b >>> 52) &&& 0x7FF).toNat
  let f := (b &&& 0xFFFFFFFFFFFFF).toNat
  let neg := b >>> 63 = 1
  if e = 0 then ⟨neg, f, -1074⟩ else ⟨neg, f + 2 ^ 52, (e : Int) - 1075⟩

/-- Whether a binary64 value is finite. -/
def isFinite (x : Float) : Bool := (x.toBits >>> 52) &&& 0x7FF ≠ 0x7FF

/-- The binary64 value nearest to `(-1)^neg * n * 2^e`, ties to even. -/
def roundDyadic (neg : Bool) (n : Nat) (e : Int) : Float :=
  let sign : UInt64 := if neg then 0x8000000000000000 else 0
  if n = 0 then Float.ofBits sign
  else
    -- the exponent of the last bit kept: 53 bits, or fewer in the subnormal range
    let q : Int := max (((Nat.log2 n : Nat) : Int) + e - 52) (-1074)
    let (m, q) : Nat × Int :=
      if e ≥ q then (n * 2 ^ (e - q).toNat, q)
      else
        let d := (q - e).toNat
        let kept := n / 2 ^ d
        let rest := n % 2 ^ d
        let half := 2 ^ (d - 1)
        let up := rest > half ∨ (rest = half ∧ kept % 2 = 1)
        let m := if up then kept + 1 else kept
        if m = 2 ^ 53 then (2 ^ 52, q + 1) else (m, q)
    if q > 971 then Float.ofBits (sign ||| 0x7FF0000000000000)
    else if m < 2 ^ 52 then Float.ofBits (sign ||| m.toUInt64)
    else Float.ofBits (sign ||| ((q + 1075).toNat.toUInt64 <<< 52) ||| (m - 2 ^ 52).toUInt64)

/-- `x * y + z` rounded once. With a value that is not finite it is the plain expression. -/
def fusedMulAdd (x y z : Float) : Float :=
  if !(isFinite x && isFinite y && isFinite z) then x * y + z
  else
    let a := Dyadic.ofFloat x
    let b := Dyadic.ofFloat y
    let c := Dyadic.ofFloat z
    let pNeg := a.neg != b.neg
    let pm := a.m * b.m
    let pq := a.q + b.q
    let q := min pq c.q
    let p : Int := (if pNeg then -1 else 1) * ((pm * 2 ^ (pq - q).toNat : Nat) : Int)
    let s : Int := (if c.neg then -1 else 1) * ((c.m * 2 ^ (c.q - q).toNat : Nat) : Int)
    let total := p + s
    if total = 0 then
      -- an exact zero is negative only when both parts are negative zeros or negative
      if pm = 0 ∧ c.m = 0 then roundDyadic (pNeg && c.neg) 0 0 else roundDyadic false 0 0
    else roundDyadic (total < 0) total.natAbs q

/-- The polynomial with coefficients `c₀ :: cs`, the leading one first, at `x`, by Horner's
rule: `(((c₀ * x + c₁) * x + c₂) …)`. -/
def horner (c₀ : Float) (cs : List Float) (x : Float) : Float :=
  cs.foldl (fun acc c ↦ acc * x + c) c₀

/-- Horner's rule with each step `acc * x + c` a fused multiply-add, rounded once. -/
def fusedHorner (c₀ : Float) (cs : List Float) (x : Float) : Float :=
  cs.foldl (fun acc c ↦ fusedMulAdd acc x c) c₀

end Elementary

end LuaDebugger
