import LuaDebugger.Lua.Native
import LuaDebugger.Lua.Arith
/-!
# The math library

The functions of `math` on binary64 values. Arguments go through `checkNumber`, so a string
that reads as a number is taken. `fmod` is the exact truncated remainder, `mod` the
remainder of `%`, `pow` the operator `^`; `frexp` and `modf` split a value into a mantissa
and an exponent, or an integral and a fractional part, keeping the sign on both parts.
`random` draws from a generator kept in the machine.
-/

namespace LuaDebugger.Lua

namespace Maths

open NativeM

/-- A function of one number. -/
def unary (f : Float → Float) (args : Array Value) : NativeM Outcome := do
  let x ← checkNumber args 1
  ret1 (.number (f x))

/-- A function of two numbers. -/
def binary (f : Float → Float → Float) (args : Array Value) : NativeM Outcome := do
  let x ← checkNumber args 1
  let y ← checkNumber args 2
  ret1 (.number (f x y))

/-- The integral and fractional parts of a value, both with its sign. -/
def modf (x : Float) : Float × Float :=
  if x.isNaN then (x, x)
  else if isInf x then (x, 0.0 / 0.0)
  else if x == 0 then (x, x)
  else
    let a := x.abs
    let (i, f) := splitFraction a
    if x < 0 then (-i, -f) else (i, f)

/-- A mantissa in `[1/2, 1)` and a power of two; zero, infinities and NaN keep exponent 0. -/
def frexp (x : Float) : Float × Int :=
  if x == 0 ∨ x.isNaN ∨ isInf x then (x, 0) else x.frExp

/-- `math.frexp(x)`. -/
def mathFrexp (args : Array Value) : NativeM Outcome := do
  let (m, e) := frexp (← checkNumber args 1)
  ret #[.number m, .number (floatOfInt e)]

/-- `math.modf(x)`. -/
def mathModf (args : Array Value) : NativeM Outcome := do
  let (i, f) := modf (← checkNumber args 1)
  ret #[.number i, .number f]

/-- `math.ldexp(m, e)`. -/
def ldexp (args : Array Value) : NativeM Outcome := do
  let m ← checkNumber args 1
  let e ← checkInt args 2
  ret1 (.number (m.scaleB e))

/-- `math.max` or, with `pick` the other way, `math.min`. -/
def extreme (pick : Float → Float → Bool) (args : Array Value) : NativeM Outcome := do
  if args.size = 0 then raise "wrong number of arguments"
  let mut best ← checkNumber args 1
  for k in [2:args.size + 1] do
    let v ← checkNumber args k
    if pick v best then best := v
  ret1 (.number best)

/-- The next state of the generator and a value in `[0, 1)`. -/
def draw (seed : UInt64) : UInt64 × Float :=
  let s := seed ^^^ (seed <<< 13)
  let s := s ^^^ (s >>> 7)
  let s := s ^^^ (s <<< 17)
  (s, Float.ofNat (s >>> 11).toNat / 9007199254740992.0)

/-- `math.random([m [, n]])`. -/
def random (args : Array Value) : NativeM Outcome := do
  let m ← get
  let (seed, r) := draw m.seed
  set { m with seed := seed }
  match args.size with
  | 0 => ret1 (.number r)
  | 1 =>
    let n ← checkInt args 1
    if n ≤ 0 then raiseRaw "invalid argument to Intn"
    else ret1 (.number (floatOfInt ((r * floatOfInt n).floor.toUInt64.toNat + 1)))
  | _ =>
    let lo ← checkInt args 1
    let hi ← checkInt args 2
    if wrapInt64 (hi + 1 - lo) ≤ 0 then raiseRaw "invalid argument to Intn"
    else ret1 (.number (floatOfInt ((r * floatOfInt (hi + 1 - lo)).floor.toUInt64.toNat + lo)))

/-- `math.randomseed(n)`. -/
def randomseed (args : Array Value) : NativeM Outcome := do
  let n ← checkNumber args 1
  modify fun m ↦ { m with seed := (truncInt n).toNat.toUInt64 ||| 1 }
  ret0

/-- Degrees to radians and back. -/
def pi : Float := 3.141592653589793

end Maths

end LuaDebugger.Lua
