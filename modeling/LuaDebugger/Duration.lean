import LuaDebugger.CoreInstances
/-!
# Reading spans of time

A span of time is written as a sequence of decimal numbers, each with an optional fraction
and a unit, as in `300ms`, `-1.5h` or `2h45m`, with an optional sign in front. The units are
`ns`, `us` (also `µs` and `μs`), `ms`, `s`, `m` and `h`. A lone `0` is zero. `parse?` gives
the span in nanoseconds.

The whole part of each number is exact; the fraction is scaled to the unit in binary64
arithmetic and truncated, which keeps a fraction of an hour accurate to the nanosecond. A
span whose size passes `2^63` nanoseconds, or `2^63 - 1` for a positive one, is refused, as
is any text of another form.
-/

namespace LuaDebugger.Duration

/-- The bound on the size of a span, in nanoseconds. -/
def bound : Nat := 2 ^ 63

/-- The nanoseconds in a unit, for the units there are. -/
def unitNanos : String → Option Nat
  | "ns" => some 1
  | "us" | "µs" | "μs" => some 1000
  | "ms" => some 1000000
  | "s" => some 1000000000
  | "m" => some 60000000000
  | "h" => some 3600000000000
  | _ => none

/-- Whether a character can start a number: a digit or a point. -/
def numeric (c : Char) : Bool := c.isDigit || c = '.'

/-- The leading digits as a number and the rest, or none when the number passes the bound. -/
def leadingInt : List Char → Nat → Option (Nat × List Char)
  | [], x => some (x, [])
  | c :: rest, x =>
    if c.isDigit then
      if x > bound / 10 then none
      else
        let y := x * 10 + (c.toNat - 48)
        if y > bound then none else leadingInt rest y
    else some (x, c :: rest)

/-- The leading digits of a fraction: the number they make while it stays below the bound,
how many digits it took, and the rest; digits past the bound are read and dropped. -/
def leadingFraction : List Char → Nat → Nat → Bool → Nat × Nat × List Char
  | [], x, k, _ => (x, k, [])
  | c :: rest, x, k, full =>
    if c.isDigit then
      if full then leadingFraction rest x k true
      else if x > (bound - 1) / 10 then leadingFraction rest x k true
      else
        let y := x * 10 + (c.toNat - 48)
        if y > bound then leadingFraction rest x k true
        else leadingFraction rest y (k + 1) false
    else (x, k, c :: rest)

/-- The nanoseconds of a fraction `f / 10^k` of a unit, truncated. -/
def fractionNanos (f k unit : Nat) : Nat :=
  (Float.ofNat f * (Float.ofNat unit / Float.ofNat (10 ^ k))).toUInt64.toNat

/-- Reads the numbers with units of a span and adds them to `d`; `fuel` bounds the number of
them. -/
def segments : Nat → List Char → Nat → Option Nat
  | _, [], d => some d
  | 0, _ :: _, _ => none
  | fuel + 1, c :: cs, d => do
    if !numeric c then none
    let (v, rest) ← leadingInt (c :: cs) 0
    let pre := rest.length != (c :: cs).length
    let (f, k, rest, post) := match rest with
      | '.' :: more =>
        let (f, k, after) := leadingFraction more 0 0 false
        (f, k, after, after.length != more.length)
      | _ => (0, 0, rest, false)
    if !pre && !post then none
    let unit := rest.takeWhile fun c ↦ !numeric c
    if unit.isEmpty then none
    let n ← unitNanos (String.ofList unit)
    if v > bound / n then none
    let v := v * n + (if f > 0 then fractionNanos f k n else 0)
    if v > bound then none
    let d := d + v
    if d > bound then none
    segments fuel (rest.drop unit.length) d

/-- The span of time a text denotes, in nanoseconds. -/
def parse? (s : String) : Option Int :=
  let (neg, cs) := match s.toList with
    | '-' :: r => (true, r)
    | '+' :: r => (false, r)
    | cs => (false, cs)
  if cs = ['0'] then some 0
  else if cs.isEmpty then none
  else
    match segments cs.length cs 0 with
    | none => none
    | some d => if neg then some (-(d : Int)) else if d > bound - 1 then none else some d

end LuaDebugger.Duration
