import LuaDebugger.CoreInstances
/-!
# Shortest decimal digits of a binary64 value

A finite binary64 value stands for the interval of reals that round to it: from halfway to
its lower neighbour to halfway to its upper one, both ends included exactly when its
mantissa is even. The shortest decimal of the value is the decimal with the fewest
significant digits in that interval, and of two such the nearer to the value, an exact tie
going to the even one. `shortest` finds it by trying one digit, two digits and so on: on
each grid it tests the value's two neighbours, because when a point of the grid lies in the
interval so does one of them. All arithmetic is exact, over naturals.
-/

namespace LuaDebugger.Decimal

/-- A finite non-negative binary64 value `m * 2^q`. -/
structure Binary where
  /-- The mantissa, the hidden bit included. -/
  m : Nat
  /-- The binary exponent. -/
  q : Int
  /-- Whether the gap to the value below is half the gap to the value above. -/
  narrowBelow : Bool
  deriving Repr

/-- The magnitude of the finite value with the given bits; the sign bit is ignored. -/
def Binary.ofBits (b : UInt64) : Binary :=
  let e := ((b >>> 52) &&& 0x7FF).toNat
  let f := (b &&& 0xFFFFFFFFFFFFF).toNat
  if e = 0 then ⟨f, -1074, false⟩ else ⟨2 ^ 52 + f, (e : Int) - 1075, f = 0 ∧ e > 1⟩

/-- The decimal `digits * 10^exp`. -/
structure Dec where
  /-- The significant digits, as a natural. -/
  digits : Nat
  /-- The power of ten the digits are scaled by. -/
  exp : Int
  deriving Repr, DecidableEq, Inhabited

/-- Compares `a * 10^i` with `n * 2^j`, exactly. -/
def cmpScaled (a : Nat) (i : Int) (n : Nat) (j : Int) : Ordering :=
  compare (a * 10 ^ i.toNat * 2 ^ (-j).toNat) (n * 2 ^ j.toNat * 10 ^ (-i).toNat)

/-- Whether the decimal `d` lies among the reals that round to `x`. -/
def Binary.readsBack (x : Binary) (d : Dec) : Bool :=
  let lo := if x.narrowBelow then 4 * x.m - 1 else 4 * x.m - 2
  let hi := 4 * x.m + 2
  let incl := x.m % 2 = 0
  let cl := cmpScaled d.digits d.exp lo (x.q - 2)
  let ch := cmpScaled d.digits d.exp hi (x.q - 2)
  (cl == .gt || (incl && cl == .eq)) && (ch == .lt || (incl && ch == .eq))

/-- The number of decimal digits of a natural; zero has one. -/
def digitCount (n : Nat) : Nat := (Nat.toDigits 10 n).length

/-- The least `k` with `m * 2^q < 10^k`, for a positive value. -/
def Binary.scale (x : Binary) : Int :=
  if x.q ≥ 0 then digitCount (x.m * 2 ^ x.q.toNat)
  else
    -- `m / 2^(-q)` has an integer part; below one, count the zeros after the point
    let den := 2 ^ (-x.q).toNat
    if x.m ≥ den then digitCount (x.m / den)
    else
      -- the least `z` with `m * 10^z ≥ den`; then the scale is `1 - z`
      let z := (List.range 330).find? (fun z ↦ x.m * 10 ^ z ≥ den)
      1 - (z.getD 330 : Int)

/-- `⌊ m * 2^q / 10^e ⌋` and whether the division is exact. -/
def Binary.floorOnGrid (x : Binary) (e : Int) : Nat × Bool :=
  let num := x.m * 2 ^ x.q.toNat * 10 ^ (-e).toNat
  let den := 2 ^ (-x.q).toNat * 10 ^ e.toNat
  (num / den, num % den = 0)

/-- Compares the distances from the value to `a * 10^e` below it and `(a+1) * 10^e` above it:
`lt` when the lower one is nearer. -/
def Binary.compareNeighbours (x : Binary) (a : Nat) (e : Int) : Ordering :=
  -- twice the value against the sum of the two neighbours
  cmpScaled (2 * a + 1) e (2 * x.m) x.q |>.swap

/-- Removes trailing zeros of the digits into the exponent. -/
def Dec.normalize (d : Dec) : Dec :=
  let rec go (fuel : Nat) (digits : Nat) (exp : Int) : Dec :=
    match fuel with
    | 0 => ⟨digits, exp⟩
    | fuel + 1 =>
      if digits ≠ 0 ∧ digits % 10 = 0 then go fuel (digits / 10) (exp + 1) else ⟨digits, exp⟩
  go 400 d.digits d.exp

/-- The best decimal with `n` significant digits, if one lies in the interval. -/
def Binary.candidate (x : Binary) (k : Int) (n : Nat) : Option Dec :=
  let e := k - n
  let (a, exact) := x.floorOnGrid e
  if exact then some ⟨a, e⟩
  else
    let below : Dec := ⟨a, e⟩
    let above : Dec := ⟨a + 1, e⟩
    match x.readsBack below, x.readsBack above with
    | true, true =>
      match x.compareNeighbours a e with
      | .lt => some below
      | .gt => some above
      | .eq => some (if a % 2 = 0 then below else above)
    | true, false => some below
    | false, true => some above
    | false, false => none

/-- The exact decimal value of `m * 2^q`. -/
def Binary.exact (x : Binary) : Dec :=
  if x.q ≥ 0 then ⟨x.m * 2 ^ x.q.toNat, 0⟩
  else ⟨x.m * 5 ^ (-x.q).toNat, x.q⟩

/-- The shortest decimal of a positive value, trailing zeros moved into the exponent. -/
def Binary.shortest (x : Binary) : Dec :=
  let k := x.scale
  let found := (List.range 17).findSome? fun i ↦ x.candidate k (i + 1)
  (found.getD x.exact).normalize

/-- The exact integer a binary64 value equals, if it is finite and has no fraction. -/
def integralValue? (x : Float) : Option Int :=
  let bits := x.toBits
  let e := ((bits >>> 52) &&& 0x7FF).toNat
  if e = 0x7FF then none
  else
    let b := Binary.ofBits bits
    let mag : Option Nat :=
      if b.q ≥ 0 then some (b.m * 2 ^ b.q.toNat)
      else if b.m % 2 ^ (-b.q).toNat = 0 then some (b.m / 2 ^ (-b.q).toNat) else none
    mag.map fun n ↦ if bits >>> 63 = 1 then -(n : Int) else n

end LuaDebugger.Decimal
