import LuaDebugger.Elementary.Binary
/-!
# Sine, cosine and tangent

The classic Cephes routines. An argument is reduced to an octant `j` and a remainder `z` of
`x / (π/4)`, with the octant made even so that `z` lies in `[-π/4, π/4]`; the sine and the
cosine of `z` come from polynomials of degree thirteen and fourteen, the tangent from a
rational function, and the octant picks the function and the sign.

Below `2²⁹` the reduction subtracts `j·π/4` with `π/4` in three parts; above it, where those
products would lose bits, it multiplies the mantissa by the bits of `4/π` (Payne–Hanek),
which gives the octant and the remainder exactly.
-/

namespace LuaDebugger

namespace Elementary

/-- `π`. -/
def pi : Float := Float.ofBits 0x400921FB54442D18
/-- `4/π`. -/
def fourOverPi : Float := Float.ofBits 0x3FF45F306DC9C883
/-- `π/4` in three parts, whose products with an octant below `2³⁰` are exact. -/
def pi4Parts : Float × Float × Float :=
  (Float.ofBits 0x3FE921FB40000000, Float.ofBits 0x3E64442D00000000,
    Float.ofBits 0x3CE8469898CC5170)

/-- The bits of `4/π`, 64 to a word: `4/π = Σ wᵢ·2^(-64·i)`. -/
def fourOverPiBits : Array Nat :=
  #[0x0000000000000001, 0x45F306DC9C882A53, 0xF84EAFA3EA69BB81, 0xB6C52B3278872083,
    0xFCA2C757BD778AC3, 0x6E48DC74849BA5C0, 0x0C925DD413A32439, 0xFC3BD63962534E7D,
    0xD1046BEA5D768909, 0xD338E04D68BEFC82, 0x7323AC7306A673E9, 0x3908BF177BF25076,
    0x3FF12FFFBC0B301F, 0xDE5E2316B414DA3E, 0xDA6CFD9E4F96136E, 0x9E8C7ECD3CBFD45A,
    0xEA4F758FD7CBE2F6, 0x7A0E73EF14A525D4, 0xD7F6BF623F1ABA10, 0xAC06608DF8F6D757]

/-- The largest argument reduced with `π/4` in three parts. -/
def reduceThreshold : Float := 536870912.0

/-- The reduction of a finite `x ≥ 2²⁹` by `π/4` (Payne–Hanek): the octant modulo 8, made
even, and the remainder times `π/4`. The mantissa is multiplied by the 192 bits of `4/π`
that reach the binary point, keeping 128 bits of the product. -/
def reduceLarge (x : Float) : Nat × Float :=
  let w64 : Nat := 2 ^ 64
  let b := x.toBits
  let e : Int := (((b >>> 52) &&& 0x7FF).toNat : Int) - 1075
  let ix : Nat := (b &&& 0xFFFFFFFFFFFFF).toNat + 2 ^ 52
  let digit := (e + 61).toNat / 64
  let shift := (e + 61).toNat % 64
  let word (i : Nat) : Nat := fourOverPiBits.getD i 0
  let part (i : Nat) : Nat := (word i * 2 ^ shift + word (i + 1) / 2 ^ (64 - shift)) % w64
  let z0 := part digit
  let z1 := part (digit + 1)
  let z2 := part (digit + 2)
  let z2hi := z2 * ix / w64
  let z1hi := z1 * ix / w64
  let z1lo := z1 * ix % w64
  let z0lo := z0 * ix % w64
  let lo := (z1lo + z2hi) % w64
  let carry := (z1lo + z2hi) / w64
  let hi := (z0lo + z1hi + carry) % w64
  let j := hi / 2 ^ 61
  let hi := (hi * 8 + lo / 2 ^ 61) % w64
  let lz := 64 - (Nat.log2 hi + 1)
  let exp := 1023 - (lz + 1)
  let hi := (hi * 2 ^ (lz + 1) + lo / 2 ^ (64 - (lz + 1))) % w64
  let hi := hi / 2 ^ 12
  let z := Float.ofBits (hi.toUInt64 ||| (exp.toUInt64 <<< 52))
  let (j, z) := if j % 2 = 1 then ((j + 1) % 8, z - 1.0) else (j, z)
  (j, z * (pi / 4.0))

/-- The reduction of a finite `x ≥ 0` by `π/4`: the octant, even, and the remainder. Below
`2²⁹` the octant is not taken modulo 8. -/
def reduce (x : Float) : Nat × Float :=
  if x ≥ reduceThreshold then reduceLarge x
  else
    let j := (x * fourOverPi).toUInt64.toNat
    let y := Float.ofNat j
    let (j, y) := if j % 2 = 1 then (j + 1, y + 1.0) else (j, y)
    let (a, b, c) := pi4Parts
    (j, ((x - y * a) - y * b) - y * c)

/-- The coefficients of the sine polynomial. -/
def sinCoeffs : Float × List Float :=
  (Float.ofBits 0x3DE5D8FD1FD19CCD,
    [Float.ofBits 0xBE5AE5E5A9291F5D, Float.ofBits 0x3EC71DE3567D48A1,
      Float.ofBits 0xBF2A01A019BFDF03, Float.ofBits 0x3F8111111110F7D0,
      Float.ofBits 0xBFC5555555555548])

/-- The coefficients of the cosine polynomial. -/
def cosCoeffs : Float × List Float :=
  (Float.ofBits 0xBDA8FA49A0861A9B,
    [Float.ofBits 0x3E21EE9D7B4E3F05, Float.ofBits 0xBE927E4F7EAC4BC6,
      Float.ofBits 0x3EFA01A019C844F5, Float.ofBits 0xBF56C16C16C14F91,
      Float.ofBits 0x3FA555555555554B])

/-- The sine of a remainder `z`, with `zz = z²`. -/
def sinPoly (z zz : Float) : Float := z + z * zz * horner sinCoeffs.1 sinCoeffs.2 zz

/-- The cosine of a remainder whose square is `zz`. -/
def cosPoly (zz : Float) : Float := 1.0 - 0.5 * zz + zz * zz * horner cosCoeffs.1 cosCoeffs.2 zz

/-- The sine. -/
def sin (x : Float) : Float :=
  if x == 0 ∨ x.isNaN then x
  else if !isFinite x then 0.0 / 0.0
  else
    let (j, z) := reduce x.abs
    let j := j % 8
    let (flip, j) := if j > 3 then (true, j - 4) else (false, j)
    let zz := z * z
    let y := if j = 1 ∨ j = 2 then cosPoly zz else sinPoly z zz
    if (x < 0) != flip then -y else y

/-- The cosine. -/
def cos (x : Float) : Float :=
  if x.isNaN ∨ !isFinite x then 0.0 / 0.0
  else
    let (j, z) := reduce x.abs
    let j := j % 8
    let (flip, j) := if j > 3 then (true, j - 4) else (false, j)
    let flip := if j > 1 then !flip else flip
    let zz := z * z
    let y := if j = 1 ∨ j = 2 then sinPoly z zz else cosPoly zz
    if flip then -y else y

/-- The coefficients of the numerator of the tangent. -/
def tanNum : Float × List Float :=
  (Float.ofBits 0xC0C992D8D24F3F38, [Float.ofBits 0x413199ECA5FC9DDD, Float.ofBits 0xC1711FEAD3299176])

/-- The coefficients of the denominator of the tangent, after its leading one. -/
def tanDen : List Float :=
  [Float.ofBits 0x40CAB8A5EEB36572, Float.ofBits 0xC13427BC582ABC96,
    Float.ofBits 0x4177D98FC2EAD8EF, Float.ofBits 0xC189AFE03CBE5A31]

/-- The tangent. -/
def tan (x : Float) : Float :=
  if x == 0 ∨ x.isNaN then x
  else if !isFinite x then 0.0 / 0.0
  else
    let (j, z) := reduce x.abs
    let zz := z * z
    let y :=
      if zz > 1e-14 then z + z * (zz * horner tanNum.1 tanNum.2 zz / horner 1.0 tanDen zz)
      else z
    let y := if j % 4 ≥ 2 then -1.0 / y else y
    if x < 0 then -y else y

end Elementary

end LuaDebugger
