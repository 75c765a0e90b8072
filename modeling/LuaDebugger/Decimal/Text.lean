import LuaDebugger.Decimal.Shortest
/-!
# Writing binary64 values as text

The digits come from `Binary.shortest`; a `FloatFormat` decides the layout. A value whose
leading digit has exponent `x` is written positionally when `x` lies in the format's
positional range, and in scientific form otherwise, with a signed exponent of at least the
format's number of digits. Zero is `0`, negative zero keeps its sign, and NaN and the
infinities have texts of their own.
-/

namespace LuaDebugger.Decimal

/-- The layout decisions of a text format for binary64 values. -/
structure FloatFormat where
  /-- The least exponent of the leading digit written positionally. -/
  fixedFrom : Int
  /-- The exponents of the leading digit from here on are written in scientific form. -/
  fixedUntil : Int
  /-- The least number of digits of an exponent in scientific form. -/
  expDigits : Nat
  /-- The text of a NaN. -/
  nan : String := "NaN"
  /-- The text of positive infinity. -/
  posInf : String := "+Inf"
  /-- The text of negative infinity. -/
  negInf : String := "-Inf"

/-- The general format: positional for leading exponents from -4 up to 5, else scientific
with at least two exponent digits (`1e+06`, `1e-05`). -/
def FloatFormat.general : FloatFormat := ⟨-4, 6, 2, "NaN", "+Inf", "-Inf"⟩

/-- The data-interchange format: positional for leading exponents from -6 up to 20, else
scientific with exponents written as short as they are (`1e+21`, `1e-7`). -/
def FloatFormat.interchange : FloatFormat := ⟨-6, 21, 1, "NaN", "+Inf", "-Inf"⟩

/-- The decimal digits of a natural, most significant first. -/
def digitsOf (n : Nat) : List Char := Nat.toDigits 10 n

/-- `n` zeros. -/
def zeros (n : Nat) : String := String.ofList (List.replicate n '0')

/-- A decimal written positionally. -/
def Dec.positional (d : Dec) : String :=
  let ds := digitsOf d.digits
  if d.exp ≥ 0 then String.ofList ds ++ zeros d.exp.toNat
  else
    let frac := (-d.exp).toNat
    if frac < ds.length then
      String.ofList (ds.take (ds.length - frac)) ++ "." ++ String.ofList (ds.drop (ds.length - frac))
    else "0." ++ zeros (frac - ds.length) ++ String.ofList ds

/-- The exponent of the leading digit of a nonzero decimal. -/
def Dec.leadingExp (d : Dec) : Int := d.exp + (digitsOf d.digits).length - 1

/-- A decimal written in scientific form with at least `expDigits` exponent digits. -/
def Dec.scientific (d : Dec) (expDigits : Nat) : String :=
  let ds := digitsOf d.digits
  let x := d.leadingExp
  let mant := match ds with
    | [c] => String.ofList [c]
    | c :: rest => String.ofList [c] ++ "." ++ String.ofList rest
    | [] => "0"
  let e := digitsOf x.natAbs
  let e := zeros (expDigits - e.length) ++ String.ofList e
  mant ++ "e" ++ (if x < 0 then "-" else "+") ++ e

/-- The text of a binary64 value in the format `fmt`. -/
def FloatFormat.render (fmt : FloatFormat) (x : Float) : String :=
  let bits := x.toBits
  let neg := bits >>> 63 = 1
  let e := (bits >>> 52) &&& 0x7FF
  let f := bits &&& 0xFFFFFFFFFFFFF
  if e = 0x7FF then
    if f ≠ 0 then fmt.nan else if neg then fmt.negInf else fmt.posInf
  else
    let sign := if neg then "-" else ""
    if e = 0 ∧ f = 0 then sign ++ "0"
    else
      let d := (Binary.ofBits bits).shortest
      let lead := d.leadingExp
      sign ++ (if fmt.fixedFrom ≤ lead ∧ lead < fmt.fixedUntil then d.positional
        else d.scientific fmt.expDigits)

end LuaDebugger.Decimal
