import LuaDebugger.Decimal.Text
/-!
# Decimal digits at a fixed precision

A binary64 value written with a fixed number of digits after the point, or of significant
digits, is its exact value rounded to that many digits: to the nearest, and on an exact tie
to the even neighbour. The digits come from exact division over naturals.
-/

namespace LuaDebugger.Decimal

/-- `num / den` rounded to the nearest natural, a tie going to the even one. -/
def roundDiv (num den : Nat) : Nat :=
  let q := num / den
  let r := num % den
  if 2 * r > den then q + 1
  else if 2 * r < den then q
  else if q % 2 = 0 then q else q + 1

/-- The value `m * 2^q * 10^e` rounded to the nearest natural, ties to even. -/
def Binary.roundScaled (x : Binary) (e : Int) : Nat :=
  roundDiv (x.m * 2 ^ x.q.toNat * 10 ^ e.toNat) (2 ^ (-x.q).toNat * 10 ^ (-e).toNat)

/-- The value rounded to `prec` digits after the point. -/
def Binary.fixed (x : Binary) (prec : Nat) : Dec := ⟨x.roundScaled prec, -(prec : Int)⟩

/-- The value rounded to `n` significant digits (at least one), for a positive value. -/
def Binary.significant (x : Binary) (n : Nat) : Dec :=
  let n := max n 1
  let e := x.scale - n
  let d := x.roundScaled (-e)
  -- rounding up may carry into one more digit
  if d ≥ 10 ^ n then ⟨d / 10, e + 1⟩ else ⟨d, e⟩

/-- A decimal written positionally with exactly `prec` digits after the point. -/
def Dec.fixedText (d : Dec) (prec : Nat) : String :=
  -- the digits are `d.digits` at exponent `-prec`
  let ds := (Nat.toDigits 10 d.digits)
  let ds := List.replicate (prec + 1 - ds.length) '0' ++ ds
  let whole := ds.take (ds.length - prec)
  let frac := ds.drop (ds.length - prec)
  String.ofList whole ++ (if prec = 0 then "" else "." ++ String.ofList frac)

/-- A decimal with `n` significant digits written as `d.ddde±xx`, keeping all its digits. -/
def Dec.scientificText (d : Dec) (n : Nat) (expDigits : Nat) : String :=
  let ds := Nat.toDigits 10 d.digits
  let ds := ds ++ List.replicate (n - ds.length) '0'
  let x := d.exp + (ds.length : Int) - 1
  let mant := match ds with
    | [c] => String.singleton c
    | c :: rest => String.singleton c ++ "." ++ String.ofList rest
    | [] => "0"
  let e := Nat.toDigits 10 x.natAbs
  mant ++ "e" ++ (if x < 0 then "-" else "+") ++ String.ofList (List.replicate (expDigits - e.length) '0' ++ e)

end LuaDebugger.Decimal
