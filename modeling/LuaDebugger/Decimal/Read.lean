import LuaDebugger.CoreInstances
/-!
# Reading numbers from text

Integers are read in a given base from 2 to 36, or with base zero from the prefix of the
text: `0x` for 16, `0o` or a bare leading `0` for 8, `0b` for 2, and 10 otherwise; with a
prefix, underscores may separate digits. A sign may lead. A value outside the 64-bit signed
range is refused.

Binary64 values are read from decimal text with an optional point and a decimal exponent,
from hexadecimal text with a binary exponent `p`, or from the words `inf`, `infinity` and
`nan` in any case. The value is the exact value of the text rounded to nearest, ties to
even; a finite text whose value rounds past the largest finite value is refused. The digits
of an exponent count only until its value reaches `10000`, so an exponent of any length
moves the point by fewer than `100000` places: `1e-123456` reads as `1e-12345`.
-/

namespace LuaDebugger.Decimal

/-- Why a text is not a number. -/
inductive ReadFault where
  /-- The text has not the form of a number. -/
  | malformed
  /-- The text is a number outside the range of the type. -/
  | outOfRange
  deriving DecidableEq, Repr

/-- The value of an ASCII digit or letter as a digit, if it is one. -/
def digitValue (c : Char) : Option Nat :=
  if '0' ≤ c ∧ c ≤ '9' then some (c.toNat - 48)
  else if 'a' ≤ c ∧ c ≤ 'z' then some (c.toNat - 87)
  else if 'A' ≤ c ∧ c ≤ 'Z' then some (c.toNat - 55)
  else none

/-- The lowercase of an ASCII letter; other characters stay. -/
def asciiLower (c : Char) : Char := if 'A' ≤ c ∧ c ≤ 'Z' then Char.ofNat (c.toNat + 32) else c

/-- Whether the underscores of a number sit between digits, or between a base prefix and a
digit. -/
def underscoresFit (cs : List Char) : Bool :=
  let cs := match cs with
    | '+' :: r | '-' :: r => r
    | r => r
  let (start, hex, body) := match cs with
    | '0' :: p :: r =>
      let p := asciiLower p
      if p = 'b' ∨ p = 'o' ∨ p = 'x' then ('0', p == 'x', r) else ('^', false, cs)
    | _ => ('^', false, cs)
  let isDigit (c : Char) : Bool :=
    decide ('0' ≤ c ∧ c ≤ '9') || (hex && decide ('a' ≤ asciiLower c ∧ asciiLower c ≤ 'f'))
  let step : Option Char → Char → Option Char := fun saw c ↦
    match saw with
    | none => none
    | some s =>
      if isDigit c then some '0'
      else if c = '_' then (if s = '0' then some '_' else none)
      else if s = '_' then none
      else some '!'
  match body.foldl step (some start) with
  | some s => s ≠ '_'
  | none => false

/-- The digits of an unsigned number in `base`, underscores allowed when `free` holds. A
value that passes 64 bits is refused as soon as it does, whatever follows. -/
def readDigits (base : Nat) (free : Bool) : List Char → Nat → Except ReadFault Nat
  | [], n => .ok n
  | c :: rest, n =>
    if c = '_' ∧ free then readDigits base free rest n
    else match digitValue c with
      | some d =>
        if d < base then
          if n * base + d ≥ 2 ^ 64 then .error .outOfRange
          else readDigits base free rest (n * base + d)
        else .error .malformed
      | none => .error .malformed

/-- Reads an unsigned integer in `base`, or with base zero from its prefix. -/
def readUnsigned (base : Nat) (cs : List Char) : Except ReadFault Nat :=
  if cs.isEmpty then .error .malformed
  else
    let (b, body) :=
      if base ≠ 0 then (base, cs)
      else match cs with
        | '0' :: p :: r =>
          let p := asciiLower p
          if r.length ≥ 1 ∧ p = 'b' then (2, r)
          else if r.length ≥ 1 ∧ p = 'o' then (8, r)
          else if r.length ≥ 1 ∧ p = 'x' then (16, r)
          else (8, p :: r)
        | ['0'] => (8, [])
        | _ => (10, cs)
    match readDigits b (base = 0) body 0 with
    | .error e => .error e
    | .ok n =>
      if base = 0 ∧ cs.contains '_' ∧ !underscoresFit cs then .error .malformed
      else .ok n

/-- Reads a signed 64-bit integer in `base`, or with base zero from its prefix. -/
def readInt (base : Nat) (s : String) : Except ReadFault Int :=
  let cs := s.toList
  let (neg, body) := match cs with
    | '+' :: r => (false, r)
    | '-' :: r => (true, r)
    | r => (false, r)
  if cs.isEmpty then .error .malformed
  else match readUnsigned base body with
    | .error .malformed => .error .malformed
    | .error .outOfRange => .error .outOfRange
    | .ok n =>
      if !neg ∧ n ≥ 2 ^ 63 then .error .outOfRange
      else if neg ∧ n > 2 ^ 63 then .error .outOfRange
      else .ok (if neg then -(n : Int) else n)

/-- Reads an unsigned 64-bit integer in `base`, or with base zero from its prefix. -/
def readNat (base : Nat) (s : String) : Except ReadFault Nat := readUnsigned base s.toList

/-- The length of the longest common prefix of `cs` and `word`, ignoring ASCII case. -/
def commonPrefixIgnoringCase : List Char → List Char → Nat
  | c :: cs, w :: ws => if asciiLower c = w then 1 + commonPrefixIgnoringCase cs ws else 0
  | _, _ => 0

/-- The binary64 value of a word: an infinity with an optional sign, or NaN without one. -/
def readWord? (cs : List Char) : Option Float :=
  let (sign, rest, signed) := match cs with
    | '+' :: r => (false, r, true)
    | '-' :: r => (true, r, true)
    | r => (false, r, false)
  let n := commonPrefixIgnoringCase rest "infinity".toList
  if (n = 3 ∧ rest.length = 3) ∨ (n = 8 ∧ rest.length = 8) then
    some (if sign then -(1.0 / 0.0) else 1.0 / 0.0)
  else if !signed ∧ commonPrefixIgnoringCase rest "nan".toList = 3 ∧ rest.length = 3 then
    some (0.0 / 0.0)
  else none

/-- A number's mantissa digits, the count of digits after the point, and the rest of the
text. Stops at the second point or the first other character. -/
def scanMantissa (base : Nat) : List Char → Nat → Nat → Bool → Bool → Bool →
    Option (Nat × Nat × Bool × List Char)
  | [], m, frac, sawDot, sawDigit, _ => if sawDigit then some (m, frac, sawDot, []) else none
  | c :: rest, m, frac, sawDot, sawDigit, under =>
    if c = '_' then scanMantissa base rest m frac sawDot sawDigit true
    else if c = '.' ∧ !sawDot then scanMantissa base rest m frac true sawDigit under
    else match digitValue c with
      | some d =>
        if d < base then
          scanMantissa base rest (m * base + d) (if sawDot then frac + 1 else frac) sawDot true under
        else if sawDigit then some (m, frac, sawDot, c :: rest) else none
      | none => if sawDigit then some (m, frac, sawDot, c :: rest) else none

/-- Appends a digit to an exponent read so far, unless that is already at least `10000`:
an exponent's digits count only until its value reaches `10000`, so that `123456` reads as
`12345` and the value stays small whatever the length of the text. -/
def exponentStep (n : Nat) (c : Char) : Nat := if n < 10000 then n * 10 + (c.toNat - 48) else n

/-- Reads the exponent after its mark: an optional sign and at least one digit, with
underscores allowed between them; digits past the value `10000` are passed over (see
`exponentStep`). -/
def scanExponent (cs : List Char) : Option Int :=
  let (neg, body) := match cs with
    | '+' :: r => (false, r)
    | '-' :: r => (true, r)
    | r => (false, r)
  match body with
  | c :: _ =>
    if '0' ≤ c ∧ c ≤ '9' ∧ body.all (fun c ↦ decide ('0' ≤ c ∧ c ≤ '9') || c = '_') then
      let n : Nat := (body.filter (· ≠ '_')).foldl exponentStep 0
      some (if neg then -(n : Int) else n)
    else none
  | [] => none

/-- The binary64 value nearest to `m * base^e` for base 10 or 2, ties to even. -/
def scaled (m : Nat) (binary : Bool) (e : Int) : Float :=
  if binary then
    if e ≥ 0 then Float.ofScientific (m * 2 ^ e.toNat) false 0
    else Float.ofScientific (m * 5 ^ (-e).toNat) true (-e).toNat
  else
    if e ≥ 0 then Float.ofScientific m false e.toNat else Float.ofScientific m true (-e).toNat

/-- Whether a binary64 value is infinite. -/
def isInfinite (x : Float) : Bool := x.toBits &&& 0x7FFFFFFFFFFFFFFF = 0x7FF0000000000000

/-- Whether a binary64 value is finite: its exponent is not all ones, as it is for the
infinities and NaN. -/
def isFinite (x : Float) : Bool := ((x.toBits >>> 52) &&& 0x7FF).toNat != 0x7FF

/-- Reads a binary64 value from text. -/
def readFloat (s : String) : Except ReadFault Float :=
  let cs := s.toList
  match readWord? cs with
  | some x => .ok x
  | none =>
    let (neg, body) := match cs with
      | '+' :: r => (false, r)
      | '-' :: r => (true, r)
      | r => (false, r)
    let (hex, body) := match body with
      | '0' :: x :: r => if asciiLower x = 'x' ∧ r.length ≥ 1 then (true, r) else (false, body)
      | _ => (false, body)
    match scanMantissa (if hex then 16 else 10) body 0 0 false false false with
    | none => .error .malformed
    | some (m, frac, _, rest) =>
      let expPart : Option (Option Int) := match rest with
        | [] => some none
        | c :: r =>
          if asciiLower c = (if hex then 'p' else 'e') then (scanExponent r).map some else none
      match expPart with
      | none => .error .malformed
      | some ex =>
        if hex ∧ ex.isNone then .error .malformed
        else if cs.contains '_' ∧ !underscoresFit cs then .error .malformed
        else
          let e := ex.getD 0
          let e : Int := if hex then e - 4 * (frac : Int) else e - (frac : Int)
          let v := scaled m hex e
          if isInfinite v then .error .outOfRange
          else .ok (if neg then -v else v)

end LuaDebugger.Decimal
