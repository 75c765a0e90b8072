import LuaDebugger.Datum.Basic
import LuaDebugger.Decimal.Text
/-!
# Data values as text

The plain text of a datum, as logs and messages show it. Absence is `<nil>`; numbers are
written in decimal, floats in the general format; lists are their items between brackets
separated by spaces, and maps `map[k:v ...]` in key order. A span of time is written in
hours, minutes and seconds (`1h2m3.5s`), or below a second in the largest unit that keeps
it at least one (`1.5ms`, `20µs`, `7ns`). Dates and times are written as their calendar
fields, with the fraction of a second trimmed of trailing zeros.
-/

namespace LuaDebugger

/-- The decimal digits of `n`, padded with zeros to `width`. -/
def padNat (width n : Nat) : String :=
  let ds := Nat.toDigits 10 n
  String.ofList (List.replicate (width - ds.length) '0' ++ ds)

/-- The fraction `v / 10^prec` after the point, without trailing zeros, and the integer
part; no point is written when the fraction is zero. -/
def fractionText (v prec : Nat) : String × Nat :=
  let frac := v % 10 ^ prec
  let whole := v / 10 ^ prec
  if frac = 0 then ("", whole)
  else
    let ds := (padNat prec frac).toList.reverse.dropWhile (· = '0') |>.reverse
    ("." ++ String.ofList ds, whole)

/-- The text of a span of `ns` nanoseconds. -/
def durationText (ns : Int) : String :=
  let u := ns.natAbs
  let sign := if ns < 0 then "-" else ""
  if u = 0 then "0s"
  else if u < 1000000000 then
    let (prec, unit) :=
      if u < 1000 then (0, "ns") else if u < 1000000 then (3, "µs") else (6, "ms")
    let (frac, whole) := fractionText u prec
    sign ++ toString whole ++ frac ++ unit
  else
    let (frac, secs) := fractionText u 9
    let s := toString (secs % 60) ++ frac ++ "s"
    let mins := secs / 60
    if mins = 0 then sign ++ s
    else
      let m := toString (mins % 60) ++ "m" ++ s
      let hours := mins / 60
      if hours = 0 then sign ++ m else sign ++ toString hours ++ "h" ++ m

/-- A date as `YYYY-MM-DD`. -/
def CivilDate.text (d : CivilDate) : String :=
  let y := if d.year < 0 then "-" ++ padNat 4 d.year.natAbs else padNat 4 d.year.toNat
  y ++ "-" ++ padNat 2 d.month ++ "-" ++ padNat 2 d.day

/-- The fraction of a second trimmed of trailing zeros, with its point, or nothing. -/
def CivilTime.trimmedFraction (t : CivilTime) : String := (fractionText t.nanos 9).1

/-- A time of day as `HH:MM:SS`, with the fraction written to the digits of the source, or
trimmed when the source gave none. -/
def CivilTime.text (t : CivilTime) : String :=
  let hms := padNat 2 t.hour ++ ":" ++ padNat 2 t.minute ++ ":" ++ padNat 2 t.second
  if t.precision > 0 then hms ++ "." ++ String.ofList ((padNat 9 t.nanos).toList.take t.precision)
  else hms ++ t.trimmedFraction

/-- An offset from UTC as `+hhmm`. -/
def offsetText (offset : Int) (colon : Bool) : String :=
  let sign := if offset < 0 then "-" else "+"
  let m := offset.natAbs / 60
  sign ++ padNat 2 (m / 60) ++ (if colon then ":" else "") ++ padNat 2 (m % 60)

/-- A point in time as `YYYY-MM-DD HH:MM:SS.f +hhmm ZONE`; a zone without a name is named by
its offset. -/
def instantText (d : CivilDate) (t : CivilTime) (offset : Int) (utc : Bool) : String :=
  let hms := padNat 2 t.hour ++ ":" ++ padNat 2 t.minute ++ ":" ++ padNat 2 t.second
  d.text ++ " " ++ hms ++ t.trimmedFraction ++ " " ++ offsetText offset false ++ " " ++
    (if utc then "UTC" else offsetText offset false)

/-- A point in time in the interchange form `YYYY-MM-DDTHH:MM:SS.fZ` or with `+hh:mm`. -/
def instantStamp (d : CivilDate) (t : CivilTime) (offset : Int) : String :=
  let hms := padNat 2 t.hour ++ ":" ++ padNat 2 t.minute ++ ":" ++ padNat 2 t.second
  d.text ++ "T" ++ hms ++ t.trimmedFraction ++ (if offset = 0 then "Z" else offsetText offset true)

namespace Datum

mutual
/-- The plain text of a datum. -/
def display : Datum → String
  | .null => "<nil>"
  | .bool b => if b then "true" else "false"
  | .int n | .int64 n => toString n
  | .uint64 n => toString n
  | .float x => Decimal.FloatFormat.general.render x
  | .duration ns => durationText ns
  | .text s => s
  | .bytes b => Text.decodeLossy b
  | .list xs => "[" ++ displayList xs ++ "]"
  | .map kvs => "map[" ++ displayEntries kvs ++ "]"
  | .localDate d => d.text
  | .localTime t => t.text
  | .localDateTime d t => d.text ++ "T" ++ t.text
  | .instant d t o u => instantText d t o u
/-- The items of a list, separated by spaces. -/
def displayList : List Datum → String
  | [] => ""
  | [x] => display x
  | x :: rest => display x ++ " " ++ displayList rest
/-- The entries of a map as `k:v`, separated by spaces. -/
def displayEntries : List (String × Datum) → String
  | [] => ""
  | [(k, v)] => k ++ ":" ++ display v
  | (k, v) :: rest => k ++ ":" ++ display v ++ " " ++ displayEntries rest
end

end Datum

end LuaDebugger
