import LuaDebugger.Text.Utf8
/-!
# Data values

A `Datum` is a value of the data formats the debugger reads and writes: configuration
files, the environment, log arguments and values handed to a client. It is dynamically
typed. Integers come in three kinds, the machine integer, the 64-bit integer and the
unsigned 64-bit integer, which compare unequal to each other even when their values agree.
Maps have text keys, held sorted and each once, so two maps with the same entries are the
same value. A string that is not well-formed UTF-8 is kept as its bytes.
-/

namespace LuaDebugger

/-- A calendar date. -/
structure CivilDate where
  /-- The year. -/
  year : Int
  /-- The month, 1 to 12. -/
  month : Nat
  /-- The day of the month, from 1. -/
  day : Nat
  deriving DecidableEq, Repr, Inhabited

/-- A time of day. -/
structure CivilTime where
  /-- The hour, 0 to 23. -/
  hour : Nat
  /-- The minute. -/
  minute : Nat
  /-- The second. -/
  second : Nat
  /-- The fraction of the second, in nanoseconds. -/
  nanos : Nat := 0
  /-- The number of fraction digits written in the source, zero when none. -/
  precision : Nat := 0
  deriving DecidableEq, Repr, Inhabited

/-- A dynamically typed data value. -/
inductive Datum where
  /-- The absent value. -/
  | null
  | bool (b : Bool)
  /-- A machine integer. -/
  | int (n : Int)
  /-- A 64-bit integer. -/
  | int64 (n : Int)
  /-- An unsigned 64-bit integer. -/
  | uint64 (n : Nat)
  | float (x : Float)
  /-- A span of time in nanoseconds. -/
  | duration (ns : Int)
  /-- A well-formed text. -/
  | text (s : String)
  /-- A byte string that is not well-formed UTF-8. -/
  | bytes (b : ByteArray)
  | list (items : List Datum)
  /-- A map from text keys, in the order they are written. -/
  | map (entries : List (String × Datum))
  /-- A date without a time or zone. -/
  | localDate (d : CivilDate)
  /-- A time of day without a date or zone. -/
  | localTime (t : CivilTime)
  /-- A date and time without a zone. -/
  | localDateTime (d : CivilDate) (t : CivilTime)
  /-- A point in time: a date and time at a fixed offset from UTC in seconds; `utc` marks
  the zone named UTC. -/
  | instant (d : CivilDate) (t : CivilTime) (offset : Int) (utc : Bool)
  deriving Inhabited

namespace Datum

/-- The datum of a byte string: text when it is well-formed, bytes otherwise. -/
def ofBytes (b : ByteArray) : Datum :=
  match String.fromUTF8? b with
  | some s => .text s
  | none => .bytes b

/-- The bytes of a string datum. -/
def stringBytes? : Datum → Option ByteArray
  | .text s => some s.toUTF8
  | .bytes b => some b
  | _ => none

/-- The text of a string datum, a stray byte read as the replacement character. -/
def string? : Datum → Option String
  | .text s => some s
  | .bytes b => some (Text.decodeLossy b)
  | _ => none

/-- The name of the type of a datum, as type errors name it. -/
def typeName : Datum → String
  | .null => "nil"
  | .text _ | .bytes _ => "string"
  | .int _ | .int64 _ | .uint64 _ => "int"
  | .float _ => "float64"
  | .bool _ => "bool"
  | .list _ => "[]any"
  | .map _ => "map"
  | .duration _ => "time.Duration"
  | .localDate _ => "toml.LocalDate"
  | .localTime _ => "toml.LocalTime"
  | .localDateTime _ _ => "toml.LocalDateTime"
  | .instant .. => "time.Time"

mutual
/-- Deep equality: kinds must agree, floats compare as numbers (so NaN differs from
itself), and lists and maps compare entry by entry. -/
def same : Datum → Datum → Bool
  | .null, .null => true
  | .bool a, .bool b => a == b
  | .int a, .int b => a == b
  | .int64 a, .int64 b => a == b
  | .uint64 a, .uint64 b => a == b
  | .float a, .float b => a == b
  | .duration a, .duration b => a == b
  | .text a, .text b => a == b
  | .bytes a, .bytes b => a == b
  | .list xs, .list ys => sameList xs ys
  | .map xs, .map ys => sameEntries xs ys
  | .localDate a, .localDate b => a == b
  | .localTime a, .localTime b => a == b
  | .localDateTime a s, .localDateTime b t => a == b && s == t
  | .instant a s o u, .instant b t p v => a == b && s == t && o == p && u == v
  | _, _ => false
/-- Deep equality of two lists of data. -/
def sameList : List Datum → List Datum → Bool
  | [], [] => true
  | x :: xs, y :: ys => same x y && sameList xs ys
  | _, _ => false
/-- Deep equality of two maps' entries. -/
def sameEntries : List (String × Datum) → List (String × Datum) → Bool
  | [], [] => true
  | (k, x) :: xs, (k', y) :: ys => k == k' && same x y && sameEntries xs ys
  | _, _ => false
end

/-- The value at `key` in sorted entries. -/
def lookup (entries : List (String × Datum)) (key : String) : Option Datum :=
  (entries.find? (·.1 == key)).map (·.2)

/-- Sorted entries with `key` set to `v`, replacing an entry with that key. -/
def insertEntry (entries : List (String × Datum)) (key : String) (v : Datum) :
    List (String × Datum) :=
  match entries with
  | [] => [(key, v)]
  | (k, w) :: rest =>
    if key = k then (key, v) :: rest
    else if key < k then (key, v) :: (k, w) :: rest
    else (k, w) :: insertEntry rest key v

/-- Sorted entries without the entry at `key`. -/
def eraseEntry (entries : List (String × Datum)) (key : String) : List (String × Datum) :=
  entries.filter (·.1 != key)

/-- Sorted entries built from pairs in any order; a later pair wins over an earlier one
with the same key. -/
def entriesOf (pairs : List (String × Datum)) : List (String × Datum) :=
  pairs.foldl (fun acc (k, v) ↦ insertEntry acc k v) []

end Datum

end LuaDebugger
