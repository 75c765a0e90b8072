import LuaDebugger.Lua.State
import LuaDebugger.Lua.Arith
import LuaDebugger.Datum.Json
/-!
# Script values as data

How the debugger shows values of the script to its clients:

* `toDatum` converts a value to plain data: an integral number below `2^53` in magnitude
  becomes an integer, NaN and the infinities their text, a table a list when its keys are
  exactly `1 … n`, else a map keyed by the text of each key, and any other object its text.
  A table met again inside itself becomes `null`. When two keys of a map have the same
  text, a key of the hash part that is not a string wins over a string key, which wins over
  an index of the array part. The keys of a map come in the order of their bytes, and a
  byte of a key that is not part of a well-formed character shows as U+FFFD;
* `json` is the JSON text of such data, `null` when it has none;
* `format` is the text of a value in listings: a string as it is, a table as JSON, anything
  else as its plain text.
-/

namespace LuaDebugger.Lua

namespace Machine

/-- Whether a number is a positive integer as a key of a table converted to a list: an
integer that a signed 64-bit integer holds. -/
def positiveIndex? (x : Float) : Option Nat :=
  match Decimal.integralValue? x with
  | some n => if 0 < n ∧ n < 2 ^ 63 then some n.toNat else none
  | none => none

/-- The index a key stands for when its table converts to a list. -/
def keyIndex? : Value → Option Nat
  | .number x => positiveIndex? x
  | _ => none

/-- The length of the list a table with these entries converts to: every key is an index,
and there are as many keys as the largest index, which is at least one. -/
def sequenceLength? (es : List (Value × Value)) : Option Nat :=
  let indices := es.map (keyIndex? ·.1)
  let maxN := indices.foldl (fun acc i ↦ max acc (i.getD 0)) 0
  if indices.all Option.isSome ∧ maxN > 0 ∧ es.length = maxN then some maxN else none

/-- The entries of a table in the order its conversion visits them: the array part, then
the string keys, then the other keys. -/
def visitEntries (t : Table) : List (Value × Value) := t.entries

/-- A number as plain data: NaN and the infinities as their text, an integer below `2^53`
in magnitude as a 64-bit integer, any other number as itself. -/
def numberDatum (x : Float) : Datum :=
  if Decimal.isFinite x then
    match Decimal.integralValue? x with
    | some n => if n.natAbs < 2 ^ 53 then .int64 n else .float x
    | none => .float x
  else .text (numberText x)

/-- The map of the pairs of key bytes and data, in order: of the pairs with one key the last
wins, and the keys come in the order of their bytes, each shown as text. -/
def keyedEntries (pairs : List (List UInt8 × Datum)) : List (String × Datum) :=
  let entries := pairs.foldl (fun acc p ↦ acc.filter (·.1 != p.1) ++ [p]) []
  (entries.mergeSort fun a b ↦ decide (a.1 ≤ b.1)).map fun p ↦
    (Text.decodeLossy ⟨p.1.toArray⟩, p.2)

/-- Converts a value to plain data, with the tables being converted on the way down. -/
def toDatumAt (m : Machine) : Nat → List Nat → Value → Datum
  | 0, _, _ => .null
  | fuel + 1, visiting, v =>
    match v with
    | .nil => .null
    | .bool b => .bool b
    | .number x => numberDatum x
    | .str s => Datum.ofBytes s
    | .table t =>
      if visiting.contains t then .null
      else
        let tb := m.table t
        let es := visitEntries tb
        match sequenceLength? es with
        | some n =>
          .list ((List.range n).map fun i ↦
            m.toDatumAt fuel (t :: visiting) (tb.rawGetIndex (i + 1)))
        | none =>
          .map (keyedEntries (es.map fun e ↦
            ((Heap.textBytes e.1).toList, m.toDatumAt fuel (t :: visiting) e.2)))
    | _ => .text (Heap.text v)

/-- The number of tables, which bounds the depth of a conversion. -/
def tableCount (m : Machine) : Nat := m.heap.tables.size

/-- Converts a value to plain data. -/
def toDatum (m : Machine) (v : Value) : Datum := m.toDatumAt (m.tableCount + 2) [] v

/-- The JSON text of plain data, `null` when it has none. -/
def json (d : Datum) : String := (d.toJson?).getD "null"

/-- The text of a value in a listing. -/
def format (m : Machine) (v : Value) : ByteArray :=
  match v with
  | .str s => s
  | .table _ => (json (m.toDatum v)).toUTF8
  | _ => (Heap.text v).toUTF8

end Machine

end LuaDebugger.Lua
