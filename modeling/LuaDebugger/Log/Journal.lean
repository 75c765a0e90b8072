import LuaDebugger.Log.Level
import LuaDebugger.Datum.Display
import LuaDebugger.Printf
/-!
# The log

Loggers share one journal: its threshold, whether it is switched on, and the lines written
so far. A logger itself is a view on the journal with a prefix and a set of fields; deriving
a logger with another field shares the journal. A line is written when the journal is on
and the line's severity passes the threshold. Its bytes are
`stamp [LEVEL] prefix: message {k=v, ...}`, the prefix part left out when the prefix is
empty and the fields, sorted by key, left out when there are none. The message and the
values of the fields are byte strings: a string argument keeps its bytes as they are.
-/

namespace LuaDebugger

namespace Datum

mutual
/-- A datum as a format argument; a span of time and a date carry their text. -/
def toFmtArg : Datum → FmtArg
  | .null => .nil
  | .bool b => .bool b
  | .int n => .int n "int"
  | .int64 n => .int n "int64"
  | .uint64 n => .uint n "uint64"
  | .float x => .float x "float64"
  | .duration ns => .shown (durationText ns) "time.Duration" (.int ns "time.Duration")
  | .text s => .str s.toUTF8 "string"
  | .bytes b => .str b "string"
  | .list xs => .list (toFmtArgs xs)
  | .map kvs => .map (toFmtEntries kvs)
  | d@(.localDate _) => .shown d.display d.typeName (.shown d.display d.typeName .nil)
  | d@(.localTime _) => .shown d.display d.typeName (.shown d.display d.typeName .nil)
  | d@(.localDateTime _ _) => .shown d.display d.typeName (.shown d.display d.typeName .nil)
  | d@(.instant ..) => .shown d.display d.typeName (.shown d.display d.typeName .nil)
/-- A list of data as format arguments. -/
def toFmtArgs : List Datum → List FmtArg
  | [] => []
  | x :: rest => toFmtArg x :: toFmtArgs rest
/-- Map entries as format arguments. -/
def toFmtEntries : List (String × Datum) → List (String × FmtArg)
  | [] => []
  | (k, v) :: rest => (k, toFmtArg v) :: toFmtEntries rest
end

end Datum

/-- One line of the log. -/
structure LogEntry where
  /-- The severity. -/
  level : Level
  /-- The prefix of the logger that wrote it. -/
  prefixText : String
  /-- The message, a byte string. -/
  message : ByteArray
  /-- The fields of the logger, sorted by key. -/
  fields : List (String × Datum)
  deriving Inhabited

namespace LogEntry

/-- The bytes of the line, stamped with `stamp`, ending in a line feed; each field's value
is written as the verb `v` writes it. -/
def render (stamp : String) (e : LogEntry) : ByteArray :=
  let head := (stamp ++ " [" ++ e.level.name ++ "] " ++
    (if e.prefixText = "" then "" else e.prefixText ++ ": ")).toUTF8 ++ e.message
  let field (kv : String × Datum) : ByteArray :=
    (kv.1 ++ "=").toUTF8 ++ Printf.format "%v".toUTF8 [kv.2.toFmtArg]
  let tail := if e.fields.isEmpty then ByteArray.empty
    else " \x7b".toUTF8 ++ Text.joinBytes ", ".toUTF8 (e.fields.map field) ++ "\x7d".toUTF8
  head ++ tail ++ "\n".toUTF8

end LogEntry

/-- The state that all loggers of one origin share. -/
structure Journal where
  /-- The least severity written. -/
  threshold : Level := .info
  /-- Whether lines are written at all. -/
  enabled : Bool := true
  /-- Whether written lines are kept; a journal that writes elsewhere keeps none. -/
  kept : Bool := true
  /-- The lines written, oldest first. -/
  entries : Array LogEntry := #[]
  deriving Inhabited

/-- A view on a journal: the prefix and fields that its lines carry. -/
structure Logger where
  /-- The prefix of every line. -/
  prefixText : String := ""
  /-- The fields of every line, sorted by key. -/
  fields : List (String × Datum) := []
  deriving Inhabited

namespace Logger

/-- The logger with `key` set to `value` among its fields. -/
def withField (l : Logger) (key : String) (value : Datum) : Logger :=
  { l with fields := Datum.insertEntry l.fields key value }

/-- The logger for a component of the program. -/
def withComponent (l : Logger) (component : String) : Logger :=
  l.withField "component" (.text component)

end Logger


namespace Journal

/-- The journal with a line written through `l`, if the line passes. -/
def write (j : Journal) (l : Logger) (level : Level) (message : ByteArray) : Journal :=
  if j.enabled ∧ level.passes j.threshold ∧ j.kept then
    { j with entries := j.entries.push ⟨level, l.prefixText, message, l.fields⟩ }
  else j

/-- The journal with a line written through `l` whose message is the format `fmt` filled in
with `args`; without arguments the format is the message as it stands. -/
def writef (j : Journal) (l : Logger) (level : Level) (fmt : String) (args : List Datum) :
    Journal :=
  j.write l level (if args.isEmpty then fmt.toUTF8 else Printf.format fmt.toUTF8 (Datum.toFmtArgs args))

/-- A journal that writes nothing: switched off and at the lowest threshold. -/
def silent : Journal := { threshold := .debug, enabled := false }

/-- The bytes of the lines from position `start` on, each stamped with `stamp`. -/
def textFrom (j : Journal) (start : Nat) (stamp : String) : ByteArray :=
  (j.entries.extract start j.entries.size).foldl (fun acc e ↦ acc ++ e.render stamp) .empty

end Journal

end LuaDebugger
