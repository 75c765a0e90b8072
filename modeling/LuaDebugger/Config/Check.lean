import LuaDebugger.Config.Fault
import LuaDebugger.Config.Tree
import LuaDebugger.Duration
import LuaDebugger.Log.Level
import LuaDebugger.Decimal.Shortest
/-!
# Reading and checking settings

Settings are read with a type in mind:

* an integer is a machine integer, a 64-bit integer, an unsigned one (read modulo `2^64`
  as a signed value) or a float with an integer value in the signed 64-bit range;
* a span of time is a span, a text in the notation of spans (`90s`, `1m30s`), or an integer
  number of seconds, given as an integer or an integral float;
* text and booleans are only themselves.

`validate` checks the settings the program knows, those present, in a fixed order: the
server's host, port (0 to 65535), policy for unknown commands (`report` or `ignore`), send
queue (1 to 2^20), longest line (64 to 2^30) and write timeout (positive); the engine's two
switches and queue size (1 to 2^20); and the log level. All the faults found are reported
together.

The sections read each setting with its type and fall back to its default when the setting
is absent or of another type.
-/

namespace LuaDebugger.Config

/-- The signed 64-bit integer with the same bits as an integer, taken modulo `2^64`. -/
def wrapSigned (i : Int) : Int :=
  let m := i % 2 ^ 64
  if m ≥ 2 ^ 63 then m - 2 ^ 64 else m

/-- Reads a setting as an integer. -/
def readInt (path : String) : Datum → Except ConfigFault Int
  | .int n | .int64 n => .ok n
  | .uint64 n => .ok (wrapSigned n)
  | .float x =>
    match Decimal.integralValue? x with
    | some n => if -2 ^ 63 ≤ n ∧ n < 2 ^ 63 then .ok n else .error (.mismatch path "int" "float64")
    | none => .error (.mismatch path "int" "float64")
  | d => .error (.mismatch path "int" d.typeName)

/-- Reads a setting as a span of time, in nanoseconds. -/
def readDuration (path : String) : Datum → Except ConfigFault Int
  | .duration ns => .ok ns
  | .text s =>
    match Duration.parse? s with
    | some ns => .ok ns
    | none => .error (.outOfDomain path (.text s) "invalid duration")
  | .bytes b => .error (.outOfDomain path (.bytes b) "invalid duration")
  | d@(.int _) | d@(.int64 _) | d@(.float _) => do
    let n ← readInt path d
    pure (wrapSigned (n * 1000000000))
  | d => .error (.mismatch path "duration" d.typeName)

namespace Tree

/-- The setting at a path, or the fault of its absence. -/
def find (t : Tree) (path : String) : Except ConfigFault Datum :=
  match t.get? path with
  | some d => .ok d
  | none => .error .notFound

/-- The text at a path. -/
def getString (t : Tree) (path : String) : Except ConfigFault Datum := do
  match ← t.find path with
  | d@(.text _) | d@(.bytes _) => pure d
  | d => throw (.mismatch path "string" d.typeName)

/-- The integer at a path. -/
def getInt (t : Tree) (path : String) : Except ConfigFault Int := do
  readInt path (← t.find path)

/-- The boolean at a path. -/
def getBool (t : Tree) (path : String) : Except ConfigFault Bool := do
  match ← t.find path with
  | .bool b => pure b
  | d => throw (.mismatch path "bool" d.typeName)

/-- The span of time at a path, in nanoseconds. -/
def getDuration (t : Tree) (path : String) : Except ConfigFault Int := do
  readDuration path (← t.find path)

/-- A reading of a setting, or `default` when it fails. -/
def orDefault {α : Type} (r : Except ConfigFault α) (default : α) : α :=
  match r with
  | .ok v => v
  | .error _ => default

end Tree

/-- The check that a setting is text. -/
def checkString (path : String) : Datum → Option ConfigFault
  | .text _ | .bytes _ => none
  | d => some (.mismatch path "string" d.typeName)

/-- The check that a setting is a boolean. -/
def checkBool (path : String) : Datum → Option ConfigFault
  | .bool _ => none
  | d => some (.mismatch path "bool" d.typeName)

/-- The check that a setting is an integer from `lo` to `hi`. -/
def checkIntIn (path : String) (lo hi : Int) (d : Datum) : Option ConfigFault :=
  match readInt path d with
  | .error e => some e
  | .ok n => if n < lo ∨ n > hi then some (.outOfDomain path d "out of range") else none

/-- The check of the policy for unknown commands. -/
def checkPolicy (d : Datum) : Option ConfigFault :=
  match d with
  | .text "report" | .text "ignore" => none
  | _ => some (.outOfDomain "server.unknown_commands" d "must be \"report\" or \"ignore\"")

/-- The check of the write timeout: a positive span. -/
def checkTimeout (d : Datum) : Option ConfigFault :=
  match readDuration "server.write_timeout" d with
  | .error e => some e
  | .ok ns => if ns ≤ 0 then some (.outOfDomain "server.write_timeout" d "must be positive") else none

/-- The check of the log level: the name of a level. -/
def checkLevel (d : Datum) : Option ConfigFault :=
  match d with
  | .text s => if Level.isValidName s then none else some (.outOfDomain "logging.level" d "unknown level")
  | _ => some (.outOfDomain "logging.level" d "unknown level")

/-- The checks of the known settings, in order. -/
def checks : List (String × (Datum → Option ConfigFault)) :=
  [("server.host", checkString "server.host"),
   ("server.port", checkIntIn "server.port" 0 65535),
   ("server.unknown_commands", checkPolicy),
   ("server.send_queue", checkIntIn "server.send_queue" 1 (2 ^ 20)),
   ("server.max_line_bytes", checkIntIn "server.max_line_bytes" 64 (2 ^ 30)),
   ("server.write_timeout", checkTimeout),
   ("engine.stop_on_entry", checkBool "engine.stop_on_entry"),
   ("engine.system_libraries", checkBool "engine.system_libraries"),
   ("engine.queue_size", checkIntIn "engine.queue_size" 1 (2 ^ 20)),
   ("logging.level", checkLevel)]

/-- The faults of the known settings present in a merged configuration, all of them
together; none when every check passes. -/
def validate (t : Tree) : Option ConfigFault :=
  let faults := checks.filterMap fun (path, check) ↦ (t.get? path).bind check
  if faults.isEmpty then none else some (.several faults)

/-- The settings of the server. -/
structure ServerSection where
  /-- The host to listen on; empty for every interface. -/
  host : Datum
  /-- The port. -/
  port : Int
  /-- What to do with an unknown command: `report` or `ignore`. -/
  unknownCommands : Datum
  /-- The length of a connection's queue of outgoing lines. -/
  sendQueue : Int
  /-- The longest command line. -/
  maxLineBytes : Int
  /-- The longest write, in nanoseconds. -/
  writeTimeout : Int

/-- The settings of the script engine. -/
structure EngineSection where
  /-- Whether a program pauses before its first statement. -/
  stopOnEntry : Bool
  /-- Whether programs get the system libraries. -/
  systemLibraries : Bool
  /-- The bound on the engine's pending calls. -/
  queueSize : Int

/-- The settings of the log. -/
structure LoggingSection where
  /-- The name of the least level written. -/
  level : Datum

namespace Tree

/-- The server's settings, each falling back to its default. -/
def server (t : Tree) : ServerSection where
  host := orDefault (t.getString "server.host") (.text "")
  port := orDefault (t.getInt "server.port") 7777
  unknownCommands := orDefault (t.getString "server.unknown_commands") (.text "report")
  sendQueue := orDefault (t.getInt "server.send_queue") 256
  maxLineBytes := orDefault (t.getInt "server.max_line_bytes") (2 ^ 20)
  writeTimeout := orDefault (t.getDuration "server.write_timeout") 10000000000

/-- The engine's settings, each falling back to its default. -/
def engine (t : Tree) : EngineSection where
  stopOnEntry := orDefault (t.getBool "engine.stop_on_entry") true
  systemLibraries := orDefault (t.getBool "engine.system_libraries") false
  queueSize := orDefault (t.getInt "engine.queue_size") 64

/-- The log's settings, falling back to the default level. -/
def logging (t : Tree) : LoggingSection where
  level := orDefault (t.getString "logging.level") (.text "info")

end Tree

/-- The built-in defaults. -/
def defaults : Tree :=
  [("engine", .map [("queue_size", .int 64), ("stop_on_entry", .bool true),
      ("system_libraries", .bool false)]),
   ("logging", .map [("level", .text "info")]),
   ("server", .map [("host", .text ""), ("max_line_bytes", .int (2 ^ 20)), ("port", .int 7777),
      ("send_queue", .int 256), ("unknown_commands", .text "report"), ("write_timeout", .text "10s")])]

end LuaDebugger.Config
