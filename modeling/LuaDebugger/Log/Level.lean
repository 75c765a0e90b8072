import LuaDebugger.Text.Case
/-!
# Severity of log lines

Four severities in rising order. A logger writes a line when its severity is at least the
logger's threshold. Names are read without regard to case, with `warning` for `warn`, and
an unknown name reads as `info`.
-/

namespace LuaDebugger

/-- The severity of a log line. -/
inductive Level where
  | debug
  | info
  | warn
  | error
  deriving DecidableEq, Repr, Inhabited

namespace Level

/-- The rank of a severity, from zero. -/
def rank : Level → Nat
  | .debug => 0
  | .info => 1
  | .warn => 2
  | .error => 3

/-- The name of a severity, as log lines show it. -/
def name : Level → String
  | .debug => "DEBUG"
  | .info => "INFO"
  | .warn => "WARN"
  | .error => "ERROR"

/-- The name of the severity with the given rank, or `UNKNOWN`. -/
def nameOfCode : Int → String
  | 0 => "DEBUG"
  | 1 => "INFO"
  | 2 => "WARN"
  | 3 => "ERROR"
  | _ => "UNKNOWN"

/-- The severity a name stands for, if it stands for one. -/
def ofName? (s : String) : Option Level :=
  match Text.lowerEach s with
  | "debug" => some .debug
  | "info" => some .info
  | "warn" | "warning" => some .warn
  | "error" => some .error
  | _ => none

/-- The severity a name stands for, `info` when it stands for none. -/
def parse (s : String) : Level := (ofName? s).getD .info

/-- Whether a name stands for a severity. -/
def isValidName (s : String) : Bool := (ofName? s).isSome

/-- Whether a line of severity `l` passes the threshold `t`. -/
def passes (l t : Level) : Bool := t.rank ≤ l.rank

end Level

end LuaDebugger
