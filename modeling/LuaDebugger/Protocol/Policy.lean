import LuaDebugger.Text.Case
import LuaDebugger.Text.Space
import LuaDebugger.Text.Quote
/-!
# What to do with requests nobody knows

A server either reports an unknown request to the client as an error or ignores it. The
setting is read from text, trimmed and lowercased, and the empty text means to report.
-/

namespace LuaDebugger

/-- How the server answers a request with an unknown name. -/
inductive UnknownPolicy where
  /-- Answer with an error frame. -/
  | report
  /-- Answer nothing. -/
  | ignore
  deriving DecidableEq, Repr, Inhabited

namespace UnknownPolicy

/-- The name of a policy. -/
def name : UnknownPolicy → String
  | .report => "report"
  | .ignore => "ignore"

/-- The name of the policy with the given position, or `unknown`. -/
def nameOfCode : Int → String
  | 0 => "report"
  | 1 => "ignore"
  | _ => "unknown"

/-- Reads a policy; the text is trimmed and lowercased first, and the empty text reports.
Fails with the text as written. -/
def parse (s : String) : Except String UnknownPolicy :=
  match Text.lowerEach (Text.trimSpace s) with
  | "report" | "" => .ok .report
  | "ignore" => .ok .ignore
  | _ => .error s

/-- The complaint about a policy that does not read. -/
def complaint (s : String) : String := "unknown command policy " ++ Text.quote s

end UnknownPolicy

end LuaDebugger
