import LuaDebugger.Datum.Display
import LuaDebugger.FileSystem
/-!
# What goes wrong with a configuration

Each fault names its cause, and `ConfigFault.message` gives its text:

* a setting of the wrong type: `type error for server.port: expected int, got string`;
* a setting outside its domain: `server.port: out of range (value: 70000)`;
* a setting that is not there, or a path that cannot name one;
* a configuration file of an unknown format, one that cannot be read, and one that does
  not parse (`parse error in c.toml at line 1: ...`, the line left out when unknown);
* a file that cannot be watched;
* several faults found by one check, one message per line.
-/

namespace LuaDebugger.Config

/-- A fault of a configuration. -/
inductive ConfigFault where
  /-- The setting at `path` has a value of type `actual` where `expected` was wanted. -/
  | mismatch (path expected actual : String)
  /-- The setting at `path` has a value outside its domain. -/
  | outOfDomain (path : String) (value : Datum) (problem : String)
  /-- No setting has the path. -/
  | notFound
  /-- The path cannot name a setting. -/
  | invalidPath
  /-- The file's extension names no format that is read. -/
  | unsupported (path : String)
  /-- The file could not be read. -/
  | unreadable (path : String) (fault : FileFault)
  /-- The file does not parse; `line` is zero when unknown. -/
  | unparsable (path : String) (line : Nat) (message : String)
  /-- The file cannot be watched. -/
  | unwatchable (path : String) (problem : FileProblem)
  /-- Several faults found together. -/
  | several (faults : List ConfigFault)
  deriving Inhabited

namespace ConfigFault

/-- The text of a fault. -/
def message : ConfigFault → String
  | .mismatch p e a => "type error for " ++ p ++ ": expected " ++ e ++ ", got " ++ a
  | .outOfDomain p v m => p ++ ": " ++ m ++ " (value: " ++ v.display ++ ")"
  | .notFound => "setting not found"
  | .invalidPath => "invalid setting path"
  | .unsupported p => "unsupported config format: " ++ p
  | .unreadable p f => "reading config file " ++ p ++ ": " ++ f.message
  | .unparsable p line m =>
    if line > 0 then "parse error in " ++ p ++ " at line " ++ toString line ++ ": " ++ m
    else "parse error in " ++ p ++ ": " ++ m
  | .unwatchable p f => "watching " ++ p ++ ": " ++ f.text
  | .several fs => "\n".intercalate (fs.attach.map fun ⟨f, _⟩ ↦ f.message)

end ConfigFault

end LuaDebugger.Config
