import LuaDebugger.Config.Tree
import LuaDebugger.Text.Case
import LuaDebugger.Decimal.Read
/-!
# Settings from the environment

The variables whose names start with `DEPURADOR_` make a layer of settings. Three short
names stand for a setting: `DEPURADOR_PORT` for `server.port`, `DEPURADOR_HOST` for
`server.host` and `DEPURADOR_LOG_LEVEL` for `logging.level`. Any other name is lowercased
after the prefix and cut at its first underscore into a section and a setting, so
`DEPURADOR_SERVER_MAX_LINE_BYTES` sets `server.max_line_bytes`; a name without both parts
is passed over.

A value reads as a boolean when it is `true`, `yes` or `on`, or `false`, `no` or `off`, in
any case; else as a 64-bit integer in decimal; else, when it has a point, as a float; else
it stays text. Later variables override earlier ones, and a variable whose path runs
through a value that is not a map is passed over.
-/

namespace LuaDebugger.Config

/-- The prefix of the variables read. -/
def envPrefix : String := "DEPURADOR_"

/-- The setting a short variable name stands for. -/
def envAlias? : String → Option String
  | "DEPURADOR_PORT" => some "server.port"
  | "DEPURADOR_HOST" => some "server.host"
  | "DEPURADOR_LOG_LEVEL" => some "logging.level"
  | _ => none

/-- The setting a variable name gives after the prefix: the section before the first
underscore and the setting after it, both lowercased and present. -/
def envPath? (name : String) : Option String :=
  let rest := (Text.lowerEach (String.ofList (name.toList.drop envPrefix.length))).toList
  let head := rest.takeWhile (· ≠ '_')
  let key := rest.drop (head.length + 1)
  if head.length = rest.length ∨ head.isEmpty ∨ key.isEmpty then none
  else some (String.ofList head ++ "." ++ String.ofList key)

/-- The value of a variable. -/
def envValue (s : String) : Datum :=
  match Text.lowerEach s with
  | "true" | "yes" | "on" => .bool true
  | "false" | "no" | "off" => .bool false
  | _ =>
    match Decimal.readInt 10 s with
    | .ok i => .int64 i
    | .error _ =>
      if s.toList.contains '.' then
        match Decimal.readFloat s with
        | .ok x => .float x
        | .error _ => .text s
      else .text s

/-- The layer of settings from the variables `NAME=value`, in order. -/
def environment (environ : List String) : Tree :=
  environ.foldl (fun t kv ↦
    let cs := kv.toList
    let name := String.ofList (cs.takeWhile (· ≠ '='))
    if name.length = cs.length ∨ !name.startsWith envPrefix then t
    else
      let value := String.ofList (cs.drop (name.length + 1))
      match (envAlias? name).orElse fun _ ↦ envPath? name with
      | none => t
      | some path => (t.write path (envValue value)).1) []

end LuaDebugger.Config
