import LuaDebugger.App.Application
import LuaDebugger.Decimal.Read
/-!
# The command line

`depurador [options] <program.lua>` starts the debugger on a program. The options are read
the way the usual flag reader of the platform reads them:

* a flag is `-name` or `--name`, with its value after `=` or, unless it is a switch, in the
  next argument; `--` ends the flags, and so does the first argument that is not a flag
  (a lone `-` is not one);
* a switch takes `=1`, `=t`, `=true`, `=0`, `=f`, `=false` and their capitalised forms;
* an integer is read with an optional sign and a base prefix (`0x`, `0o`, `0b`, or `0` for
  octal), digits may be grouped with `_`, and it must fit in 64 bits (`Decimal.readInt`);
* `-h` and `-help` print the usage and end the command with success; any other unknown
  flag, a malformed one, a missing value or a bad value prints its complaint and the usage
  and ends it with status 2.

After the flags, `-version` prints the version and ends with success; a log level that is
not `debug`, `info`, `warn` (or `warning`) or `error` is refused; and there must be exactly
one program, or the usage is printed. Only the flags given become settings of the command
line, so the file and the environment still apply to the rest. A failed start of the
application ends with status 1.
-/

namespace LuaDebugger.App

/-- The kind of value a flag takes. -/
inductive FlagKind where
  /-- Any text. -/
  | text
  /-- A switch, on when given alone. -/
  | switch
  /-- A signed integer. -/
  | integer
  deriving DecidableEq

/-- A flag of the command. -/
structure Flag where
  /-- Its name, without dashes. -/
  name : String
  /-- What it takes. -/
  kind : FlagKind
  /-- What it is for. -/
  usage : String
  /-- Its value when not given, as text. -/
  default : String := ""

/-- The flags of the command, by name. -/
def flags : List Flag :=
  [⟨"c", .text, "Path to configuration file (shorthand)", ""⟩,
   ⟨"config", .text, "Path to configuration file (.toml or .yaml)", ""⟩,
   ⟨"host", .text, "Listen address (default all interfaces)", ""⟩,
   ⟨"log-level", .text, "Log level (debug, info, warn, error)", "info"⟩,
   ⟨"no-stop-on-entry", .switch, "Run until the first breakpoint instead of pausing on entry", "false"⟩,
   ⟨"port", .integer, "TCP port", "7777"⟩,
   ⟨"system-libraries", .switch, "Open the io and os libraries to the program", "false"⟩,
   ⟨"unknown-commands", .text, "Answer to unknown commands (report, ignore)", "report"⟩,
   ⟨"version", .switch, "Show version information", "false"⟩,
   ⟨"watch", .switch, "Reload the configuration file when it changes", "false"⟩]

/-- The line of the usage that describes a flag. -/
def Flag.describe (f : Flag) : String :=
  let kind := match f.kind with
    | .text => " string"
    | .integer => " int"
    | .switch => ""
  let dflt := match f.kind with
    | .text => if f.default = "" then "" else " (default " ++ Text.quote f.default ++ ")"
    | .integer => if f.default = "0" then "" else " (default " ++ f.default ++ ")"
    | .switch => if f.default = "false" then "" else " (default " ++ f.default ++ ")"
  "  -" ++ f.name ++ kind ++ "\n    \t" ++ f.usage ++ dflt ++ "\n"

/-- The usage of the command. -/
def usage : String :=
  "depurador - remote debugger for Lua programs\n\n" ++
  "Usage: depurador [options] <program.lua>\n\n" ++
  "Options:\n" ++ String.join (flags.map Flag.describe) ++
  "\nEnvironment variables DEPURADOR_<SECTION>_<KEY> override the config file,\n" ++
  "for example DEPURADOR_SERVER_PORT=8000.\n"

/-- The version text. -/
def versionText : String := "depurador dev\nCommit: unknown\nBuilt: unknown\n"

/-- The text of a fault of a number, as a flag reports it. -/
def numberFaultText : Decimal.ReadFault → String
  | .malformed => "parse error"
  | .outOfRange => "value out of range"

/-- Reads a switch's value. -/
def readSwitch : String → Option Bool
  | "1" | "t" | "T" | "TRUE" | "true" | "True" => some true
  | "0" | "f" | "F" | "FALSE" | "false" | "False" => some false
  | _ => none

/-- A value of a flag as given. -/
inductive FlagValue where
  | text (s : String)
  | switch (b : Bool)
  | integer (n : Int)

/-- How reading the flags ended. -/
inductive FlagEnd where
  /-- The flags were read: each flag given with its last value, and the other arguments. -/
  | read (given : List (String × FlagValue)) (rest : List String)
  /-- Help was asked for. -/
  | help
  /-- A flag was wrong, with the complaint. -/
  | wrong (complaint : String)

/-- Records a flag's value, replacing an earlier one. -/
def giveFlag (given : List (String × FlagValue)) (name : String) (v : FlagValue) :
    List (String × FlagValue) :=
  (given.filter (·.1 != name)) ++ [(name, v)]

/-- The value of a flag read from text, or the complaint. -/
def Flag.read (f : Flag) (value : String) : Except String FlagValue :=
  match f.kind with
  | .text => .ok (.text value)
  | .switch =>
    match readSwitch value with
    | some b => .ok (.switch b)
    | none => .error ("invalid boolean value " ++ Text.quote value ++ " for -" ++ f.name ++ ": parse error")
  | .integer =>
    match Decimal.readInt 0 value with
    | .ok n => .ok (.integer n)
    | .error e =>
      .error ("invalid value " ++ Text.quote value ++ " for flag -" ++ f.name ++ ": " ++ numberFaultText e)

/-- Splits the name of a flag from a value given after `=`; the name has at least one
character before it. -/
def splitValue (name : List Char) : String × Option String :=
  match (name.drop 1).idxOf? '=' with
  | some i => (String.ofList (name.take (i + 1)), some (String.ofList (name.drop (i + 2))))
  | none => (String.ofList name, none)

/-- Reads the flags from the arguments. -/
def readFlags : List String → List (String × FlagValue) → FlagEnd
  | [], given => .read given []
  | s :: more, given =>
    let cs := s.toList
    if cs.length < 2 ∨ cs.head? ≠ some '-' then .read given (s :: more)
    else if s = "--" then .read given more
    else
      let name := if cs[1]? = some '-' then cs.drop 2 else cs.drop 1
      if name.isEmpty ∨ name.head? = some '-' ∨ name.head? = some '=' then
        .wrong ("bad flag syntax: " ++ s)
      else
        let (name, value) := splitValue name
        match flags.find? (·.name = name) with
        | none =>
          if name = "help" ∨ name = "h" then .help
          else .wrong ("flag provided but not defined: -" ++ name)
        | some f =>
          match value, f.kind with
          | none, .switch => readFlags more (giveFlag given name (.switch true))
          | some v, _ =>
            match f.read v with
            | .ok x => readFlags more (giveFlag given name x)
            | .error c => .wrong c
          | none, _ =>
            match more with
            | [] => .wrong ("flag needs an argument: -" ++ name)
            | v :: rest =>
              match f.read v with
              | .ok x => readFlags rest (giveFlag given name x)
              | .error c => .wrong c

/-- What a run of the command ends with. -/
inductive Ending where
  /-- The command ended with a status and its output. -/
  | exit (code : Nat) (stdout stderr : String)
  /-- The server listens and the program was launched: the application serves clients. -/
  | serve (app : Application)

/-- The text a flag was given, if it was. -/
def textFlag (given : List (String × FlagValue)) (name : String) : Option String :=
  match given.lookup name with
  | some (.text s) => some s
  | _ => none

/-- The switch a flag was given, if it was. -/
def switchFlag (given : List (String × FlagValue)) (name : String) : Option Bool :=
  match given.lookup name with
  | some (.switch b) => some b
  | _ => none

/-- The settings of the command line from the flags given. -/
def overridesOf (given : List (String × FlagValue)) : List (String × Datum) :=
  given.filterMap fun (name, v) ↦
    match name, v with
    | "host", .text s => some ("server.host", .text s)
    | "port", .integer n => some ("server.port", .int n)
    | "log-level", .text s => some ("logging.level", .text s)
    | "no-stop-on-entry", .switch b => some ("engine.stop_on_entry", .bool !b)
    | "system-libraries", .switch b => some ("engine.system_libraries", .bool b)
    | "unknown-commands", .text s => some ("server.unknown_commands", .text s)
    | _, _ => none

/-- The options of the application from the arguments, or how the command ends. -/
def parseArgs (args : List String) : Except (Nat × String × String) Options :=
  match readFlags args [] with
  | .help => .error (0, "", usage)
  | .wrong complaint => .error (2, "", complaint ++ "\n" ++ usage)
  | .read given rest =>
    if switchFlag given "version" = some true then .error (0, versionText, "")
    else
      let level := (textFlag given "log-level").getD "info"
      if !Level.isValidName level then
        .error (2, "", "Error: invalid log level " ++ Text.quote level ++
          " (must be debug, info, warn, or error)\n")
      else
        match rest with
        | [program] =>
          -- `-c` and `-config` set the same option; the one given last wins
          let configPath := (given.filter fun (n, _) ↦ n = "c" ∨ n = "config").getLast?.bind
            fun (_, v) ↦ match v with
              | .text s => some s
              | _ => none
          .ok { configPath := configPath.getD "", program := program,
                overrides := overridesOf given, watch := (switchFlag given "watch").getD false }
        | _ => .error (2, "", usage)

/-- Runs the command with its arguments, the environment and the file system seen from the
directory `cwd`; `id` names the session. -/
def runCommand (id : String) (fs : FileSystem) (cwd : String) (environ args : List String) :
    Ending :=
  match parseArgs args with
  | .error (code, out, err) => .exit code out err
  | .ok opts =>
    match bootstrap id fs cwd { opts with environ := environ } with
    | .error f => .exit 1 "" ("Error: failed to initialize: " ++ Text.decodeLossy f.message ++ "\n")
    | .ok app =>
      match app.run with
      | (_, .error f) => .exit 1 "" ("Error: " ++ Text.decodeLossy f.message ++ "\n")
      | (app, .ok ()) => .serve app

end LuaDebugger.App
