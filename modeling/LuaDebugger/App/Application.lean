import LuaDebugger.Config.Store
import LuaDebugger.Script.Engine
import LuaDebugger.Server.Listener
/-!
# The application

An application ties the parts of the debugger together: the layered configuration, the
log, the script engine and the protocol server. `bootstrap` builds them in that order, each
from the configuration:

* the configuration is loaded from its file and the environment, and the command line's
  settings are set one by one in the order of their paths; a fault of either stops the
  start as a fault of `config`;
* the log writes from the configured level on;
* the engine pauses on entry and opens the system libraries as configured;
* the server listens where configured and answers unknown commands by its policy, which
  must read, or the start stops as a fault of `server`.

While the application lives, two settings apply at once: a change of `logging.level`
changes the level of the log (a removed level means `info`), and a change of
`server.unknown_commands` to a policy that reads changes the server's policy. Any other
change is logged as needing a restart.

`run` starts the server and launches the program; `shutdown` ends the subscriptions, stops
the server, closes the engine and the configuration, once.
-/

namespace LuaDebugger.App

/-- How an application is set up. -/
structure Options where
  /-- The configuration file, `""` for none. -/
  configPath : String := ""
  /-- The program to debug, `""` for none. -/
  program : String := ""
  /-- Settings from the command line, by dotted path. -/
  overrides : List (String × Datum) := []
  /-- Whether the configuration file is watched. -/
  watch : Bool := false
  /-- The environment, as `NAME=value` entries. -/
  environ : List String := []

/-- A fault of an application. -/
inductive AppFault where
  /-- A part failed to start. -/
  | init (component message : String)
  /-- A part failed while running, in one of its actions. -/
  | component (component action : String) (message : ByteArray)
  /-- There is no program to run. -/
  | noProgram
  /-- The application runs already. -/
  | alreadyRunning

namespace AppFault

/-- The text of a fault. -/
def message : AppFault → ByteArray
  | .init c m => ("init " ++ c ++ ": " ++ m).toUTF8
  | .component c a m => (c ++ ": " ++ a ++ ": ").toUTF8 ++ m
  | .noProgram => "no program to debug".toUTF8
  | .alreadyRunning => "application already running".toUTF8

end AppFault

/-- What a subscription of the application does with a change. -/
inductive Reaction where
  /-- Sets the level of the log. -/
  | level
  /-- Sets the server's policy for unknown commands. -/
  | policy
  /-- Says that the change needs a restart. -/
  | restart
  deriving DecidableEq

/-- The state of an application. -/
structure Application where
  /-- The session's identifier, carried by every line of the log. -/
  id : String
  /-- How it was set up. -/
  options : Options
  /-- The configuration, which also holds the application's log. -/
  config : Config.Store
  /-- The logger of the application. -/
  logger : Logger
  /-- The script engine. -/
  engine : Script.Engine
  /-- The protocol server. -/
  server : Server.Listener
  /-- The subscriptions to the configuration, each with what it does. -/
  subscriptions : List (Nat × Reaction) := []
  /-- How many deliveries of the configuration were handled. -/
  handled : Nat := 0
  /-- Whether `run` was called. -/
  running : Bool := false
  /-- Whether `shutdown` ran. -/
  stopped : Bool := false

/-- The text of a setting's new value, `""` when it is not text. -/
def textOf : Datum → String
  | .text s => s
  | .bytes b => Text.decodeLossy b
  | _ => ""

/-- The server's configuration from the configuration's settings, or the text of a policy
that does not read. -/
def serverConfig (s : Config.ServerSection) : Except String Server.ServerConfig :=
  match UnknownPolicy.parse (textOf s.unknownCommands) with
  | .error v => .error (UnknownPolicy.complaint v)
  | .ok policy =>
    .ok { host := textOf s.host, port := s.port, sendQueue := s.sendQueue,
          maxLineBytes := s.maxLineBytes, writeTimeout := s.writeTimeout, policy := policy }

/-- The server sets where the script engine's program output goes. -/
instance : Server.OutputHook Script.Engine := ⟨Script.Engine.sendOutput⟩

/-- Runs a step on the configuration, keeping the state it reached. -/
def onConfig {α : Type} (st : Config.Store) (a : Config.Action α) :
    Except Config.ConfigFault α × Config.Store :=
  (a.run).run st

/-- Loads the configuration and sets the command line's settings, in the order of their
paths. -/
def loadConfig (fs : FileSystem) (cwd : String) (opts : Options) :
    Except AppFault Config.Store :=
  let st : Config.Store :=
    { path := opts.configPath, cwd := cwd, environ := opts.environ, watch := opts.watch }
  match onConfig st (Config.Store.load fs) with
  | (.error f, _) => .error (.init "config" f.message)
  | (.ok (), st) =>
    let sorted := opts.overrides.mergeSort fun a b ↦ decide (a.1 ≤ b.1)
    sorted.foldlM (fun st (path, v) ↦
      match onConfig st (Config.Store.setValue path v) with
      | (.error f, _) => .error (.init "config" f.message)
      | (.ok (), st) => .ok st) st

/-- Builds an application: the configuration, the log, the engine, the server and the
subscriptions, in order. -/
def bootstrap (id : String) (fs : FileSystem) (cwd : String) (opts : Options) :
    Except AppFault Application := do
  let st ← loadConfig fs cwd opts
  let merged := st.merged
  let journal : Journal := { threshold := Level.parse (textOf merged.logging.level) }
  let logger := ({} : Logger).withField "session" (.text id)
  let st := { st with journal := journal, logger := logger.withComponent "config" }
  let ec := merged.engine
  let engine := Script.Engine.new fs cwd journal logger ec.stopOnEntry ec.systemLibraries
  let sc ← match serverConfig merged.server with
    | .ok sc => pure sc
    | .error m => throw (.init "server" m)
  let server := Server.Listener.new sc
  let (r, st) := onConfig st do
    let level ← Config.Store.subscribe "logging.level"
    let policy ← Config.Store.subscribe "server.unknown_commands"
    let restart ← Config.Store.subscribe ""
    pure [(level, Reaction.level), (policy, .policy), (restart, .restart)]
  let subscriptions := match r with
    | .ok subs => subs
    | .error _ => []
  pure { id := id, options := opts, config := st, logger := logger, engine := engine,
         server := server, subscriptions := subscriptions, handled := st.delivered.size }

namespace Application

/-- Writes a line to the application's log. -/
def log (a : Application) (level : Level) (fmt : String) (args : List Datum) : Application :=
  let j := a.config.journal.writef (a.logger.withComponent "app") level fmt args
  { a with config := { a.config with journal := j } }

/-- Reacts to one delivered change. -/
def react (a : Application) (reaction : Reaction) (c : Config.Change) : Application :=
  match reaction with
  | .level =>
    let s := if c.kind = .delete then "info" else textOf c.new
    let level := Level.parse s
    let a := { a with config := { a.config with journal := { a.config.journal with threshold := level } } }
    a.log .info "log level set to %s" [.text level.name]
  | .policy =>
    match UnknownPolicy.parse (textOf c.new) with
    | .ok p =>
      let a := { a with server := a.server.setPolicy p }
      a.log .info "unknown command policy set to %s" [.text p.name]
    | .error v =>
      a.log .warn "ignoring unknown_commands change: %v" [.text (UnknownPolicy.complaint v)]
  | .restart =>
    if c.path = "logging.level" ∨ c.path = "server.unknown_commands" then a
    else a.log .warn "%s changed to %v; restart to apply" [.text c.path, c.new]

/-- Reacts to the changes delivered since the last reaction. -/
def settle (a : Application) : Application :=
  let fresh := (a.config.delivered.extract a.handled a.config.delivered.size).toList
  let a := { a with handled := a.config.delivered.size }
  fresh.foldl (fun a (id, c) ↦
    match a.subscriptions.lookup id with
    | some r => a.react r c
    | none => a) a

/-- The level of the log. -/
def logLevel (a : Application) : Level := a.config.journal.threshold

/-- Sets one setting of the configuration, as a change on the command line. -/
def set (a : Application) (path : String) (v : Datum) : Application × Option Config.ConfigFault :=
  let (r, st) := onConfig a.config (Config.Store.setValue path v)
  let a := { a with config := st }.settle
  match r with
  | .ok () => (a, none)
  | .error f => (a, some f)

/-- Ends the subscriptions, stops the server, closes the engine and the configuration. Only
the first call acts. -/
def shutdown (a : Application) : Application :=
  if a.stopped then a
  else
    let (_, st) := onConfig a.config do
      for (id, _) in a.subscriptions do Config.Store.unsubscribe id
      Config.Store.close
    let a := { a with config := st, subscriptions := [], stopped := true }
    let (server, engine) := a.server.shutdown a.engine
    let a := { a with server := server, engine := engine.close }
    a.log .info "session ended" []

/-- Starts running: the server starts listening, the operating system answering its listen
with `refusal`, and the program is launched. A fault of either shuts the application down. -/
def run (a : Application) (refusal : Option String := none) : Application × Except AppFault Unit :=
  if a.options.program = "" then (a, .error .noProgram)
  else if a.running then (a, .error .alreadyRunning)
  else
    let a := { a with running := true, engine := a.engine.start }
    match a.server.start a.engine refusal with
    | (_, _, some m) => (a.shutdown, .error (.component "server" "start" m.toUTF8))
    | (server, engine, none) =>
      -- from now on the program's output goes to the server's clients
      let a := { a with server := server, engine := engine }
      let (engine, r) := a.engine.launch a.options.program
      let a := { a with engine := engine }
      match r with
      | .error f => (a.shutdown, .error (.component "engine" "launch" f.message))
      | .ok () => (a, .ok ())

end Application

end LuaDebugger.App
