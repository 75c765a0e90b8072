import LuaDebugger.Config.Layers
import LuaDebugger.Config.Check
import LuaDebugger.Config.Environment
import LuaDebugger.Config.Watcher
import LuaDebugger.Config.Toml.Document
import LuaDebugger.Config.Yaml.Decode
import LuaDebugger.Log.Journal
import LuaDebugger.Path
/-!
# The configuration

A configuration is a stack of layers, one per source, merged in the order of their
priority: the built-in defaults, the configuration file, the environment and the command
line. It reads its file from a file system handed to each step.

* `load` lays down the defaults, the file (a missing file is no fault) and the environment,
  then validates the merged settings; the layers stay even when validation fails. With
  watching on, the first successful load starts a watcher of the file.
* `set` writes one setting into the command line's layer; once loaded, a change that fails
  validation is taken back.
* `reload` reads the file again, or drops its layer when the file is gone; a file that does
  not read or validate leaves the previous layer in place.
* Every accepted change of the merged settings is delivered to the subscriptions whose path
  covers it, change by change, in path order. The edit itself holds the configuration's lock
  (`commit`); the delivery comes after the lock is released.
* When the watcher fires, the configuration logs the event and reloads, logging a failed
  reload instead of returning it.

A file is read by its extension: `.toml`, or `.yaml` and `.yml`, in any case.
-/

namespace LuaDebugger.Config

/-- The state of a configuration. -/
structure Store where
  /-- The layers, lowest priority first, with the cache of their merge. -/
  layers : LayerSet := {}
  /-- The subscriptions by number, each with the path it watches; `""` watches all. -/
  subscriptions : List (Nat × String) := []
  /-- The number of the next subscription. -/
  nextId : Nat := 0
  /-- The configuration file as given, `""` for none. -/
  path : String := ""
  /-- The directory relative paths are taken from. -/
  cwd : String := "/"
  /-- The environment, as `NAME=value` entries. -/
  environ : List String := []
  /-- Whether the file is watched once loaded. -/
  watch : Bool := false
  /-- The watcher's quiet period, in milliseconds. -/
  debounce : Nat := 100
  /-- The watcher, once started. -/
  watcher : Option Watcher := none
  /-- Whether a load has succeeded. -/
  loaded : Bool := false
  /-- The logger of the configuration. -/
  logger : Logger := ({} : Logger).withComponent "config"
  /-- The log the configuration writes to. -/
  journal : Journal := Journal.silent
  /-- The changes delivered so far, each with the subscription it went to. -/
  delivered : Array (Nat × Change) := #[]

/-- A step on a configuration, which may fail with a fault and keeps the state it reached. -/
abbrev Action := ExceptT ConfigFault (StateM Store)

/-- Reads a configuration file's text by the file's extension. -/
def parseFile (path : String) (bytes : ByteArray) : Except ConfigFault Tree :=
  match Text.lowerEach (Path.extension path) with
  | ".toml" =>
    match Toml.decode bytes with
    | .ok t => .ok t
    | .error (line, message) => .error (.unparsable path line message)
  | ".yaml" | ".yml" =>
    match Yaml.decode bytes with
    | .ok t => .ok t
    | .error message => .error (.unparsable path 0 message)
  | _ => .error (.unsupported path)

/-- Reads the configuration file `path`, taken from `cwd`: its settings, or none when it does
not exist. -/
def loadFile (fs : FileSystem) (cwd path : String) : Except ConfigFault (Option Tree) :=
  match fs.read (Path.absolute cwd path) with
  | .error f => if f.isMissing then .ok none else .error (.unreadable path { f with path })
  | .ok bytes => (parseFile path bytes).map some

namespace Store

/-- The settings of a source's layer. -/
def layerData (s : Store) (source : Source) : Option Tree :=
  (s.layers.get source).map (·.data)

/-- The merged settings of all layers. -/
def merged (s : Store) : Tree := LayerSet.mergeAll s.layers.layers

/-- The sources of the layers, lowest priority first. -/
def sources (s : Store) : List Source := s.layers.sources

/-- Sets the layer of a source. -/
def putData (source : Source) (data : Tree) : Action Unit :=
  modify fun s ↦ { s with layers := s.layers.put ⟨source, data⟩ }

/-- Drops the layer of a source. -/
def dropData (source : Source) : Action Unit :=
  modify fun s ↦ { s with layers := (s.layers.remove source).2 }

/-- The merged settings through the cache of the layers, which it refreshes when stale. -/
def mergeLayers : Action Tree := do
  let s ← get
  let (t, layers) := s.layers.merge
  set { s with layers }
  pure t

/-- Puts back a layer as it was: its settings, or no layer. -/
def restore (source : Source) : Option Tree → Action Unit
  | some data => putData source data
  | none => dropData source

/-- Writes a line to the configuration's log. -/
def log (level : Level) (fmt : String) (args : List Datum) : Action Unit :=
  modify fun s ↦ { s with journal := s.journal.writef s.logger level fmt args }

/-- Delivers changes to the subscriptions that cover them. -/
def deliver (changes : List Change) : Action Unit :=
  modify fun s ↦ { s with delivered := s.delivered ++ (routes s.subscriptions changes).toArray }

/-- Fails with a fault. -/
def fail {α : Type} (f : ConfigFault) : Action α := throw f

/-- The result of a reading, or its fault. -/
def lift {α : Type} : Except ConfigFault α → Action α
  | .ok v => pure v
  | .error f => fail f

/-- Lays down the defaults, the file (a missing file is no fault) and the environment. -/
def layDown (fs : FileSystem) : Action Unit := do
  putData .builtin defaults
  let s ← get
  if s.path ≠ "" then
    match ← lift (loadFile fs s.cwd s.path) with
    | some data =>
      putData .file data
      log .debug "loaded config file %s" [.text s.path]
    | none => log .debug "config file %s not found, using defaults" [.text s.path]
  let env := environment s.environ
  if !env.isEmpty then putData .environment env

/-- Validates the merged settings. -/
def check : Action Unit := do
  if let some f := validate (← mergeLayers) then fail f

/-- Starts the watcher of the file, when watching is on and none runs yet. -/
def startWatching (fs : FileSystem) : Action Unit := do
  let s ← get
  if s.watch && s.path ≠ "" && s.watcher.isNone then
    match Watcher.start fs (Path.absolute s.cwd s.path) s.debounce with
    | .error p => fail (.unwatchable s.path p)
    | .ok w => set { s with watcher := some w }

/-- Loads the configuration from all sources and validates it; with watching on, starts
the watcher. -/
def load (fs : FileSystem) : Action Unit := do
  layDown fs
  check
  startWatching fs
  modify fun s ↦ { s with loaded := true }

/-- The part of an edit that holds the configuration's lock: changes the layers by
`change`, a change of the layer of `source`, and gives the changes of the merged settings.
When `checked`, a change whose merged settings fail validation is taken back: the layer of
`source` is restored as it was and the fault returned. -/
def commit (source : Source) (change : LayerSet → LayerSet) (checked : Bool) :
    Action (List Change) := do
  let before ← mergeLayers
  let previous := (← get).layerData source
  modify fun s ↦ { s with layers := change s.layers }
  let after ← mergeLayers
  if checked then
    if let some f := validate after then
      restore source previous
      fail f
  pure (diff before after source)

/-- Changes the layers by `change` under the lock, then, with the lock released, delivers the
changes of the merged settings. -/
def update (source : Source) (change : LayerSet → LayerSet) (checked : Bool) : Action Unit := do
  deliver (← commit source change checked)

/-- The locked part of a reload: reads the file again, and a file that is gone drops its
layer. A fault leaves the previous layer in place. -/
def reloadCommit (fs : FileSystem) : Action (List Change) := do
  let s ← get
  if s.path = "" then return []
  match ← lift (loadFile fs s.cwd s.path) with
  | none => commit .file (fun layers ↦ (layers.remove .file).2) true
  | some d => commit .file (·.put ⟨.file, d⟩) true

/-- Reads the file again and delivers the changes. -/
def reload (fs : FileSystem) : Action Unit := do
  deliver (← reloadCommit fs)

/-- The locked part of setting one setting in the command line's layer; once loaded, a
setting that fails validation is taken back. -/
def setCommit (path : String) (v : Datum) : Action (List Change) := do
  let s ← get
  match ((s.layerData .arguments).getD []).set? path v with
  | none => fail .invalidPath
  | some data => commit .arguments (·.put ⟨.arguments, data⟩) s.loaded

/-- Sets one setting and delivers the changes. -/
def setValue (path : String) (v : Datum) : Action Unit := do
  deliver (← setCommit path v)

/-- Subscribes to the changes at or below a path, `""` for all: the subscription's number. -/
def subscribe (path : String) : Action Nat := do
  let s ← get
  set { s with subscriptions := s.subscriptions ++ [(s.nextId, path)], nextId := s.nextId + 1 }
  pure s.nextId

/-- Ends a subscription. -/
def unsubscribe (id : Nat) : Action Unit :=
  modify fun s ↦ { s with subscriptions := s.subscriptions.filter (·.1 != id) }

/-- Stops the watcher, if any. -/
def close : Action Unit :=
  modify fun s ↦ { s with watcher := none }

/-- Tells the watcher of a change to the file at the absolute path `path`. -/
def notice (path : String) (change : FileChange) : Action Unit :=
  modify fun s ↦ { s with watcher := s.watcher.map (·.notice path change) }

/-- Handles an event of the watcher: logs it and reloads, logging a failed reload. -/
def handleChange (fs : FileSystem) (change : FileChange) : Action Unit := do
  let s ← get
  log .info "config file %s: %s" [.text change.name, .text (Path.absolute s.cwd s.path)]
  tryCatch (reload fs) fun f ↦ log .error "reloading config: %v" [.text f.message]

/-- Lets `ms` milliseconds pass: the watcher's waiting change fires when they cover its
quiet period. True when an event fired. -/
def elapse (fs : FileSystem) (ms : Nat) : Action Bool := do
  let s ← get
  match s.watcher with
  | none => pure false
  | some w =>
    let (event, w) := w.wait ms
    set { s with watcher := some w }
    match event with
    | none => pure false
    | some change =>
      handleChange fs change
      pure true

end Store

end LuaDebugger.Config
