import LuaDebugger.FileSystem
/-!
# Watching a file

A watcher follows one file by its absolute path. It is started on the directory that holds
the file, so the directory must exist; changes to other files are not its concern. Every
change to the file replaces the one waiting, so a burst of changes within the quiet period
(the debounce) gives one event, with the last change: a write for a file created, written,
or renamed onto the path, a removal for one removed or renamed away. A change of mode gives
none. When the period has passed without another change the event fires. A stopped watcher
drops the waiting change and sees no more.
-/

namespace LuaDebugger.Config

/-- The state of a watcher of one file. -/
structure Watcher where
  /-- The absolute path of the file. -/
  path : String
  /-- The quiet period before a change fires, in milliseconds. -/
  debounce : Nat
  /-- The change waiting to fire. -/
  pending : Option FileChange := none
  /-- Whether the watcher was stopped. -/
  stopped : Bool := false
  deriving Inhabited

namespace Watcher

/-- Starts watching the file at the absolute path `path`: its directory must exist. -/
def start (fs : FileSystem) (path : String) (debounce : Nat) : Except FileProblem Watcher :=
  let dir := FileSystem.parent path
  if fs.isDirectory dir then .ok { path, debounce }
  else if fs.isFile dir || fs.blocked dir then .error .notDirectory
  else .error .missing

/-- Takes note of a change to the file at `path`. -/
def notice (w : Watcher) (path : String) (change : FileChange) : Watcher :=
  if w.stopped || path != w.path then w else { w with pending := some change }

/-- Fires the waiting change, if any. -/
def fire (w : Watcher) : Option FileChange × Watcher :=
  if w.stopped then (none, w) else (w.pending, { w with pending := none })

/-- Fires the waiting change when `ms` milliseconds of quiet cover the debounce. -/
def wait (w : Watcher) (ms : Nat) : Option FileChange × Watcher :=
  if ms ≥ w.debounce then w.fire else (none, w)

/-- Stops the watcher, dropping the waiting change. -/
def stop (w : Watcher) : Watcher := { w with stopped := true, pending := none }

end Watcher

end LuaDebugger.Config
