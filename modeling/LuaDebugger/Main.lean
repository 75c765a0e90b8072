import LuaDebugger.App.Command
import LuaDebugger.App.Serve
import Std.Time.Format
/-!
# The `depurador` command

The command reads its arguments and environment, loads the configuration file and the
program it names from disk, and runs the command line of `App.runCommand`. When the
debugger would start listening, it serves one client over its standard streams instead:
each line read from standard input is a command, every answer and every program output
frame goes to standard output, and the end of input says goodbye. The log goes to standard
error, each line stamped with the local time.
-/

open LuaDebugger

/-- The local time as the log shows it, to the millisecond. -/
def logStamp : IO String := do
  let t ← Std.Time.PlainDateTime.now
  return t.format "uuuu-MM-dd'T'HH:mm:ss.SSS"

/-- The environment of the process as `NAME=value` entries, empty where the system does not
list it. -/
def readEnviron : IO (List String) := do
  match ← (IO.FS.readBinFile "/proc/self/environ").toBaseIO with
  | .ok bytes =>
    let entries := (Text.decodeLossy bytes).splitOn (String.singleton (Char.ofNat 0))
    return entries.filter (· ≠ "")
  | .error _ => return []

/-- Whether a path names a directory on disk: reading it fails, and not for want of it. -/
def isDirectoryOnDisk (path : String) : IO Bool := do
  match ← (IO.FS.readBinFile path).toBaseIO with
  | .ok _ => return false
  | .error (.noFileOrDirectory ..) => return false
  | .error _ => return true

/-- The files the command may read, loaded from disk: the given paths that are files, and
the directories on the way to them that exist. -/
def loadFiles (cwd : String) (paths : List String) : IO FileSystem := do
  let mut fs : FileSystem := { dirs := [cwd] }
  for p in paths do
    if p ≠ "" then
      let abs := Path.absolute cwd p
      if let .ok bytes ← (IO.FS.readBinFile abs).toBaseIO then fs := fs.put abs bytes
      for d in FileSystem.ancestors abs do
        if ← isDirectoryOnDisk d then fs := { fs with dirs := fs.dirs ++ [d] }
  return fs

/-- Writes the lines the application and its engine logged since the counts given. -/
def flushLog (a : App.Application) (appFrom engineFrom : Nat) : IO (Nat × Nat) := do
  let stamp ← logStamp
  let err ← IO.getStderr
  err.write (a.config.journal.textFrom appFrom stamp)
  err.write (a.engine.journal.textFrom engineFrom stamp)
  err.flush
  return (a.config.journal.entries.size, a.engine.journal.entries.size)

/-- Writes what the client was sent since `shown` bytes: the count of bytes sent. -/
def showReceived (a : App.Application) (id shown : Nat) : IO Nat := do
  let out ← IO.getStdout
  let received := a.received id
  out.write (received.extract shown received.size)
  out.flush
  return received.size

/-- Serves the client on the standard streams until its input ends or it says goodbye. -/
partial def serveStreams (a : App.Application) (id : Nat) (shown : Nat) (logged : Nat × Nat) :
    IO (App.Application × Nat × Nat × Nat) := do
  let shown ← showReceived a id shown
  let logged ← flushLog a logged.1 logged.2
  let line ← (← IO.getStdin).getLine
  if line.isEmpty then return (a, shown, logged)
  let (lines, _) := App.completeLines line.toUTF8.toList a.server.config.maxLineBytes.toNat
  let (a, more) := lines.foldl (fun (a, more) l ↦ if more then a.answer id l else (a, more)) (a, true)
  if more then serveStreams a id shown logged
  else return (a, ← showReceived a id shown, ← flushLog a logged.1 logged.2)

/-- A fresh random session identifier in the form of a version 4 UUID. -/
def newSessionId : IO String := do
  let digits := "0123456789abcdef".toList
  let mut s := ""
  for i in List.range 32 do
    let d ← IO.rand 0 15
    let d := if i = 12 then 4 else if i = 16 then 8 + d % 4 else d
    if i = 8 ∨ i = 12 ∨ i = 16 ∨ i = 20 then s := s.push '-'
    s := s.push (digits.getD d '0')
  return s

/-- Runs the command. -/
def main (args : List String) : IO UInt32 := do
  let cwd := Path.clean (← IO.currentDir).toString
  let environ ← readEnviron
  let paths := match App.parseArgs args with
    | .ok opts => [opts.configPath, opts.program]
    | .error _ => []
  let fs ← loadFiles cwd paths
  match App.runCommand (← newSessionId) fs cwd environ args with
  | .exit code out err =>
    IO.print out
    IO.eprint err
    return code.toUInt32
  | .serve a =>
    let logged ← flushLog a 0 0
    let (a, client) := a.connect
    let id := client.getD 0
    let (a, shown, logged) ← serveStreams a id 0 logged
    let a := a.shutdown
    let _ ← showReceived a id shown
    let _ ← flushLog a logged.1 logged.2
    return 0
