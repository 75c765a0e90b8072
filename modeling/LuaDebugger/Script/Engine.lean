import LuaDebugger.Lua.Open
import LuaDebugger.Lua.Load
import LuaDebugger.Lua.Export
import LuaDebugger.Debug.Program
import LuaDebugger.Debug.Session
import LuaDebugger.Debug.Breakpoint
import LuaDebugger.Log.Journal
import LuaDebugger.FileSystem
/-!
# The debugger engine

An engine runs one program under the debugger. It loads the program's file, instruments it
(a call of the step hook `__depurador_passo` in front of each statement line), and runs it
on an interpreter whose `print` hands its lines to the engine.

The run is a sequence of transitions of the session:

* `launch` starts the program, stepping into its first statement when the engine stops on
  entry, else running freely;
* each call of the step hook asks whether to stop: always when stepping in; at a breakpoint
  or when the call depth is at most (stepping over) or below (stepping out) the depth of the
  last pause; at a breakpoint only when running. The call depth counts the frames of the
  running coroutine, a frame that made tail calls once more for each;
* `resume` starts a paused program again as a client command says, and returns when it
  pauses again or ends; an end by an error is reported as `program failed: <message>`;
* `close` cancels the program: a paused program goes on and fails at its next instruction
  with `context canceled`.

The engine signals its threads with channels: a pause hands the program a fresh channel to
wait on and closes the one the launch or the last command waits on; a command closes the
paused program's channel and waits on a fresh one of its own; the end closes the command's.

Every change of the session, every printed line that no one collects, and the start and
end of the program are written to the log.
-/

namespace LuaDebugger.Script

open Lua (Machine Value Stop Heap)

/-- The name of the step hook that instrumented programs call. -/
def hookName : String := "__depurador_passo"

/-- Why an operation of the engine failed. -/
inductive EngineFault where
  /-- The engine was not started. -/
  | notStarted
  /-- A program was launched already. -/
  | alreadyLaunched
  /-- The program is executing, so it cannot be inspected. -/
  | running
  /-- A name is neither a variable of the paused frame nor a global. -/
  | undefinedVariable (name : ByteArray)
  /-- The program's file could not be read. -/
  | unreadable (fault : FileFault)
  /-- The program does not parse. -/
  | unparsable (fault : ProgramFault)
  /-- The session refused a transition. -/
  | session (fault : SessionFault)
  /-- The program ended with an error, whose message is given. -/
  | programFailed (message : ByteArray)
  /-- Code evaluated for the client failed to load or run, with this message. -/
  | evaluation (message : ByteArray)
  /-- A call on the executor panicked; the executor recovers the panic and reports its
  text. -/
  | panicked (message : ByteArray)
  /-- The client stopped waiting: its context was cancelled before the program stopped. -/
  | canceled

namespace EngineFault

/-- The message of a fault. -/
def message : EngineFault → ByteArray
  | .notStarted => "engine not started".toUTF8
  | .alreadyLaunched => "program already launched".toUTF8
  | .running => "program is running".toUTF8
  | .undefinedVariable n => "undefined variable: ".toUTF8 ++ n
  | .unreadable f => ("read program: " ++ f.message).toUTF8
  | .unparsable f => f.message
  | .session f => f.message.toUTF8
  | .programFailed msg => "program failed: ".toUTF8 ++ msg
  | .evaluation msg => msg
  | .panicked msg => msg
  | .canceled => "context canceled".toUTF8

end EngineFault

/-- The text of the runtime's panic at a read through a nil value. -/
def nilDereference : ByteArray :=
  "runtime error: invalid memory address or nil pointer dereference".toUTF8

/-- How a program ended without finishing. -/
inductive RunFault where
  /-- It raised an error value, whose text is given, at the place the traceback shows. -/
  | raised (message : ByteArray) (traceback : String)
  /-- It could not be loaded. -/
  | refused (fault : EngineFault)
  /-- Its chunk could not be compiled, with this message. -/
  | uncompiled (message : ByteArray)
  /-- It was cancelled before it ran. -/
  | cancelled

namespace RunFault

/-- The message of the fault: the text of the error value alone. -/
def message : RunFault → ByteArray
  | .raised msg _ => msg
  | .refused f => f.message
  | .uncompiled msg => msg
  | .cancelled => "context canceled".toUTF8

/-- The full text of the fault: a raised error is followed by its traceback. -/
def text : RunFault → ByteArray
  | .raised msg tb => msg ++ "\n".toUTF8 ++ tb.toUTF8
  | f => f.message

/-- Whether the fault is the cancellation itself. -/
def isCancel : RunFault → Bool
  | .cancelled => true
  | _ => false

end RunFault

/-- The most step reports a run goes through without pausing. -/
def hookFuel : Nat := 1000000000

/-- The channels the engine signals its threads with, named by numbers: the next name to give
and every close so far, in order. A close names the channel it closes, or is `none` for a
close of the nil channel; closing a closed or a nil channel is a fault of the closer, which
the log keeps visible as a repeated entry or a `none`. -/
structure Channels where
  /-- The name of the next channel made. -/
  next : Nat := 0
  /-- The closes so far, oldest first. -/
  closes : List (Option Nat) := []
  deriving Inhabited

namespace Channels

/-- Makes a channel. -/
def make (c : Channels) : Nat × Channels := (c.next, { c with next := c.next + 1 })

/-- Whether a channel is closed. -/
def isClosed (c : Channels) (ch : Nat) : Bool := c.closes.contains (some ch)

/-- Closes a channel variable, whatever it holds. -/
def close (c : Channels) (ch : Option Nat) : Channels := { c with closes := c.closes ++ [ch] }

/-- Closes a channel unless it is closed already. -/
def closeOpen (c : Channels) (ch : Nat) : Channels :=
  if c.isClosed ch then c else c.close (some ch)

end Channels

/-- What the engine does not decide about a run of its program: what other clients do to the
breakpoints while it runs, and when the client waiting on the run stops waiting. The stops of
the machine the engine handles, at a step report, the return or the failure, are numbered over
the program's life from `1`. -/
structure World where
  /-- The operations other clients make on the breakpoints, in order, while the machine runs
  to its stop number `n`. -/
  edits : Nat → List Registry.Op := fun _ ↦ []
  /-- The number of the stop before which the waiting client's context is cancelled, if it
  is. -/
  cancelBefore : Option Nat := none

namespace World

/-- A run no other client acts on: nobody touches the breakpoints, and the waiting client
waits to the end. -/
def quiet : World := {}

/-- Whether the waiting client's context is cancelled before the stop numbered `n`. -/
def cancelledBefore (w : World) (n : Nat) : Bool :=
  match w.cancelBefore with
  | some k => decide (k ≤ n)
  | none => false

end World

/-- A debugger engine. -/
structure Engine where
  /-- The interpreter. -/
  machine : Machine
  /-- The files programs are read from. -/
  files : FileSystem
  /-- The working directory, against which relative paths are read. -/
  cwd : String
  /-- Whether a launch stops before the first statement. -/
  stopOnEntry : Bool := true
  /-- The stepping state. -/
  session : Session := {}
  /-- The breakpoints. -/
  registry : Registry := {}
  /-- The programs loaded, by index. -/
  programs : Array Program := #[]
  /-- The log the engine shares. -/
  journal : Journal := {}
  /-- The logger of the engine. -/
  logger : Logger := {}
  /-- The names of the globals present before any program ran. -/
  builtins : List ByteArray := []
  /-- Whether printed lines are collected; else each is logged and dropped. -/
  capture : Bool := false
  /-- The printed lines collected, oldest first. -/
  output : Array ByteArray := #[]
  /-- Whether the engine was started. -/
  started : Bool := false
  /-- Whether a program was launched. -/
  launched : Bool := false
  /-- Whether the program has ended. -/
  done : Bool := false
  /-- How the program ended, when it did not finish. -/
  runFault : Option RunFault := none
  /-- The call depth at the last pause. -/
  pausedDepth : Nat := 0
  /-- The call depth a step compares with. -/
  stepDepth : Nat := 0
  /-- The channels made so far; the first, `0`, is the one the launch waits on. -/
  channels : Channels := { next := 1 }
  /-- The channel closed at the next pause or at the end: the launch and each command that
  starts the program wait on it. -/
  stopped : Nat := 0
  /-- The channel the program waits on while it is paused; nil before the first pause. -/
  resumeChannel : Option Nat := none
  /-- While the program is paused in the step hook: the hook's arguments. -/
  suspended : Option (Array Value) := none
  /-- Whether the engine was cancelled. -/
  cancelled : Bool := false
  /-- Whether the engine was closed. -/
  closed : Bool := false
  /-- The number of the last stop of the machine the engine handled. -/
  stops : Nat := 0

namespace Engine

/-- The names of the string keys of the globals. -/
def globalNames (m : Machine) : List ByteArray :=
  (m.table m.globals).entries.filterMap fun (k, _) ↦ match k with
    | .str s => some s
    | _ => none

/-- A new engine reading programs from `files`; `system` gives programs `io` and `os`. Its
interpreter's `print` hands lines to the engine, and the step hook is a global. -/
def new (files : FileSystem) (cwd : String) (journal : Journal) (logger : Logger)
    (stopOnEntry : Bool := true) (system : Bool := false) : Engine :=
  let m := Machine.standard system
  let (m, printFn) := m.newNative .emit
  let m := m.setGlobal "print" (.fn printFn)
  let (m, hookFn) := m.newNative .hook
  let m := m.setGlobal hookName (.fn hookFn)
  { machine := m, files, cwd, stopOnEntry, journal, logger := logger.withComponent "engine",
    builtins := globalNames m }

/-- Writes a line to the log. -/
def note (e : Engine) (level : Level) (msg : ByteArray) : Engine :=
  { e with journal := e.journal.write e.logger level msg }

/-- Moves to a new session state, logging each change of state. -/
def withSession (e : Engine) (s : Session) : Engine :=
  let fresh := (s.changes.extract e.session.changes.size s.changes.size).toList
  let e := fresh.foldl (fun e (a, b) ↦ e.note .debug (s!"session {a.name} -> {b.name}").toUTF8) e
  { e with session := s }

/-- Takes the lines the program printed: collected, or logged and dropped. -/
def collectOutput (e : Engine) : Engine :=
  let lines := e.machine.output
  let e := { e with machine := { e.machine with output := #[] } }
  if e.capture then { e with output := e.output ++ lines }
  else lines.foldl (fun e l ↦ e.note .debug ("output dropped: ".toUTF8 ++ l)) e

/-- Collects printed lines for the server's clients from now on (`true`), or logs and drops
them. -/
def sendOutput (e : Engine) (toClients : Bool) : Engine := { e with capture := toClients }

/-- Starts the engine. -/
def start (e : Engine) : Engine := { e with started := true }

/-- The program loaded from an absolute path, if any. -/
def programAtPath? (e : Engine) (path : String) : Option Program :=
  e.programs.find? (·.path = path)

/-- The program with an index, if any. -/
def programAt? (e : Engine) (index : Int) : Option Program :=
  if index < 0 then none else e.programs[index.toNat]?

/-- The file of an identity among the loaded programs. -/
def openFile (e : Engine) (id : FileId) : Option OpenFile :=
  (e.programs.find? (·.id = id)).map Program.openFile

/-- Loads and instruments the program at `path`; a path loaded before gives the same
program. -/
def load (e : Engine) (path : String) : Engine × Except EngineFault Program :=
  let abs := Path.absolute e.cwd path
  match e.programAtPath? abs with
  | some p => (e, .ok p)
  | none =>
    match e.files.read abs with
    | .error f => (e, .error (.unreadable f))
    | .ok src =>
      match Program.instrument e.cwd e.programs.size abs src with
      | .error f => (e, .error (.unparsable ⟨abs, f⟩))
      | .ok p => ({ e with programs := e.programs.push p }, .ok p)

/-- Records how the program ended, once: the session terminates, the channel that the launch
or the last command waits on is closed, and the log says whether the program finished, was
aborted by a cancellation, or failed. -/
def finish (e : Engine) (fault : Option RunFault) : Engine :=
  if e.done then e
  else
    let e := { e with runFault := fault, done := true, suspended := none }
    let e : Engine :=
      { e.withSession e.session.terminate with channels := e.channels.closeOpen e.stopped }
    match fault with
    | none => e.note .info "program finished".toUTF8
    | some f =>
      if f.isCancel ∨ e.cancelled then
        e.note .debug ("program aborted: ".toUTF8 ++ f.text)
      else e.note .warn ("program failed: ".toUTF8 ++ f.message)

/-- The pause of the program at a step report at call depth `depth`: the session stops, the
depth is kept, the program gets a fresh channel to wait on, and the channel that the launch
or the last command waits on is closed. -/
def pause (e : Engine) (depth : Nat) (atBreakpoint : Bool) : Except SessionFault Engine :=
  match e.session.pause atBreakpoint with
  | .error f => .error f
  | .ok s =>
    let (r, chans) := e.channels.make
    .ok { e.withSession s with
          pausedDepth := depth, resumeChannel := some r, channels := chans.closeOpen e.stopped }

/-- The start of a client command: the session starts the program again, the depth of the
pause becomes the one steps compare with, the command gets a fresh channel to wait on, and
the paused program's channel is closed so that it goes on. -/
def beginCommand (e : Engine) (cmd : Command) : Except SessionFault Engine :=
  match e.session.begin cmd with
  | .error f => .error f
  | .ok s =>
    let (st, chans) := e.channels.make
    .ok { e.withSession s with
          stepDepth := e.pausedDepth, stopped := st, channels := chans.close e.resumeChannel }

/-- Takes the one launch an engine allows. -/
def claimLaunch (e : Engine) : Except EngineFault Engine :=
  if !e.started then .error .notStarted
  else if e.launched then .error .alreadyLaunched
  else .ok { e with launched := true }

/-- Launches the session, stepping into the first statement when the engine stops on entry. -/
def launchSession (e : Engine) : Except SessionFault Engine :=
  match e.session.launch e.stopOnEntry with
  | .error f => .error f
  | .ok s => .ok (e.withSession s)

/-- Whether a step report at call depth `depth` stops the program. -/
def shouldStop (e : Engine) (depth : Nat) (atBreakpoint : Bool) : Bool :=
  match e.session.state with
  | .steppingIn => true
  | .steppingOver => atBreakpoint ∨ depth ≤ e.stepDepth
  | .steppingOut => atBreakpoint ∨ depth < e.stepDepth
  | .running => atBreakpoint
  | _ => false

/-- The engine at the machine's next stop: the stop is counted, and the breakpoints have
taken the operations other clients made on them meanwhile. -/
def arrive (w : World) (e : Engine) : Engine :=
  { e with stops := e.stops + 1, registry := (e.registry.run (w.edits (e.stops + 1))).2 }

/-- Runs the program on from a stop of its machine until it pauses at a step report or
ends, other clients acting as `w` says. -/
def drive (w : World) (e : Engine) (fuel : Nat) (stop : Stop) : Engine :=
  match fuel with
  | 0 => e
  | fuel + 1 =>
    let e := e.collectOutput
    let goOn (e : Engine) : Engine :=
      let (m, s) := e.machine.resumeRun
      drive w { e with machine := m } fuel s
    match stop with
    | .hook index line args =>
      let e := e.arrive w
      match e.programAt? index with
      | none => goOn e
      | some p =>
        let atBreakpoint := e.registry.has p.id line
        let depth := Machine.depth e.machine.frames
        if e.shouldStop depth atBreakpoint then
          match e.pause depth atBreakpoint with
          | .ok e => { e with suspended := some args }
          | .error f => goOn (e.note .warn ("pause rejected: " ++ f.message).toUTF8)
        else goOn e
    | .done _ => (e.arrive w).finish none
    | .failed err tb => (e.arrive w).finish (some (.raised (Heap.textBytes err) tb))
    | .exhausted => e

/-- The error a stepping command reports: the program's failure, once it has ended. -/
def terminalError (e : Engine) : Except EngineFault Unit :=
  match e.session.state, e.runFault with
  | .terminated, some f => .error (.programFailed f.message)
  | _, _ => .ok ()

/-- What the client waiting on a run hears once the program has paused or ended: the
program's failure, or that its own context was cancelled, when that came first. -/
def answerIn (w : World) (e : Engine) : Except EngineFault Unit :=
  if w.cancelledBefore e.stops then .error .canceled else e.terminalError

/-- Runs an instrumented program from its start. -/
def runProgram (w : World) (e : Engine) (p : Program) : Engine :=
  match Lua.loadChunk p.source p.path with
  | .error msg => e.finish (some (.uncompiled msg))
  | .ok proto =>
    let (m, f) := e.machine.newChunkFunction proto
    let (m, s) := m.callFromHost f #[]
    drive w { e with machine := m } hookFuel s

/-- Launches the program at `path`, other clients acting as `w` says. With stop on entry the
launch returns at the first statement and reports a failure of the program before it; else it
returns at once, the program running on to a breakpoint or its end. -/
def launchIn (w : World) (e : Engine) (path : String) : Engine × Except EngineFault Unit :=
  match e.claimLaunch with
  | .error f => (e, .error f)
  | .ok e =>
    match e.load path with
    | (e, .error f) => (e.finish (some (.refused f)), .error f)
    | (e, .ok p) =>
      match e.launchSession with
      | .error f => (e, .error (.session f))
      | .ok e =>
        let e := e.note .info (s!"launching {p.path} ({p.statements.length} statements)").toUTF8
        let e := e.runProgram w p
        (e, if e.stopOnEntry then e.answerIn w else .ok ())

/-- Launches the program at `path` while no other client acts. -/
def launch (e : Engine) (path : String) : Engine × Except EngineFault Unit :=
  e.launchIn .quiet path

/-- Starts the paused program again as `cmd` says and runs it until it pauses or ends, other
clients acting as `w` says. -/
def resumeIn (w : World) (e : Engine) (cmd : Command) : Engine × Except EngineFault Unit :=
  match e.beginCommand cmd with
  | .error f => (e, .error (.session f))
  | .ok e =>
    let e := { e with suspended := none }
    let (m, stop) := e.machine.resumeRun
    let e := drive w { e with machine := m } hookFuel stop
    (e, e.answerIn w)

/-- Starts the paused program again as `cmd` says while no other client acts. -/
def resume (e : Engine) (cmd : Command) : Engine × Except EngineFault Unit :=
  e.resumeIn .quiet cmd

/-- Closes the engine: a paused program is cancelled and runs on to its failure, and a
program that never ran ends as cancelled. -/
def close (e : Engine) : Engine :=
  if e.closed then e
  else
    let e := { e with closed := true }
    let e :=
      if e.started then
        let e := { e with cancelled := true, machine := { e.machine with cancelled := true } }
        match e.suspended with
        | some _ =>
          let e := { e.note .debug "pause interrupted: context canceled".toUTF8 with suspended := none }
          let (m, stop) := e.machine.resumeRun
          drive .quiet { e with machine := m } hookFuel stop
        | none => e
      else e
    e.finish (some .cancelled)

end Engine

end LuaDebugger.Script
