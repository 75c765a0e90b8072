import LuaDebugger.Script.Engine
import LuaDebugger.Lua.Inspect
import LuaDebugger.Debug.Frame
import LuaDebugger.Protocol.Dispatcher
/-!
# Inspecting a paused program

What the engine shows of its program, read on the main coroutine while the program does
not execute:

* `scopeFrames`: the frames of loaded programs from the innermost out, walking the levels of
  the stack (a frame that made tail calls counting once more for each of them, a level among
  those counts standing for the bottom frame), up to the main chunk; the listing starts with
  the global frame. A frame shows the statements of its function and the first of them at or
  after its current line; the main chunk is `<principal>`, a function without a plain name
  `<anônima>`;
* `variableList`: the locals of the innermost program frame, then the globals the program
  defined, sorted;
* `readVariable`: a local or upvalue of that frame, else a global;
* `evaluate`: runs a line of code, as an expression when it reads as one, in an environment
  that reads and writes the frame's variables before the globals.

A step report while evaluating is checked as the program's own are. An inspection runs only
on a program that does not execute, so then none pauses; an inspection queued before a
command starts the program and run after it can park its line at a pause.
-/

namespace LuaDebugger.Script

open Lua (Machine Value Stop Heap LuaFrame)

namespace Engine

/-- Checks that the program can be inspected: the engine runs and the program does not
execute. -/
def inspectable (e : Engine) : Except EngineFault Unit :=
  if !e.started then .error .notStarted
  else if e.session.state.executing then .error .running
  else .ok ()

/-- The frames of the main coroutine. -/
def mainFrames (e : Engine) : Array Lua.Frame := e.machine.framesOf 0

/-- The program a frame of the main coroutine runs, if it is a script frame of a loaded
program. -/
def programFrame? (e : Engine) (pos : Nat) : Option (Program × LuaFrame) :=
  match e.mainFrames[pos]? with
  | some (.lua f) => (e.programAtPath? f.closure.proto.source).map fun p ↦ (p, f)
  | _ => none

/-- The positions of the frames at the levels of the main coroutine's stack, innermost
first. -/
def levelPositions (e : Engine) : List Nat :=
  let fs := e.mainFrames
  (List.range (Machine.depth fs)).filterMap (Machine.stackLevel fs)

/-- The call a frame of the main coroutine has in progress: the function of the frame above
it, with the arguments of the step report when that frame is the paused step hook. -/
def pendingCall (e : Engine) (pos : Nat) : Array Value :=
  let fs := e.mainFrames
  match fs[pos + 1]? with
  | some (.native nf) =>
    let args := if pos + 2 = fs.size ∧ e.machine.current = 0 then e.suspended.getD #[] else #[]
    #[.fn nf.fn] ++ args
  | some (.lua g) => #[.fn g.fn]
  | none => #[]

/-- The innermost frame of a loaded program on the main coroutine: its position, the frame
and its call in progress. -/
def topFrame? (e : Engine) : Option (Nat × LuaFrame × Array Value) :=
  e.levelPositions.findSome? fun pos ↦
    (e.programFrame? pos).map fun (_, f) ↦ (pos, f, e.pendingCall pos)

/-- The client's view of a frame of a loaded program at position `pos`. -/
def frameView (e : Engine) (p : Program) (pos : Nat) (f : LuaFrame) : LuaDebugger.Frame :=
  let proto := f.closure.proto
  let isMain := pos = 0
  let first := if isMain then 0 else proto.lineDefined
  let name := (Machine.frameName e.mainFrames true pos).1
  let signature := if isMain then "<principal>"
    else if name = "" ∨ name.startsWith "<" then "<anônima>" else name
  let stmts := p.statementsIn first proto.lastLineDefined
  let line := (Lua.Frame.lua f).currentLine
  { statements := stmts.toArray
    current := (stmts.findIdx? (·.line ≥ line)).getD stmts.length
    signature }

/-- The frames of the loaded programs, outermost first, after the global frame. -/
def scopeFrames (e : Engine) : List LuaDebugger.Frame :=
  let rec walk : List Nat → List LuaDebugger.Frame → List LuaDebugger.Frame
    | [], acc => acc
    | pos :: rest, acc =>
      match e.programFrame? pos with
      | none => walk rest acc
      | some (p, f) =>
        let acc := e.frameView p pos f :: acc
        if pos = 0 then acc else walk rest acc
  { signature := "<global>" } :: walk e.levelPositions []

/-- Byte strings in the order of their bytes. -/
def bytesLe (a b : ByteArray) : Bool := decide (a.toList ≤ b.toList)

/-- A variable as the listing shows it: its name, the name of its type and the text of its
value. -/
def shownVariable (m : Machine) (name : ByteArray) (v : Value) : Variable :=
  ⟨name, v.typeName, m.format v⟩

/-- A local as the listing shows it, from what its register holds. A register that was never
written holds no value at all, and naming the type of nothing is a read through nil: the
listing panics, and the executor reports the panic. -/
def registerVariable (m : Machine) (name : ByteArray) : Option Value → Except EngineFault Variable
  | some v => .ok (shownVariable m name v)
  | none => .error (.panicked nilDereference)

/-- The locals of the innermost program frame, as the listing shows them. -/
def localList (e : Engine) : Except EngineFault (List Variable) :=
  match e.topFrame? with
  | none => pure []
  | some (_, f, pending) =>
    (e.machine.locals f pending).mapM fun (name, _, v) ↦ registerVariable e.machine name.toUTF8 v

/-- The globals the program defined, but for the built-in ones and those named in `seen`,
sorted by name. -/
def globalList (e : Engine) (seen : List ByteArray) : List Variable :=
  let m := e.machine
  let globals := ((m.table m.globals).entries.filterMap fun (k, v) ↦ match k with
    | .str s => if e.builtins.contains s ∨ seen.contains s then none else some (s, v)
    | _ => none).mergeSort fun a b ↦ bytesLe a.1 b.1
  globals.map fun (s, v) ↦ shownVariable m s v

/-- The variables of the current scope: the locals of the innermost program frame, then the
globals the program defined that no local hides, sorted by name. -/
def variableList (e : Engine) : Except EngineFault (List Variable) := do
  let locals ← e.localList
  pure (locals ++ e.globalList (locals.map (·.name)))

/-- The value of a name: a local or upvalue of the innermost program frame, else a global
that is not `nil`. -/
def readVariable (e : Engine) (name : ByteArray) : Except EngineFault Datum :=
  let m := e.machine
  let local? := e.topFrame?.bind fun (_, f, pending) ↦ m.lookup f pending (Text.decodeLossy name)
  match local? with
  | some v => .ok (m.toDatum v)
  | none =>
    match (m.table m.globals).rawGetStr name with
    | .nil => .error (.undefinedVariable name)
    | v => .ok (m.toDatum v)

/-- Where a call on the main coroutine ended: it returned, with its results or the text of
its error, or it was parked at a step report where the program should stop, the program
paused inside it. -/
inductive Called where
  | returned (result : Except ByteArray (Array Value))
  | parked

/-- Calls a function on the main coroutine above whatever the program has there. A step
report on the way is checked as the program's own are: where the program should stop, the
call is parked there, the program paused inside it and the machine left in the middle of the
call; elsewhere the report returns at once and the call runs on to its results or its
error. -/
def callOnMain (e : Engine) (f : Value) : Engine × Called :=
  let back := e.machine.current
  let (m, stop) := (e.machine.switchTo 0).callFromHost f #[]
  let rec settle : Nat → Engine → Stop → Engine × Called
    | 0, e, _ => (e, .returned (.error "execution did not end".toUTF8))
    | fuel + 1, e, stop =>
      let goOn (e : Engine) : Engine × Called :=
        let (m, s) := e.machine.resumeRun
        settle fuel { e with machine := m } s
      match stop with
      | .hook index line args =>
        match e.programAt? index with
        | none => goOn e
        | some p =>
          let atBreakpoint := e.registry.has p.id line
          let depth := Machine.depth e.machine.frames
          if e.shouldStop depth atBreakpoint then
            match e.pause depth atBreakpoint with
            | .ok e => ({ e with suspended := some args }, .parked)
            | .error f => goOn (e.note .warn ("pause rejected: " ++ f.message).toUTF8)
          else goOn e
      | .done vals => (e, .returned (.ok vals))
      | .failed err _ => (e, .returned (.error (Heap.textBytes err)))
      | .exhausted => (e, .returned (.error "execution did not end".toUTF8))
  match settle hookFuel { e with machine := m } stop with
  | (e, .returned r) => ({ e with machine := e.machine.switchTo back }.collectOutput, .returned r)
  | (e, .parked) => (e.collectOutput, .parked)

/-- The environment of an evaluation in the innermost program frame: a table whose
metatable reads and writes the frame's variables before the globals. -/
def frameEnv (e : Engine) : Engine × Option Nat :=
  match e.topFrame? with
  | none => (e, none)
  | some (pos, _, pending) =>
    let m := e.machine
    let (m, get) := m.newNative (.frameIndex 0 pos pending)
    let (m, put) := m.newNative (.frameNewIndex 0 pos pending)
    let events : Lua.Table := ((Lua.Table.empty.rawSetStr "__index".toUTF8 (.fn get)).rawSetStr
      "__newindex".toUTF8 (.fn put))
    let (m, mt) := m.newTable events
    let (m, env) := m.newTable { Lua.Table.empty with metatable := some mt }
    ({ e with machine := m }, some env)

/-- The chunk a line of code loads as: `return <src>` when that loads, else the line as it
stands. -/
def loadLine (src : ByteArray) : Except ByteArray Lua.Proto :=
  match Lua.loadChunk ("return ".toUTF8 ++ src) "<string>" with
  | .ok p => .ok p
  | .error _ => Lua.loadChunk src "<string>"

/-- Gives a chunk function the environment of the paused frame, when there is one. -/
def withFrameEnv (e : Engine) (env : Option Nat) (f : Value) : Engine :=
  match env, f with
  | some t, .fn i => { e with machine := Lua.Base.setEnv e.machine i t }
  | _, _ => e

/-- The function of a loaded line, in the environment of the paused frame when there is
one. -/
def lineFunction (e : Engine) (proto : Lua.Proto) : Engine × Value :=
  let made := e.machine.newChunkFunction proto
  let framed := ({ e with machine := made.1 } : Engine).frameEnv
  (framed.1.withFrameEnv framed.2 made.2, made.2)

/-- Calls the function of a line on the main coroutine: its results as data, or the message
of its failure; nothing yet when the call is parked at a pause. -/
def callLine (e : Engine) (f : Value) : Engine × Option (Except EngineFault (List Datum)) :=
  let called := e.callOnMain f
  (called.1, match called.2 with
    | .returned (.error msg) => some (.error (.evaluation msg))
    | .returned (.ok vals) => some (.ok (vals.toList.map called.1.machine.toDatum))
    | .parked => none)

/-- Runs a line of code in the paused frame: as `return <src>` when that loads, else as it
stands. Gives the results as data, or the message of the failure; nothing yet when the line
is parked at a pause. -/
def evaluate (e : Engine) (src : ByteArray) : Engine × Option (Except EngineFault (List Datum)) :=
  match loadLine src with
  | .error msg => (e, some (.error (.evaluation msg)))
  | .ok proto =>
    let prepared := e.lineFunction proto
    prepared.1.callLine prepared.2

/-- Runs an inspection when the program can be inspected. -/
def inspect {α : Type} (x : StateM Engine (Except EngineFault α)) :
    StateM Engine (Except ByteArray α) := do
  match (← get).inspectable with
  | .error f => pure (.error f.message)
  | .ok () => pure ((← x).mapError EngineFault.message)

end Engine

instance : DebugEngine Engine where
  breakpoints e := e.registry
  setBreakpoints e r := { e with registry := r }
  openFile e id := e.openFile id
  journal e := e.journal
  setJournal e j := { e with journal := j }
  scopeStack := Engine.inspect do pure (.ok (← get).scopeFrames)
  localVariables := Engine.inspect do pure (← get).variableList
  executeLine src := Engine.inspect do
    let (e, r) := (← get).evaluate src
    set e
    -- a line parked at a pause has no answer yet; an inspection made alone runs only on a
    -- program that is not executing, where no line is parked
    pure (r.getD (.error .running))
  readVariable name := Engine.inspect do pure ((← get).readVariable name)
  run c := do
    let (e, r) := (← get).resume c
    set e
    pure (r.mapError EngineFault.message)

end LuaDebugger.Script
