import LuaDebugger.Lua.State
/-!
# Reading the variables of a frame

The debugger reads a paused script frame through its registers: first the variables in
scope, one per slot, then the values the frame holds aside while it evaluates (its operand
stack), then the call in progress, `pending`: the function called and its arguments. Past
those a register holds nothing, unless the debugger wrote one.

* the `n`-th variable the debug information lists at the frame's last instruction
  (`Proto.listedAt`) is read from register `n - 1`; when the listing is longer than the
  variables really in scope, the later names read the registers above them;
* `locals` lists the variables in the order they are listed, without the hidden ones (names
  starting with `(`), a name listed twice keeping its first place and taking its latest
  register;
* `lookup` finds a name among those locals, then among the upvalues of the frame's
  function; `assign` writes one the same way, into whichever register the name reads: a
  slot, a value held aside, or a register of the call in progress, which the frame keeps
  written until the call returns (`LuaFrame.held`). A register that holds nothing reads as
  `nil` there.
-/

namespace LuaDebugger.Lua

namespace Machine

/-- The frames of a coroutine, the bottom first. -/
def framesOf (m : Machine) (t : Nat) : Array Frame :=
  if t = m.current then m.frames else (m.threads.getD t {}).frames

/-- Changes a frame of a coroutine. -/
def modifyFrameOf (m : Machine) (t pos : Nat) (f : Frame → Frame) : Machine :=
  if t = m.current then { m with frames := m.frames.modify pos f }
  else m.modifyThread t fun th ↦ { th with frames := th.frames.modify pos f }

/-- The number of variables really in scope at the last instruction of a frame. -/
def liveCount (f : LuaFrame) : Nat := (f.closure.proto.localsAt (f.pc - 1)).length

/-- Register `k` of a paused script frame whose call in progress is `pending`: a variable in
scope, a value held aside, or else a register of the call, where a value the debugger wrote
stands over it; `none` for a register holding nothing. -/
def register (m : Machine) (f : LuaFrame) (pending : Array Value) (k : Nat) : Option Value :=
  if k < liveCount f then some (m.heap.read (f.slots.getD k (.val .nil)))
  else if k < liveCount f + f.stack.size then f.stack[k - liveCount f]?
  else match f.held.find? (·.1 = k) with
    | some (_, v) => some v
    | none => pending[k - liveCount f - f.stack.size]?

/-- The variables listed in a script frame with their positions in the listing (from 1) and
the registers they read, hidden ones included; `none` for a register holding nothing. -/
def scopeLocals (m : Machine) (f : LuaFrame) (pending : Array Value) :
    List (String × Nat × Option Value) :=
  (f.closure.proto.listedAt (f.pc - 1)).zipIdx.map fun (l, k) ↦ (l.name, k + 1, m.register f pending k)

/-- Keeps the first place of each name and its latest register, dropping hidden names. -/
def visibleLocals (ls : List (String × Nat × Option Value)) : List (String × Nat × Option Value) :=
  ls.foldl (fun acc (name, n, v) ↦
    if name.startsWith "(" then acc
    else
      match acc.findIdx? (·.1 = name) with
      | some i => acc.set i (name, n, v)
      | none => acc ++ [(name, n, v)]) []

/-- The local variables of a script frame as the debugger lists them. -/
def locals (m : Machine) (f : LuaFrame) (pending : Array Value) :
    List (String × Nat × Option Value) :=
  visibleLocals (m.scopeLocals f pending)

/-- The value of a name in a script frame: a local, else an upvalue of its function. -/
def lookup (m : Machine) (f : LuaFrame) (pending : Array Value) (name : String) : Option Value :=
  match (m.locals f pending).find? (·.1 = name) with
  | some (_, _, v) => some (v.getD .nil)
  | none =>
    let names := f.closure.proto.upvalueNames
    match names.findIdx? (· = name) with
    | some i => some (m.heap.cell (f.closure.upvalues.getD i 0))
    | none => none

/-- Writes a slot of a frame: through its cell when it has one. -/
def writeSlot (m : Machine) (t pos slot : Nat) (v : Value) : Machine :=
  match (m.framesOf t)[pos]? with
  | some (.lua f) =>
    match f.slots[slot]? with
    | some (.cell c) => { m with heap := m.heap.setCell c v }
    | some (.val _) =>
      m.modifyFrameOf t pos fun fr ↦ match fr with
        | .lua g => .lua { g with slots := g.slots.set! slot (.val v) }
        | other => other
    | none => m
  | _ => m

/-- Writes register `k` of the script frame `f` at `pos` of coroutine `t`: its slot when it
is a variable in scope, the value held aside there, or else the frame keeps the write for
the call in progress. -/
def writeRegister (m : Machine) (t pos : Nat) (f : LuaFrame) (k : Nat) (v : Value) : Machine :=
  if k < liveCount f then m.writeSlot t pos k v
  else
    m.modifyFrameOf t pos fun fr ↦ match fr with
      | .lua g =>
        if k < liveCount f + f.stack.size then .lua { g with stack := g.stack.set! (k - liveCount f) v }
        else .lua { g with held := (k, v) :: g.held }
      | other => other

/-- Assigns a name of the script frame at `pos` of coroutine `t`: a local, written into the
register it reads, else an upvalue of its function; `none` when the frame has no such name. -/
def assign (m : Machine) (t pos : Nat) (pending : Array Value) (name : String) (v : Value) :
    Option Machine :=
  match (m.framesOf t)[pos]? with
  | some (.lua f) =>
    match (m.locals f pending).find? (·.1 = name) with
    | some (_, n, _) => some (m.writeRegister t pos f (n - 1) v)
    | none =>
      match f.closure.proto.upvalueNames.findIdx? (· = name) with
      | some i => some { m with heap := m.heap.setCell (f.closure.upvalues.getD i 0) v }
      | none => none
  | _ => none

end Machine

end LuaDebugger.Lua
