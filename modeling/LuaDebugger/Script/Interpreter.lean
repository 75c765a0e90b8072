import LuaDebugger.Lua.Open
import LuaDebugger.Lua.Export
/-!
# An interpreter for the debugger

An `Interpreter` is a machine with the standard libraries that can be closed once. Running
a chunk loads it under a name and calls it: the chunk's results, or the text of the load
error or of the error value it raised (`<string>:1: boom`, `table: 0x…`).
-/

namespace LuaDebugger.Script

open Lua

/-- An interpreter that can be closed. -/
structure Interpreter where
  machine : Machine
  closed : Bool := false
  deriving Inhabited

namespace Interpreter

/-- The text of closing an interpreter twice. -/
def closedMessage : String := "lua state is closed"

/-- A fresh interpreter; `system` opens `io` and `os`. -/
def new (system : Bool := false) : Interpreter := { machine := Machine.standard system }

/-- Closes the interpreter; closing it again fails. -/
def close (i : Interpreter) : Interpreter × Option String :=
  if i.closed then (i, some closedMessage) else ({ i with closed := true }, none)

/-- Loads and runs a chunk called `name`: its results, or the text of its error. -/
def runChunk (m : Machine) (src : ByteArray) (name : String) : Machine × Except ByteArray (Array Value) :=
  match loadChunk src name with
  | .error msg => (m, .error msg)
  | .ok p =>
    let (m, f) := m.newChunkFunction p
    match m.callFromHost f #[] with
    | (m, .done vals) => (m, .ok vals)
    | (m, .failed e _) => (m, .error (Heap.textBytes e))
    | (m, .hook ..) => (m, .ok #[])
    | (m, .exhausted) => (m, .error "execution took too long".toUTF8)

/-- Runs a chunk called `<string>`. -/
def run (i : Interpreter) (src : ByteArray) : Interpreter × Except ByteArray (Array Value) :=
  let (m, r) := runChunk i.machine src "<string>"
  ({ i with machine := m }, r)

end Interpreter

end LuaDebugger.Script
