import LuaDebugger.Lua.Table
import LuaDebugger.Lua.Code
import LuaDebugger.Lua.Pattern
/-!
# The heap

Every table, function, cell and coroutine lives in the heap under an index that never
changes, so a value refers to an object by that index. A function is either a closure (a
compiled prototype, the cells of its upvalues and its environment table) or one of the
built-in functions, named by `Native`; a built-in function may carry data of its own, such
as the coroutine a wrapper resumes.

`Heap.text` is the text of a value without metamethods: `nil`, `true`, a number as
`numberText` writes it, a string as it is, and an object as its kind and address
(`table: 0x…`).
-/

namespace LuaDebugger.Lua

/-- The built-in functions. -/
inductive Native where
  -- the base library
  | assert | collectgarbage | error | getfenv | getmetatable | load | loadfile | loadstring
  | next | pcall | print | rawequal | rawget | rawset | select | printregs | setfenv
  | setmetatable | tonumber | tostring | type | unpack | xpcall | module | require
  | newproxy | ipairs | ipairsStep | pairs
  -- the table library
  | tableGetn | tableConcat | tableInsert | tableMaxn | tableRemove | tableSort
  -- the string library
  | strByte | strChar | strDump | strFind | strFormat | strGfind | strGmatch | strGsub
  | strLen | strLower | strMatch | strRep | strReverse | strSub | strUpper
  /-- The iterator `string.gmatch` returns, which reads its matches from its first
  argument. -/
  | gmatchIter
  -- the math library
  | mathAbs | mathCeil | mathCos | mathCosh | mathDeg | mathExp | mathFloor | mathFmod
  | mathFrexp | mathLdexp | mathLog | mathLog10 | mathMax | mathMin | mathMod | mathModf
  | mathPow | mathRad | mathRandom | mathRandomseed | mathSin | mathSinh | mathSqrt
  | mathTan | mathTanh | mathAcos | mathAsin | mathAtan | mathAtan2
  -- the coroutine library
  | coCreate | coYield | coResume | coRunning | coStatus | coWrap
  /-- The function `coroutine.wrap` returns for a coroutine. -/
  | coWrapped (thread : Nat)
  -- the system libraries
  | osClock | osDifftime | osExecute | osExit | osDate | osGetenv | osRemove | osRename
  | osSetenv | osSetlocale | osTime | osTmpname
  | ioClose | ioFlush | ioInput | ioLines | ioOpen | ioOutput | ioPopen | ioRead | ioTmpfile
  | ioType | ioWrite
  /-- The step hook of instrumented programs. -/
  | hook
  /-- The `print` of a debugged program, which hands its line to the debugger. -/
  | emit
  /-- Reads a name in a paused frame, then among the globals: thread, frame, and the call
  the frame has in progress. -/
  | frameIndex (thread frame : Nat) (pending : Array Value)
  /-- Writes a name in a paused frame, else among the globals. -/
  | frameNewIndex (thread frame : Nat) (pending : Array Value)
  deriving Inhabited

/-- A function written in the script. -/
structure Closure where
  proto : Proto
  /-- The cells of the upvalues. -/
  upvalues : Array Nat
  /-- The environment table. -/
  env : Nat
  deriving Inhabited

/-- A function of the heap. -/
inductive FnObj where
  | closure (c : Closure)
  | native (n : Native) (env : Nat)
  deriving Inhabited

namespace FnObj

/-- Whether the function is built in. -/
def isNative : FnObj → Bool
  | .native .. => true
  | .closure _ => false

/-- The environment table of the function. -/
def env : FnObj → Nat
  | .closure c => c.env
  | .native _ e => e

end FnObj

/-- The variable of a slot: a value, or a cell of the heap for a captured variable. -/
inductive Slot where
  | val (v : Value)
  | cell (i : Nat)
  deriving Inhabited

/-- What a userdata object holds. -/
inductive Payload where
  /-- Nothing: an object made by `newproxy`. -/
  | bare
  /-- The state of a `gmatch` iteration: the subject, its matches, and the next one to give. -/
  | iteration (subject : ByteArray) (found : Array Pattern.Match) (next : Nat)
  deriving Inhabited

/-- A userdata object: its metatable and what it holds. -/
structure Userdata where
  metatable : Option Nat := none
  payload : Payload := .bare
  deriving Inhabited

/-- The objects of a machine. -/
structure Heap where
  tables : Array Table := #[]
  fns : Array FnObj := #[]
  cells : Array Value := #[]
  userdata : Array Userdata := #[]
  deriving Inhabited

namespace Heap

/-- Adds a table and returns its index. -/
def newTable (h : Heap) (t : Table := .empty) : Heap × Nat := ({ h with tables := h.tables.push t }, h.tables.size)

/-- Adds a function and returns its index. -/
def newFn (h : Heap) (f : FnObj) : Heap × Nat := ({ h with fns := h.fns.push f }, h.fns.size)

/-- Adds a userdata object and returns its index. -/
def newUserdata (h : Heap) (u : Userdata) : Heap × Nat :=
  ({ h with userdata := h.userdata.push u }, h.userdata.size)

/-- Changes the userdata object at an index. -/
def modifyUserdata (h : Heap) (i : Nat) (f : Userdata → Userdata) : Heap :=
  { h with userdata := h.userdata.modify i f }

/-- Adds a cell holding `v` and returns its index. -/
def newCell (h : Heap) (v : Value) : Heap × Nat := ({ h with cells := h.cells.push v }, h.cells.size)

/-- The table at an index. -/
def table (h : Heap) (i : Nat) : Table := h.tables.getD i .empty

/-- Changes the table at an index. -/
def modifyTable (h : Heap) (i : Nat) (f : Table → Table) : Heap :=
  { h with tables := h.tables.modify i f }

/-- The function at an index. -/
def fn (h : Heap) (i : Nat) : FnObj := h.fns.getD i (.native .print 0)

/-- The value in a cell. -/
def cell (h : Heap) (i : Nat) : Value := h.cells.getD i .nil

/-- Writes a cell. -/
def setCell (h : Heap) (i : Nat) (v : Value) : Heap := { h with cells := h.cells.set! i v }

/-- Reads a slot variable. -/
def read (h : Heap) : Slot → Value
  | .val v => v
  | .cell i => h.cell i

/-- The address an object is shown at. -/
def address (kind id : Nat) : String :=
  "0x" ++ String.ofList (Nat.toDigits 16 (0xc000010000 + id * 0x60 + kind * 0x8))

/-- The text of a value without metamethods. -/
def text (v : Value) : String :=
  match v with
  | .nil => "nil"
  | .bool b => if b then "true" else "false"
  | .number x => numberText x
  | .str s => String.fromUTF8? s |>.getD (latinText s.toList)
  | .table i => "table: " ++ address 0 i
  | .fn i => "function: " ++ address 1 i
  | .thread i => "thread: " ++ address 2 i
  | .userdata i => "userdata: " ++ address 3 i

/-- The bytes of the text of a value without metamethods; a string is its own bytes. -/
def textBytes (v : Value) : ByteArray :=
  match v with
  | .str s => s
  | v => (text v).toUTF8

end Heap

end LuaDebugger.Lua
