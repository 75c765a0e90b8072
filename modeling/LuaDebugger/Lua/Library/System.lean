import LuaDebugger.Lua.Native
/-!
# The system libraries

`os` and `io`, opened only when a program may use the system. The debugger keeps programs
away from the machine it runs on, so these functions touch nothing: clocks read zero, the
environment is empty, files cannot be opened, and writes go nowhere.
-/

namespace LuaDebugger.Lua

namespace System

open NativeM

/-- A function that gives `nil`. -/
def nothing (_args : Array Value) : NativeM Outcome := ret1 .nil

/-- A function that gives zero. -/
def zero (_args : Array Value) : NativeM Outcome := ret1 (.number 0)

/-- `os.difftime(t2, t1)`. -/
def difftime (args : Array Value) : NativeM Outcome := do
  let a ← checkNumber args 1
  let b ← optNumber args 2 0
  ret1 (.number (a - b))

/-- `os.getenv(name)`. -/
def getenv (args : Array Value) : NativeM Outcome := do
  let _ ← checkString args 1
  ret1 .nil

/-- A refusal to open or change a file: `nil` and a message. -/
def refuse (args : Array Value) : NativeM Outcome := do
  let name ← checkString args 1
  ret #[.nil, .str (name ++ ": permission denied".toUTF8)]

/-- `io.write(...)`: checks its arguments and writes nothing. -/
def write (args : Array Value) : NativeM Outcome := do
  for k in [1:args.size + 1] do
    let _ ← checkString args k
  ret0

end System

end LuaDebugger.Lua
