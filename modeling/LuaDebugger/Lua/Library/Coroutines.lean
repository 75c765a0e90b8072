import LuaDebugger.Lua.Native
/-!
# The coroutine library

A coroutine is a `Thread` of the machine with its own frames. `create` makes one that has
not started, `resume` and the functions of `wrap` run it until it yields, returns or fails,
and `yield` hands values back to the coroutine that resumed the running one. The switching
itself is the machine's; these functions only ask for it.

`status` names the state of a coroutine as seen from the running one: `running` for itself,
`normal` for the one that resumed it, `dead` after it ended, else `suspended`.
-/

namespace LuaDebugger.Lua

namespace Coroutines

open NativeM

/-- Adds a coroutine that will run `body`. -/
def spawn (body : Value) (wrapped : Bool) : NativeM Nat := do
  let m ← get
  let t := m.threads.size
  set { m with threads := m.threads.push { body := some body, wrapped := wrapped } }
  pure t

/-- `coroutine.create(f)`. -/
def create (args : Array Value) : NativeM Outcome := do
  let f ← checkFunction args 1
  ret1 (.thread (← spawn (.fn f) false))

/-- `coroutine.wrap(f)`: a function that resumes a new coroutine. -/
def wrap (args : Array Value) : NativeM Outcome := do
  let f ← checkFunction args 1
  let t ← spawn (.fn f) true
  let (m, g) := (← get).newNative (.coWrapped t)
  set m
  ret1 (.fn g)

/-- `coroutine.resume(co, ...)`. -/
def resume (args : Array Value) : NativeM Outcome := do
  let t ← checkThread args 1
  pure (.resume t (args.extract 1 args.size) false)

/-- `coroutine.yield(...)`. -/
def yield (args : Array Value) : NativeM Outcome := pure (.yield args)

/-- `coroutine.running()`: the running coroutine, `nil` in the main one. -/
def running (_args : Array Value) : NativeM Outcome := do
  let m ← get
  if m.current = 0 then ret1 .nil else ret1 (.thread m.current)

/-- `coroutine.status(co)`. -/
def status (args : Array Value) : NativeM Outcome := do
  let t ← checkThread args 1
  let m ← get
  let th := m.threads.getD t {}
  let name :=
    if th.status = .dead then "dead"
    else if t = m.current then "running"
    else if m.thread.resumer = some t then "normal"
    else "suspended"
  ret1 (.ofString name)

end Coroutines

end LuaDebugger.Lua
