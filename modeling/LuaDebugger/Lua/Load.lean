import LuaDebugger.Lua.Parser
import LuaDebugger.Lua.Compiler
import LuaDebugger.Lua.State
/-!
# Loading chunks

A chunk of source text becomes a function in two stages: the parser reads its statements,
the compiler turns them into a prototype. A refusal of either stage is a message naming
the chunk: the parser's `<name> line:…(column:…) near '…': …` or the compiler's
`compile error near line(…) <name>: …`.
-/

namespace LuaDebugger.Lua

/-- Compiles the chunk `src` called `name`, or gives the message of its refusal. -/
def loadChunk (src : ByteArray) (name : String) : Except ByteArray Proto :=
  match parseChunk src with
  | .error e => .error (e.render name)
  | .ok body =>
    match compileChunk name body with
    | .error e => .error (e.render name).toUTF8
    | .ok p => .ok p

namespace Machine

/-- Adds a function of a compiled chunk with the globals as environment. -/
def newChunkFunction (m : Machine) (p : Proto) : Machine × Value :=
  let (h, i) := m.heap.newFn (.closure { proto := p, upvalues := #[], env := m.globals })
  ({ m with heap := h }, .fn i)

end Machine

end LuaDebugger.Lua
