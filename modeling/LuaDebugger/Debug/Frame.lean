import LuaDebugger.Path
/-!
# Frames of the call stack as the client sees them

A frame lists the statements of its function and points at the one being executed. The
pointer is clamped into the list, so a frame with statements always has a current one. The
client sees the stack innermost first, without the outermost frame, which belongs to the
hook that reported the stop. A variable of the current scope is shown by name, type and the
text of its value.
-/

namespace LuaDebugger

/-- A statement: a line of a file. -/
structure Statement where
  /-- The file, by identity. -/
  file : FileId
  /-- The line, counted from one. -/
  line : Int
  deriving DecidableEq, Repr, Inhabited

/-- A frame of the call stack. -/
structure Frame where
  /-- The statements of the frame's function, in line order. -/
  statements : Array Statement := #[]
  /-- The position of the current statement in `statements`. -/
  current : Int := 0
  /-- The name of the function, as the listing shows it. -/
  signature : String := ""
  deriving Repr, Inhabited

namespace Frame

/-- The statement being executed, the position clamped into the list. -/
def currentStatement? (f : Frame) : Option Statement :=
  if f.statements.size = 0 then none
  else
    let i := if f.current ≥ f.statements.size then f.statements.size - 1
      else if f.current < 0 then 0 else f.current.toNat
    f.statements[i]?

end Frame

/-- A variable of the current scope as the client sees it. -/
structure Variable where
  /-- The name of the variable. -/
  name : ByteArray
  /-- The name of the type of its value. -/
  type : String
  /-- The text of its value. -/
  value : ByteArray
  deriving Inhabited, DecidableEq

/-- The frames a client sees, innermost first: all but the first of `stack`, reversed. -/
def visibleFrames (stack : List Frame) : List Frame := (stack.drop 1).reverse

end LuaDebugger
