import Std.Data.HashSet
import LuaDebugger.Path
/-!
# Breakpoints and the registry that holds them

A breakpoint is a file identity and a line. The registry is an ordered set of them: adding
one that is present changes nothing, removing one keeps the others in their order, and the
listing shows them in the order they were first added. It keeps two views of the set, the
list in insertion order and a hash index; lookups and the checks of adding and removing read
the index, the listing and the count read the list. A breakpoint is only accepted from the
client after validation against the files the debugger has open.
-/

namespace LuaDebugger

/-- A place where execution stops: a line of a file. -/
structure Breakpoint where
  /-- The file, by identity. -/
  file : FileId
  /-- The line, counted from one. -/
  line : Int
  deriving DecidableEq, Hashable, Repr, Inhabited

namespace Breakpoint

/-- The text `hash:line` of a breakpoint. -/
def render (b : Breakpoint) : String := s!"{b.file.hex}:{b.line}"

end Breakpoint

/-- A source file that the debugger knows, with its display lines. -/
structure OpenFile where
  /-- The identity of the file. -/
  id : FileId
  /-- The path under which the file was opened. -/
  path : String
  /-- The lines of the file, the first one at index zero. -/
  lines : Array ByteArray
  deriving Inhabited

namespace OpenFile

/-- The number of lines of the file. -/
def lineCount (f : OpenFile) : Nat := f.lines.size

/-- The line `n` of the file, counted from one. -/
def line? (f : OpenFile) (n : Int) : Option ByteArray :=
  if n < 1 then none else f.lines[(n - 1).toNat]?

end OpenFile

/-- Why a breakpoint was refused. -/
inductive BreakpointFault where
  /-- No open file has the identity of the path. -/
  | fileNotOpen
  /-- The file is open but has no such line. -/
  | lineOutOfRange
  deriving DecidableEq, Repr

namespace BreakpointFault

/-- The text of the cause alone. -/
def text : BreakpointFault → String
  | .fileNotOpen => "file not open"
  | .lineOutOfRange => "line out of range"

end BreakpointFault

/-- A refused breakpoint: the path and line asked for, and the cause. -/
structure BreakpointRefusal where
  /-- The path as the client wrote it. -/
  path : String
  /-- The line asked for. -/
  line : Int
  /-- The cause. -/
  cause : BreakpointFault
  deriving Repr

namespace BreakpointRefusal

/-- The message of a refusal; a missing line names the line, a missing file does not. -/
def message (e : BreakpointRefusal) : String :=
  match e.cause with
  | .lineOutOfRange => s!"breakpoint {e.path}:{e.line}: {e.cause.text}"
  | .fileNotOpen => s!"breakpoint {e.path}: {e.cause.text}"

end BreakpointRefusal

/-- Checks a breakpoint asked for at `path` and `line` against the open files: the file must
be open and the line must be one of its lines. -/
def Breakpoint.validate (cwd : String) (files : FileId → Option OpenFile) (path : String)
    (line : Int) : Except BreakpointRefusal Breakpoint :=
  let id := FileId.ofPath cwd path
  match files id with
  | none => .error ⟨path, line, .fileNotOpen⟩
  | some f =>
    if line < 1 ∨ line > f.lineCount then .error ⟨path, line, .lineOutOfRange⟩
    else .ok ⟨id, line⟩

/-- The breakpoints in force, in the order they were first added, each once, with an index
of the same breakpoints for lookup. -/
structure Registry where
  /-- The breakpoints, oldest first. -/
  entries : List Breakpoint := []
  /-- The breakpoints, for lookup. -/
  index : Std.HashSet Breakpoint := {}
  deriving Inhabited

namespace Registry

/-- Whether the registry holds a breakpoint at `line` of `file`, by its index. -/
def has (r : Registry) (file : FileId) (line : Int) : Bool :=
  r.index.contains ⟨file, line⟩

/-- Adds a breakpoint at the end of the list and to the index; the flag says whether it was
new. -/
def add (r : Registry) (b : Breakpoint) : Bool × Registry :=
  if r.index.contains b then (false, r) else (true, ⟨r.entries ++ [b], r.index.insert b⟩)

/-- Removes a breakpoint from the index and its first place in the list; the flag says
whether the index held it. -/
def remove (r : Registry) (b : Breakpoint) : Bool × Registry :=
  if r.index.contains b then (true, ⟨r.entries.erase b, r.index.erase b⟩) else (false, r)

/-- The number of breakpoints, by the list. -/
def size (r : Registry) : Nat := r.entries.length

/-- The empty registry, which clearing the registry leaves. -/
def empty : Registry := {}

/-- An operation of a client on the registry. -/
inductive Op where
  /-- Adds a breakpoint. -/
  | add (b : Breakpoint)
  /-- Removes a breakpoint. -/
  | remove (b : Breakpoint)
  /-- Removes every breakpoint. -/
  | clear
  /-- Asks whether a line of a file has a breakpoint. -/
  | has (file : FileId) (line : Int)
  /-- Lists the breakpoints. -/
  | list
  /-- Counts the breakpoints. -/
  | len
  /-- Checks a breakpoint asked for at a path and line against the open files. -/
  | validate (cwd : String) (files : FileId → Option OpenFile) (path : String) (line : Int)

/-- What an operation answers. -/
inductive Answer where
  /-- Whether an addition or a removal changed the set, or whether a breakpoint is there. -/
  | flag (b : Bool)
  /-- The breakpoints, oldest first. -/
  | breakpoints (bs : List Breakpoint)
  /-- How many breakpoints there are. -/
  | count (n : Nat)
  /-- The set was emptied. -/
  | cleared
  /-- The breakpoint a check accepts, or why it refuses it. -/
  | checked (r : Except BreakpointRefusal Breakpoint)

/-- Carries out an operation on the registry. -/
def call (r : Registry) : Op → Answer × Registry
  | .add b => (.flag (r.add b).1, (r.add b).2)
  | .remove b => (.flag (r.remove b).1, (r.remove b).2)
  | .clear => (.cleared, empty)
  | .has file line => (.flag (r.has file line), r)
  | .list => (.breakpoints r.entries, r)
  | .len => (.count r.size, r)
  | .validate cwd files path line => (.checked (Breakpoint.validate cwd files path line), r)

/-- Carries out operations in order: their answers, and the registry they leave. -/
def run (r : Registry) : List Op → List Answer × Registry
  | [] => ([], r)
  | o :: os => ((r.call o).1 :: ((r.call o).2.run os).1, ((r.call o).2.run os).2)

end Registry

end LuaDebugger
