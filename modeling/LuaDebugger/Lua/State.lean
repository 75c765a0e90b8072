import LuaDebugger.Lua.Heap
import LuaDebugger.Sorting.Asking
/-!
# The machine

The state of a running interpreter: the heap, the coroutines with their stacks of frames,
and the table of globals. A frame runs a closure (`LuaFrame`: the instruction to run next,
the slots, the operand stack) or stands for a built-in function that waits for a function
it called (`NativeFrame`). Each frame says where its results go (`Sink`): onto the
caller's stack, into loop variables, to the built-in function below, or out of the machine.

The walk over frames follows the debugger's view of a stack:

* `stackLevel` finds the frame at a level counted from the top, where a frame that made
  tail calls counts once more for each of them; a level that falls among those extra
  counts stands for the bottom frame;
* `frameName` is the name of the function of a frame as tracebacks show it: the name its
  call site gives it, `<source:line>` for a function without one, `main chunk` for the
  bottom of the main coroutine;
* `whereText` is the `source:line:` prefix of error messages; `traceback` lists the
  frames.
-/

namespace LuaDebugger.Lua

/-- Where the results of a returning frame go. -/
inductive Sink where
  /-- Onto the caller's operand stack, adjusted to `want` values. -/
  | leave (want : Want)
  /-- Onto the caller's stack as the truth of the first result, negated when `negate`. -/
  | truth (negate : Bool)
  /-- Into the variables of a generic loop from slot `base + 3`. -/
  | loopVars (base : Nat) (boxed : List Bool)
  /-- Back into a concatenation, right of the operands still to join. -/
  | concat (left : List Value)
  /-- Onto the caller's stack followed by `self`: the method of a method call. -/
  | method (self : Value)
  /-- Onto the caller's stack, which then returns all of its values: a built-in function
  called in a tail call. -/
  | tail
  /-- To the built-in function of the frame below. -/
  | native
  /-- To the built-in function at position `pos`, which protects a call that raised an error
  and called this function to handle it: the frames between, where the error was raised,
  stay on the stack while the handler runs and are dropped when it ends. -/
  | handled (pos : Nat)
  /-- Out of the machine, to whoever started the coroutine or the call. -/
  | host
  deriving Inhabited

/-- A question of `table.sort`: the items as they stand, and the indices of the two whose
order it asks. -/
abbrev SortQuestion := Array Value × Nat × Nat

/-- The answer to a question of `table.sort`: the order of the two items, and the items as
they stand after the call that settled it. -/
abbrev SortAnswer := Bool × Array Value

/-- A sort in progress: it asks its questions and ends with the sorted items. -/
abbrev SortRun := Asking SortQuestion SortAnswer (Unit × Array Value)

/-- A sort of the array part of table `table` by `comparator` (`nil` for `<`). `moves` is
the number of moves of the array part when the sort began: for as long as the table has not
moved since, the sort and the table share one store, and each sees what the other writes. -/
structure SortJob where
  /-- The table sorted. -/
  table : Nat
  /-- The comparator, `nil` for `<`. -/
  comparator : Value
  /-- The moves of the table's array part when the sort began. -/
  moves : Nat

/-- What a built-in function waiting for a call does with its outcome. -/
inductive NativeCont where
  /-- `pcall`: true and the results, or false and the error. -/
  | pcall
  /-- `xpcall`: the results, or the handler called on the error. -/
  | xpcall (handler : Value)
  /-- The handler of `xpcall` returned. -/
  | xpcallHandled
  /-- `print` converting its arguments with `__tostring`: the texts so far and the values
  left; `emit` hands the line to the debugger. -/
  | print (done : Array ByteArray) (rest : List Value) (emit : Bool)
  /-- `tostring` through `__tostring`. -/
  | tostring
  /-- `string.gsub` with a replacement function, or a table whose lookup calls a function:
  the subject, its matches, the replacement, the match being replaced, and the replacements
  so far (start, end, text). -/
  | gsub (subject : ByteArray) (found : Array Pattern.Match) (repl : Value) (current : Nat)
      (pieces : Array (Nat × Nat × ByteArray))
  /-- `table.sort` waiting for the answer to a question of `next` about `items`: the result
  of the call gives the order, negated when `negate`. -/
  | sort (job : SortJob) (negate : Bool) (items : Array Value) (next : SortAnswer → SortRun)
  /-- `load` reading the pieces of a chunk called `name` from a reader function. -/
  | load (reader : Value) (name : String) (pieces : ByteArray)
  /-- `coroutine.resume` or a wrapper waiting for a coroutine. -/
  | resume (wrapped : Bool)
  /-- Passes the results through. -/
  | pass
  deriving Inhabited

/-- A frame running a closure. -/
structure LuaFrame where
  /-- The function, as an index of the heap. -/
  fn : Nat
  closure : Closure
  /-- The instruction to run next. -/
  pc : Nat
  slots : Array Slot
  stack : Array Value
  /-- Stack heights remembered by `mark`, the latest first. -/
  marks : List Nat
  varargs : Array Value
  /-- How many tail calls this frame has made. -/
  tailCalls : Nat
  /-- The name the call site gave the function. -/
  callName : Option String
  sink : Sink
  /-- The registers past the values held aside that the debugger wrote while the frame waited
  on a call, each with its value, the latest first. They last until the call returns. -/
  held : List (Nat × Value) := []
  deriving Inhabited

/-- A frame of a built-in function. -/
structure NativeFrame where
  fn : Nat
  native : Native
  callName : Option String
  sink : Sink
  /-- What the function does when the function it called returns. -/
  cont : NativeCont
  /-- Whether a call it made was cut short by a coroutine that lost its resumer deeper in
  that call: the function breaks when it returns. -/
  breaksOnReturn : Bool := false
  deriving Inhabited

/-- A frame. -/
inductive Frame where
  | lua (f : LuaFrame)
  | native (f : NativeFrame)
  deriving Inhabited

namespace Frame

/-- How many times the frame counts in the levels of a stack. -/
def weight : Frame → Nat
  | .lua f => 1 + f.tailCalls
  | .native _ => 1

/-- Whether the frame is a built-in function. -/
def isNative : Frame → Bool
  | .native _ => true
  | .lua _ => false

/-- Where the frame's results go. -/
def sink : Frame → Sink
  | .lua f => f.sink
  | .native f => f.sink

/-- The line the frame is at: that of the instruction it runs, or `-1` for a built-in. -/
def currentLine : Frame → Int
  | .lua f => if f.pc > 0 then f.closure.proto.lineAt (f.pc - 1) else 0
  | .native _ => -1

end Frame

/-- The state of a coroutine. -/
inductive ThreadStatus where
  | suspended | running | normal | dead
  deriving DecidableEq, Inhabited

/-- A coroutine. -/
structure Thread where
  frames : Array Frame := #[]
  status : ThreadStatus := .suspended
  /-- The function it runs, until it starts. -/
  body : Option Value := none
  /-- The coroutine that resumed it. -/
  resumer : Option Nat := none
  /-- Whether it runs behind a function of `coroutine.wrap`, which raises its errors. -/
  wrapped : Bool := false
  /-- The values it yielded when it lost its resumer. A coroutine cannot be suspended inside
  a function that a built-in function called: yielding there keeps the values for its
  resumer, which gets them when the coroutine stops, and the coroutine runs on at once,
  no longer able to yield. -/
  orphaned : Option (Array Value) := none
  /-- Whether it stopped after it lost its resumer; resuming it again breaks. -/
  broken : Bool := false
  deriving Inhabited

/-- The metatables shared by all the values of a kind: strings, booleans, numbers, functions
and coroutines have no metatable of their own, and setting one sets that of the kind. -/
structure SharedMetas where
  strings : Option Nat := none
  booleans : Option Nat := none
  numbers : Option Nat := none
  functions : Option Nat := none
  threads : Option Nat := none
  deriving Inhabited

namespace SharedMetas

/-- The shared metatable of a value's kind. -/
def get (s : SharedMetas) : Value → Option Nat
  | .str _ => s.strings
  | .bool _ => s.booleans
  | .number _ => s.numbers
  | .fn _ => s.functions
  | .thread _ => s.threads
  | _ => none

/-- Sets the shared metatable of a value's kind. -/
def set (s : SharedMetas) (v : Value) (mt : Option Nat) : SharedMetas :=
  match v with
  | .str _ => { s with strings := mt }
  | .bool _ => { s with booleans := mt }
  | .number _ => { s with numbers := mt }
  | .fn _ => { s with functions := mt }
  | .thread _ => { s with threads := mt }
  | _ => s

end SharedMetas

/-- The interpreter. -/
structure Machine where
  heap : Heap := {}
  /-- The coroutines; the first is the main one. The frames of the running one are kept in
  `frames` instead. -/
  threads : Array Thread := #[{ status := .running }]
  /-- The coroutine that runs. -/
  current : Nat := 0
  /-- The frames of the running coroutine, the bottom first. -/
  frames : Array Frame := #[]
  /-- The table of globals. -/
  globals : Nat := 0
  /-- The metatables that values without one of their own share, by kind. -/
  shared : SharedMetas := {}
  /-- Lines handed to the debugger by `print`, oldest first. -/
  output : Array ByteArray := #[]
  /-- Set when the debugger cancels the program: every instruction then fails. -/
  cancelled : Bool := false
  /-- The state of `math.random`. -/
  seed : UInt64 := 0x2545F4914F6CDD1D
  /-- The functions `pairs` and `ipairs` return. -/
  nextFn : Nat := 0
  ipairsStepFn : Nat := 0
  /-- The iterator function that `string.gmatch` returns. -/
  gmatchIterFn : Nat := 0
  deriving Inhabited

namespace Machine

/-- The running coroutine. -/
def thread (m : Machine) : Thread := m.threads.getD m.current {}

/-- Replaces the frames of the running coroutine. -/
def setFrames (m : Machine) (fs : Array Frame) : Machine := { m with frames := fs }

/-- Makes coroutine `t` the running one, keeping the frames of the one that ran. -/
def switchTo (m : Machine) (t : Nat) : Machine :=
  let threads := m.threads.modify m.current fun th ↦ { th with frames := m.frames }
  let fs := (threads.getD t {}).frames
  { m with
    threads := threads.modify t fun th ↦ { th with frames := #[] }
    current := t
    frames := fs }

/-- Changes a coroutine. -/
def modifyThread (m : Machine) (t : Nat) (f : Thread → Thread) : Machine :=
  { m with threads := m.threads.modify t f }

/-- Pushes a frame on the running coroutine. -/
def pushFrame (m : Machine) (f : Frame) : Machine := m.setFrames (m.frames.push f)

/-- Pops the top frame of the running coroutine. -/
def popFrame (m : Machine) : Machine := m.setFrames m.frames.pop

/-- The top frame of the running coroutine. -/
def topFrame? (m : Machine) : Option Frame := m.frames.back?

/-- Replaces the top frame of the running coroutine. -/
def setTop (m : Machine) (f : Frame) : Machine :=
  let fs := m.frames
  if fs.size = 0 then m else m.setFrames (fs.set! (fs.size - 1) f)

/-! ### Objects -/

/-- Adds a table. -/
def newTable (m : Machine) (t : Table := .empty) : Machine × Nat :=
  let (h, i) := m.heap.newTable t
  ({ m with heap := h }, i)

/-- Adds a built-in function with the globals as environment. -/
def newNative (m : Machine) (n : Native) : Machine × Nat :=
  let (h, i) := m.heap.newFn (.native n m.globals)
  ({ m with heap := h }, i)

/-- The table at an index. -/
def table (m : Machine) (i : Nat) : Table := m.heap.table i

/-- Changes a table. -/
def modifyTable (m : Machine) (i : Nat) (f : Table → Table) : Machine :=
  { m with heap := m.heap.modifyTable i f }

/-- Reads a table without metamethods. -/
def rawGet (m : Machine) (t : Nat) (k : Value) : Value := (m.table t).rawGet k

/-- Writes a table without metamethods. -/
def rawSet (m : Machine) (t : Nat) (k v : Value) : Machine := m.modifyTable t (·.rawSet k v)

/-- Reads a global. -/
def getGlobal (m : Machine) (name : String) : Value := (m.table m.globals).rawGetStr name.toUTF8

/-- Writes a global. -/
def setGlobal (m : Machine) (name : String) (v : Value) : Machine :=
  m.modifyTable m.globals (·.rawSetStr name.toUTF8 v)

/-- The metatable of a value. -/
def metatableOf (m : Machine) : Value → Option Nat
  | .table i => (m.table i).metatable
  | .userdata i => (m.heap.userdata.getD i {}).metatable
  | v => m.shared.get v

/-- A field of the metatable of a value, `nil` without one. -/
def metaField (m : Machine) (v : Value) (event : String) : Value :=
  match m.metatableOf v with
  | some mt => (m.table mt).rawGetStr event.toUTF8
  | none => .nil

/-- Whether a value is a function. -/
def isFunction : Value → Bool
  | .fn _ => true
  | _ => false

/-! ### The debugger's view of a stack -/

/-- The frame at `level` of a stack of frames, the bottom first. Walking down from the top,
each frame passed uses up its weight; landing exactly on a frame gives it, falling among the
extra counts of a frame's tail calls gives the bottom frame, and walking past the bottom
gives nothing. -/
def stackLevel (fs : Array Frame) (level : Nat) : Option Nat :=
  let rec walk (pos : Option Nat) (lvl : Int) (fuel : Nat) : Option Nat :=
    match fuel with
    | 0 => none
    | fuel + 1 =>
      if lvl > 0 then
        match pos with
        | none => none
        | some p =>
          let w : Int := ((fs[p]?.map Frame.weight).getD 1 : Nat)
          walk (if p = 0 then none else some (p - 1)) (lvl - w) fuel
      else if lvl = 0 then pos
      else if fs.size > 0 then some 0 else none
  walk (if fs.size = 0 then none else some (fs.size - 1)) level (fs.size + 2)

/-- The number of levels of a stack: the sum of the weights of its frames. -/
def depth (fs : Array Frame) : Nat := fs.foldl (fun n f ↦ n + f.weight) 0

/-- The `<source:line>` name of a function without a name. -/
def anonymousName (p : Proto) : String := "<" ++ p.source ++ ":" ++ toString p.lineDefined ++ ">"

/-- The name of the function of the frame at position `pos` of a stack, and whether it is
the bottom of the stack (a chunk or a coroutine body). -/
def frameName (fs : Array Frame) (mainThread : Bool) (pos : Nat) : String × Bool :=
  if pos = 0 then (if mainThread then "main chunk" else "corountine", true)
  else
    let fr := fs.getD pos default
    let parentLua := match fs[pos - 1]? with
      | some (.lua _) => true
      | _ => false
    let named : Option String := match fr with
      | .lua f => if parentLua then f.callName else none
      | .native f => if parentLua then f.callName else none
    match named, fr with
    | some n, .lua f => if n = "?" ∨ f.tailCalls > 0 then (anonymousName f.closure.proto, false)
      else (n, false)
    | some n, .native _ => (n, false)
    | none, .lua f => (anonymousName f.closure.proto, false)
    | none, .native _ => ("(anonymous)", false)

/-- The `source:line:` of the frame at `level`, `[G]:` for a built-in; with `skipNative`
a built-in frame passes on to the next level. Empty when there is no such frame. -/
def whereText (fs : Array Frame) (level : Nat) (skipNative : Bool) : String :=
  let rec go (level : Nat) (fuel : Nat) : String :=
    match fuel with
    | 0 => ""
    | fuel + 1 =>
      match stackLevel fs level with
      | none => ""
      | some p =>
        match fs[p]? with
        | some (.lua f) => f.closure.proto.source ++ ":" ++
            toString (f.closure.proto.lineAt (f.pc - 1)) ++ ":"
        | some (.native _) => if skipNative then go (level + 1) fuel else "[G]:"
        | none => ""
  go level (depth fs + 2)

/-- The traceback of a stack: each frame from the top with where it is and its function,
a line `(tailcall): ?` for each tail call it made, and `[G]: ?` at the end; a traceback of
more than twenty lines keeps the first seven and the last twelve. -/
def traceback (fs : Array Frame) (mainThread : Bool) : String :=
  let rec go (i : Nat) (fuel : Nat) (acc : Array String) : Array String :=
    match fuel with
    | 0 => acc
    | fuel + 1 =>
      match stackLevel fs i with
      | none => acc
      | some p =>
        let (name, chunk) := frameName fs mainThread p
        let shown := if chunk then name
          else if name.startsWith "(" ∨ name.startsWith "<" then "function " ++ name
          else "function '" ++ name ++ "'"
        let line := "\t" ++ whereText fs i false ++ " in " ++ shown
        match fs[p]? with
        | some (.lua f) =>
          let tails := (List.replicate f.tailCalls "\t(tailcall): ?").toArray
          go (i + 1 + f.tailCalls) fuel (acc.push line ++ tails)
        | _ => go (i + 1) fuel (acc.push line)
  let lines := (go 0 (depth fs + 2) #[]).push "\t[G]: ?"
  let lines := if lines.size > 20 then (lines.extract 0 7).push "\t..." ++
      lines.extract (lines.size - 12) lines.size
    else lines
  "stack traceback:\n" ++ "\n".intercalate lines.toList

/-- The frames of the running coroutine seen by its debugger functions. -/
def isMainThread (m : Machine) : Bool := m.current = 0

/-! ### Errors of built-in functions -/

/-- The text `msg` with the position of the nearest script frame from the top, as errors
raised at level 1 carry: `source:line: msg`. -/
def positioned (m : Machine) (msg : String) : Value :=
  .str ((whereText m.frames 0 true ++ " ").toUTF8 ++ msg.toUTF8)

/-- The bytes `msg` with the position of the frame at `level - 1` from the top, skipping
built-in frames, for `level ≥ 1`; `msg` alone for level 0. -/
def positionedAt (m : Machine) (level : Nat) (msg : ByteArray) : Value :=
  if level = 0 then .str msg
  else .str ((whereText m.frames (level - 1) true ++ " ").toUTF8 ++ msg)

/-- The name of the running built-in function, as its errors give it. -/
def nativeName (m : Machine) : String :=
  let fs := m.frames
  if fs.size = 0 then "?" else (frameName fs m.isMainThread (fs.size - 1)).1

/-- The error of a bad argument: `bad argument #n to name (msg)`. -/
def argError (m : Machine) (n : Nat) (msg : String) : Value :=
  m.positioned ("bad argument #" ++ toString n ++ " to " ++ m.nativeName ++ " (" ++ msg ++ ")")

/-- The error of an argument of the wrong type. -/
def typeError (m : Machine) (n : Nat) (expected : String) (got : Value) : Value :=
  m.argError n (expected ++ " expected, got " ++ got.typeName)

end Machine

/-- What a built-in function does. -/
inductive Outcome where
  /-- Returns values. -/
  | ret (vals : Array Value)
  /-- Raises an error value. -/
  | err (e : Value)
  /-- Calls a function and goes on as `k` says with its outcome. -/
  | call (f : Value) (args : Array Value) (k : NativeCont)
  /-- Reports a step of an instrumented program to the debugger, with the arguments of the
  report. -/
  | hook (index line : Int) (args : Array Value)
  /-- Resumes a coroutine with values. -/
  | resume (thread : Nat) (args : Array Value) (wrapped : Bool)
  /-- Suspends the running coroutine with values. -/
  | yield (vals : Array Value)
  deriving Inhabited

end LuaDebugger.Lua
