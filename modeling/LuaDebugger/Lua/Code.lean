import LuaDebugger.Lua.Value
/-!
# Compiled functions

A function of the script is compiled to a `Proto`: a list of instructions for a machine with
an operand stack and numbered slots, each instruction with the source line it is reported
at. Slots hold the local variables, numbered in the order the variables come into scope, so
that the `n`-th variable in scope lives in slot `n - 1`; a few slots above them hold values
a statement keeps aside while it runs. A local variable that a nested function captures is
kept in a cell of the heap, and its slot refers to the cell.

The debug information mirrors what the debugger reads back:

* `locals`: each local variable with its slot and the range of instructions where it is in
  scope: strictly after `startPc` and strictly before `endPc`. The range the debugger is
  told (`listedAt`) ends elsewhere: when a block closes, the end is recorded on the variable
  whose position in `locals` is the slot of each of the block's variables, the last block
  to close winning. Until a slot is reused the two agree; after that a variable of a closed
  block can stay listed, reading the slot of a later one, and a later variable can be
  missing from the list.
* `Instr.call` carries the name the call site gives the function it calls, as tracebacks and
  frame signatures show it.
* `lineDefined`/`lastLineDefined` delimit the function in its source, `0`/`0` for a chunk.
-/

namespace LuaDebugger.Lua

/-- A binary arithmetic operator. -/
inductive ArithOp where
  | add | sub | mul | div | mod | pow
  deriving DecidableEq, Repr, Inhabited

namespace ArithOp

/-- The name of the operator in messages and metamethods: `add`, `sub`, … -/
def name : ArithOp → String
  | .add => "add" | .sub => "sub" | .mul => "mul" | .div => "div" | .mod => "mod" | .pow => "pow"

end ArithOp

/-- A comparison the machine performs; `>` and `>=` are compiled as `<` and `<=` with the
operands exchanged. -/
inductive CompareOp where
  | eq | lt | le
  deriving DecidableEq, Repr, Inhabited

/-- How many results a call or a `...` leaves: a fixed number, or all of them. -/
abbrev Want := Option Nat

/-- Where an upvalue of a new function comes from. -/
inductive Capture where
  /-- The cell in a slot of the enclosing frame. -/
  | slot (i : Nat)
  /-- An upvalue of the enclosing function. -/
  | upvalue (i : Nat)
  deriving DecidableEq, Repr, Inhabited

/-- An instruction. Values are taken from and put on the operand stack. -/
inductive Instr where
  | pushNil (n : Nat)
  | pushBool (b : Bool)
  | pushNum (x : Float)
  | pushStr (s : ByteArray)
  /-- Pushes the value of a slot. -/
  | getSlot (i : Nat)
  /-- Pops into the variable of a slot, through its cell if it has one. -/
  | setSlot (i : Nat)
  /-- Pops into a new variable at a slot; `boxed` gives it a fresh cell. -/
  | initSlot (i : Nat) (boxed : Bool)
  | getUpvalue (i : Nat)
  | setUpvalue (i : Nat)
  /-- Pushes a field of the function's environment. -/
  | getGlobal (name : ByteArray)
  | setGlobal (name : ByteArray)
  /-- `obj key → obj[key]`. -/
  | index
  /-- `obj key value →`, assigning `obj[key] = value`. -/
  | setIndex
  /-- `obj → obj[name] obj`, for a method call. -/
  | method (name : ByteArray)
  /-- Pushes a new table whose array part has room for `room` values before it must move. -/
  | newTable (room : Nat)
  /-- Pops `n` values into positions `first, first + 1, …` of the table in slot `t`. -/
  | setList (t : Nat) (first n : Nat)
  /-- Pops every value above the last mark into positions from `first` of the table in slot
  `t`. -/
  | setListAll (t : Nat) (first : Nat)
  /-- Pushes a new function of the nested prototype `i`. -/
  | closure (i : Nat)
  /-- Remembers the height of the operand stack. -/
  | mark
  /-- Calls a function with `argc` arguments; the function is below them. `name` is the name
  the call site gives it. -/
  | call (argc : Nat) (want : Want) (name : String)
  /-- Calls the function above the last mark with the values above it as arguments. -/
  | callAll (want : Want) (name : String)
  | tailCall (argc : Nat) (name : String)
  | tailCallAll (name : String)
  /-- Returns the top `n` values. -/
  | ret (n : Nat)
  /-- Returns every value above the last mark. -/
  | retAll
  /-- Pushes the extra arguments. -/
  | vararg (want : Want)
  | pop (n : Nat)
  | jump (target : Nat)
  /-- Pops a value and jumps when it is false. -/
  | jumpIfFalse (target : Nat)
  /-- Jumps keeping the value when it is false, else pops it: the left side of `and`. -/
  | andJump (target : Nat)
  /-- Jumps keeping the value when it is true, else pops it: the left side of `or`. -/
  | orJump (target : Nat)
  | arith (op : ArithOp)
  | neg
  | not
  | len
  /-- Concatenates the top `n` values. -/
  | concat (n : Nat)
  /-- Compares the top two values and pushes the outcome, negated when `negate` holds;
  `swapped` compares the upper value with the lower one. -/
  | compare (op : CompareOp) (negate swapped : Bool)
  /-- Checks the numeric loop in slots `base`, `base + 1`, `base + 2` and steps back its
  start, then jumps to the loop test. -/
  | forPrep (base : Nat) (test : Nat)
  /-- Advances the numeric loop and, while it runs, writes its variable into slot
  `base + 3` and jumps to `body`. -/
  | forLoop (base : Nat) (body : Nat) (boxed : Bool)
  /-- Calls the iterator of a generic loop and writes its results into the loop's variables
  from slot `base + 3`. -/
  | forCall (base : Nat) (boxed : List Bool)
  /-- Continues a generic loop at `body` while its first variable is not `nil`. -/
  | forNext (base : Nat) (body : Nat)
  deriving Inhabited

/-- A local variable and the instructions where it is in scope. -/
structure LocalInfo where
  name : String
  slot : Nat
  /-- The variable is in scope strictly after this instruction. -/
  startPc : Nat
  /-- … and strictly before this one. -/
  endPc : Nat
  /-- The end of the range the debugger is told, `0` when no block recorded one. -/
  listedEnd : Nat
  deriving Inhabited, Repr

/-- A compiled function. -/
structure Proto where
  code : Array Instr
  /-- The line of each instruction. -/
  lines : Array Nat
  protos : Array Proto
  /-- The number of named parameters, an implicit `self` included. -/
  params : Nat
  /-- Whether extra arguments are kept for `...`. -/
  variadic : Bool
  /-- Whether slot `params` holds a table of the extra arguments (a variadic function that
  never writes `...`), or `nil`. -/
  argTable : Bool
  /-- Whether the function has the local `arg` after its parameters. -/
  hasArg : Bool
  /-- The parameter slots whose variables nested functions capture. -/
  boxedParams : List Nat
  /-- The number of slots. -/
  slots : Nat
  upvalueNames : Array String
  captures : Array Capture
  locals : Array LocalInfo
  source : String
  lineDefined : Nat
  lastLineDefined : Nat

instance : Inhabited Proto :=
  ⟨⟨#[], #[], #[], 0, false, false, false, [], 0, #[], #[], #[], "", 0, 0⟩⟩

namespace Proto

/-- The line of instruction `pc`. -/
def lineAt (p : Proto) (pc : Nat) : Nat := p.lines.getD pc 0

/-- The local variables in scope at instruction `pc`, in the order they came into scope. -/
def localsAt (p : Proto) (pc : Nat) : List LocalInfo :=
  p.locals.toList.filter fun l ↦ l.startPc < pc ∧ pc < l.endPc

/-- The local variables the debugger is told are in scope at instruction `pc`: those declared
before it whose listed range goes past it, in the order they were declared. -/
def listedAt (p : Proto) (pc : Nat) : List LocalInfo :=
  (p.locals.toList.takeWhile (·.startPc < pc)).filter (pc < ·.listedEnd)

end Proto

end LuaDebugger.Lua
