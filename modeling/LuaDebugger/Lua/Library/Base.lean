import LuaDebugger.Lua.Native
import LuaDebugger.Lua.Meta
import LuaDebugger.Lua.Load
/-!
# The base library

The global functions: errors and protected calls (`error`, `assert`, `pcall`, `xpcall`),
conversions (`tostring`, `tonumber`, `type`), raw access (`rawget`, `rawset`, `rawequal`),
traversal (`next`, `pairs`, `ipairs`, `select`, `unpack`), metatables and environments, and
loading of chunks (`load`, `loadstring`).

Two rules are worth stating:

* `error` gives a string message the position of the frame `level - 1` levels above the
  nearest script frame (levels 1 and 2 both name the caller), and leaves any other value as
  it is;
* `tonumber` reads a string with a `.` as a decimal, else as an integer in the given base
  (10 by default, 16 after `0x` when no base is given), and gives `nil` for anything else.
-/

namespace LuaDebugger.Lua

namespace Base

open NativeM

/-- `assert(v, message)`. -/
def assert (args : Array Value) : NativeM Outcome := do
  if (arg args 1).truthy then ret args
  else
    let msg ← optString args 2 "assertion failed!".toUTF8
    throw ((← get).positioned (String.fromUTF8? msg |>.getD (latinText msg.toList)))

/-- `error(value, level)`. -/
def error (args : Array Value) : NativeM Outcome := do
  let v ← checkAny args 1
  let level ← optInt args 2 1
  match v with
  | .str s => throw ((← get).positionedAt level.toNat s)
  | _ => throw v

/-- `pcall(f, ...)`. -/
def pcall (args : Array Value) : NativeM Outcome := do
  let f ← checkAny args 1
  let m ← get
  match f, m.metaField f "__call" with
  | .fn _, _ | _, .fn _ => pure (.call f (args.extract 1 args.size) .pcall)
  | _, _ => ret #[.bool false, .ofString ("attempt to call a " ++ f.typeName ++ " value")]

/-- `xpcall(f, handler)`. -/
def xpcall (args : Array Value) : NativeM Outcome := do
  let f ← checkFunction args 1
  let h ← checkFunction args 2
  pure (.call (.fn f) #[] (.xpcall (.fn h)))

/-- Converts the values of `rest` to text for `print`, calling `__tostring` where a value
has one, then hands the line out when `emit` holds. -/
def printFrom (done : Array ByteArray) (emit : Bool) : List Value → NativeM Outcome
  | [] => do
    if emit then
      let line := done.foldl (fun (acc : Option ByteArray) b ↦
        some (match acc with | none => b | some a => a ++ "\t".toUTF8 ++ b)) none
      modify fun m ↦ { m with output := m.output.push (line.getD ByteArray.empty) }
    ret0
  | v :: more => do
    match (← get).metaField v "__tostring" with
    | h@(.fn _) => pure (.call h #[v] (.print done more emit))
    | _ => printFrom (done.push (Heap.textBytes v)) emit more

/-- `tostring(v)`. -/
def tostring (args : Array Value) : NativeM Outcome := do
  let v ← checkAny args 1
  match (← get).metaField v "__tostring" with
  | h@(.fn _) => pure (.call h #[v] .tostring)
  | _ => ret1 (.str (Heap.textBytes v))

/-- Reads an integer in `base`, or nothing. -/
def readIntIn (base : Nat) (s : String) : Option Float :=
  match Decimal.readInt base s with
  | .ok n => if -2 ^ 63 ≤ n ∧ n < 2 ^ 63 then some (floatOfInt n) else none
  | .error _ => none

/-- `tonumber(v, base)`. -/
def tonumber (args : Array Value) : NativeM Outcome := do
  let base ← optInt args 2 10
  let noBase := (arg args 2).isNil
  match ← checkAny args 1 with
  | .number x => ret1 (.number x)
  | .str s =>
    let str := latinText (trimNumberBlanks s)
    if str.contains '.' then
      match Decimal.readFloat str with
      | .ok x => ret1 (.number x)
      | .error _ => ret1 .nil
    else
      let lower := str.toList.take 2 |>.map Decimal.asciiLower
      let (b, body) : Int × String :=
        if noBase ∧ lower = ['0', 'x'] then (16, String.ofList (str.toList.drop 2)) else (base, str)
      if b = 0 ∨ (2 ≤ b ∧ b ≤ 36) then
        ret1 ((readIntIn b.toNat body).map Value.number |>.getD .nil)
      else ret1 .nil
  | _ => ret1 .nil

/-- `type(v)`. -/
def type (args : Array Value) : NativeM Outcome := do
  let v ← checkAny args 1
  ret1 (.ofString v.typeName)

/-- `select(n, ...)`. -/
def select (args : Array Value) : NativeM Outcome := do
  match ← checkTypes args 1 ["number", "string"] with
  | .number x =>
    let num : Int := args.size
    let idx := truncInt x
    let idx := if idx < 0 then num + idx else if idx > num then num else idx
    if idx < 1 then argError 1 "index out of range"
    else ret (args.extract idx.toNat args.size)
  | .str s =>
    if s != "#".toUTF8 then argError 1 ("invalid string '" ++ Heap.text (.str s) ++ "'")
    else ret1 (.number (Float.ofNat (args.size - 1)))
  | _ => ret0

/-- `rawequal(a, b)`. -/
def rawequal (args : Array Value) : NativeM Outcome := do
  let a ← checkAny args 1
  let b ← checkAny args 2
  ret1 (.bool (a.rawEq b))

/-- `rawget(t, k)`. -/
def rawget (args : Array Value) : NativeM Outcome := do
  let t ← checkTable args 1
  let k ← checkAny args 2
  ret1 ((← get).rawGet t k)

/-- `rawset(t, k, v)`. -/
def rawset (args : Array Value) : NativeM Outcome := do
  let t ← checkTable args 1
  let k ← checkAny args 2
  let v ← checkAny args 3
  match (← get).rawStore t k v with
  | .ok m => set m; ret0
  | .error msg => raise msg

/-- `next(t, k)`. -/
def next (args : Array Value) : NativeM Outcome := do
  let t ← checkTable args 1
  let k := if args.size ≥ 2 then arg args 2 else .nil
  match ((← get).table t).next? k with
  | some (k', v) => ret #[k', v]
  | none => ret1 .nil

/-- `pairs(t)`. -/
def pairs (args : Array Value) : NativeM Outcome := do
  let t ← checkTable args 1
  ret #[.fn (← get).nextFn, .table t, .nil]

/-- `ipairs(t)`. -/
def ipairs (args : Array Value) : NativeM Outcome := do
  let t ← checkTable args 1
  ret #[.fn (← get).ipairsStepFn, .table t, .number 0]

/-- The iterator of `ipairs`. -/
def ipairsStep (args : Array Value) : NativeM Outcome := do
  let t ← checkTable args 1
  let i ← checkInt args 2
  let i := i + 1
  let v := (← get).rawGet t (.number (floatOfInt i))
  if v.isNil then ret0 else ret #[.number (floatOfInt i), v]

/-- `unpack(t, i, j)`. -/
def unpack (args : Array Value) : NativeM Outcome := do
  let t ← checkTable args 1
  let start ← optInt args 2 1
  let stop ← optInt args 3 ((← get).table t).border
  let m ← get
  let count := (stop - start + 1).toNat
  ret ((Array.range count).map fun (k : Nat) ↦ m.rawGet t (.number (floatOfInt (start + (k : Int)))))

/-- `getmetatable(v)`: the field `__metatable` of the metatable when it has one. -/
def getmetatable (args : Array Value) : NativeM Outcome := do
  let v ← checkAny args 1
  let m ← get
  match m.metatableOf v with
  | none => ret1 .nil
  | some mt =>
    match (m.table mt).rawGetStr "__metatable".toUTF8 with
    | .nil => ret1 (.table mt)
    | shown => ret1 shown

/-- `setmetatable(v, mt)`. -/
def setmetatable (args : Array Value) : NativeM Outcome := do
  let mtv ← checkTypes args 2 ["nil", "table"]
  let obj := arg args 1
  if obj.isNil then raise "cannot set metatable to a nil object."
  let m ← get
  if let some old := m.metatableOf obj then
    if !((m.table old).rawGetStr "__metatable".toUTF8).isNil then
      raise "cannot change a protected metatable"
  let mt : Option Nat := match mtv with
    | .table t => some t
    | _ => none
  match obj with
  | .table t => set (m.modifyTable t fun tb ↦ { tb with metatable := mt })
  | .userdata u => set { m with heap := m.heap.modifyUserdata u fun d ↦ { d with metatable := mt } }
  | v => set { m with shared := m.shared.set v mt }
  ret1 obj

/-- The frame a level of `getfenv`/`setfenv` names, counted from the caller. -/
def frameAtLevel (m : Machine) (level : Nat) : Option Frame :=
  if level + 1 > m.frames.size then none else m.frames[m.frames.size - 1 - level]?

/-- `getfenv(f)`. -/
def getfenv (args : Array Value) : NativeM Outcome := do
  let m ← get
  let target := if args.size = 0 then Value.number 1 else arg args 1
  match target with
  | .fn f => ret1 (.table (m.heap.fn f).env)
  | .number x =>
    let level := truncInt x
    if level ≤ 0 then ret1 (.table m.globals)
    else
      match frameAtLevel m level.toNat with
      | some (.lua f) => ret1 (.table (m.heap.fn f.fn).env)
      | _ => ret1 (.table m.globals)
  | _ => ret1 (.table m.globals)

/-- Gives a function a new environment. -/
def setEnv (m : Machine) (f : Nat) (env : Nat) : Machine :=
  match m.heap.fn f with
  | .closure c =>
    { m with heap := { m.heap with fns := m.heap.fns.set! f (.closure { c with env := env }) } }
  | .native .. => m

/-- `setfenv(f, env)`. -/
def setfenv (args : Array Value) : NativeM Outcome := do
  let target := if args.size = 0 then Value.number 1 else arg args 1
  let env ← checkTable args 2
  let m ← get
  match target with
  | .fn f =>
    if (m.heap.fn f).isNative then raise "cannot change the environment of given object"
    else do set (setEnv m f env); ret1 (.fn f)
  | .number x =>
    let level := truncInt x
    if level ≤ 0 then ret0
    else
      match frameAtLevel m level.toNat with
      | some (.lua f) => do set (setEnv m f.fn env); ret1 (.fn f.fn)
      | _ => raise "cannot change the environment of given object"
  | _ => raise "cannot change the environment of given object"

/-- Loads a chunk: the function, or `nil` and the message. -/
def loadText (src : ByteArray) (name : String) : NativeM Outcome := do
  match loadChunk src name with
  | .ok p =>
    let (m, f) := (← get).newChunkFunction p
    set m
    ret1 f
  | .error msg => ret #[.nil, .str msg]

/-- `loadstring(s, name)`. -/
def loadstring (args : Array Value) : NativeM Outcome := do
  let src ← checkString args 1
  let name ← optString args 2 "<string>".toUTF8
  loadText src (Heap.text (.str name))

/-- `load(reader, name)`: calls the reader until it gives `nil` or an empty string. -/
def load (args : Array Value) : NativeM Outcome := do
  let f ← checkFunction args 1
  let name ← optString args 2 "?".toUTF8
  pure (.call (.fn f) #[] (.load (.fn f) (Heap.text (.str name)) ByteArray.empty))

/-- `newproxy(v)`: a bare object, with a new metatable for `true` or the metatable of a
given object. -/
def newproxy (args : Array Value) : NativeM Outcome := do
  let m ← get
  let (m, mt) : Machine × Option Nat := match arg args 1 with
    | .bool true => let (m, t) := m.newTable; (m, some t)
    | .userdata u => (m, (m.heap.userdata.getD u {}).metatable)
    | _ => (m, none)
  let (h, u) := m.heap.newUserdata { metatable := mt }
  set { m with heap := h }
  ret1 (.userdata u)

/-- The names of the libraries a chunk may `require`. -/
def loadedModules : List String := ["_G", "table", "string", "math", "coroutine", "io", "os"]

/-- `require(name)`: a library already open; nothing else can be loaded. -/
def require (args : Array Value) : NativeM Outcome := do
  let name ← checkString args 1
  let n := Heap.text (.str name)
  let m ← get
  if loadedModules.contains n then
    match m.getGlobal (if n = "_G" then "_G" else n) with
    | .nil => raise "package.loaders must be a table"
    | v => ret1 v
  else raise "package.loaders must be a table"

end Base

end LuaDebugger.Lua
