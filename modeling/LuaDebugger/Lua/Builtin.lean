import LuaDebugger.Lua.Library.Base
import LuaDebugger.Lua.Library.Strings
import LuaDebugger.Lua.Library.Tables
import LuaDebugger.Lua.Library.Maths
import LuaDebugger.Lua.Library.Coroutines
import LuaDebugger.Lua.Library.System
import LuaDebugger.Lua.Inspect
import LuaDebugger.Elementary.Hyperbolic
import LuaDebugger.Elementary.Arc
/-!
# Running built-in functions

`Native.invoke` runs a built-in function on its arguments; `NativeCont.proceed` continues
one that called a function and now has its outcome: the results, or the error it raised
when the built-in function protects the call (`pcall`, `xpcall`).

Besides the libraries, three functions belong to the debugger: the step hook of
instrumented programs, which reports the program and line it is called with, and the two
metamethods of the environment that evaluations in a paused frame run in, which read and
write the frame's variables before the globals.
-/

namespace LuaDebugger.Lua

open NativeM

/-- `__index` of the environment of an evaluation in the frame at `pos` of coroutine `t`,
whose call in progress is `pending`. -/
def frameIndex (t pos : Nat) (pending : Array Value) (args : Array Value) : NativeM Outcome := do
  let m ← get
  let key := arg args 2
  let found : Option Value := match key, (m.framesOf t)[pos]? with
    | .str s, some (.lua f) => m.lookup f pending (Heap.text (.str s))
    | _, _ => none
  match found with
  | some v => ret1 v
  | none => ret1 (m.rawGet m.globals key)

/-- `__newindex` of the environment of an evaluation in a paused frame. -/
def frameNewIndex (t pos : Nat) (pending : Array Value) (args : Array Value) :
    NativeM Outcome := do
  let m ← get
  let key := arg args 2
  let v := arg args 3
  let assigned : Option Machine := match key with
    | .str s => m.assign t pos pending (Heap.text (.str s)) v
    | _ => none
  match assigned with
  | some m' => set m'; ret0
  | none => set (m.rawSet m.globals key v); ret0

/-- The step hook: the index of the program and the line. -/
def hook (args : Array Value) : NativeM Outcome := do
  let index ← checkInt args 1
  let line ← checkInt args 2
  pure (.hook index line args)

namespace Native

/-- Runs a built-in function; `self` is its index in the heap. -/
def invoke (self : Nat) (n : Native) (args : Array Value) : NativeM Outcome :=
  match n with
  | .assert => Base.assert args
  | .collectgarbage => ret0
  | .error => Base.error args
  | .getfenv => Base.getfenv args
  | .getmetatable => Base.getmetatable args
  | .load => Base.load args
  | .loadfile => raise "loadfile is not available"
  | .loadstring => Base.loadstring args
  | .next => Base.next args
  | .pcall => Base.pcall args
  | .print => Base.printFrom #[] false args.toList
  | .rawequal => Base.rawequal args
  | .rawget => Base.rawget args
  | .rawset => Base.rawset args
  | .select => Base.select args
  | .printregs => ret0
  | .setfenv => Base.setfenv args
  | .setmetatable => Base.setmetatable args
  | .tonumber => Base.tonumber args
  | .tostring => Base.tostring args
  | .type => Base.type args
  | .unpack => Base.unpack args
  | .xpcall => Base.xpcall args
  | .module => raise "package.loaders must be a table"
  | .require => Base.require args
  | .newproxy => Base.newproxy args
  | .ipairs => Base.ipairs args
  | .ipairsStep => Base.ipairsStep args
  | .pairs => Base.pairs args
  | .tableGetn | .tableMaxn => Tables.getn args
  | .tableConcat => Tables.concat args
  | .tableInsert => Tables.insert args
  | .tableRemove => Tables.remove args
  | .tableSort => Tables.sort args
  | .strByte => Strings.byte args
  | .strChar => Strings.char args
  | .strDump => Strings.dump args
  | .strFind => Strings.find args
  | .strFormat => Strings.format args
  | .strGfind | .strGmatch => Strings.gmatch args
  | .strGsub => Strings.gsub args
  | .strLen => Strings.len args
  | .strLower => Strings.lower args
  | .strMatch => Strings.match args
  | .strRep => Strings.rep args
  | .strReverse => Strings.reverse args
  | .strSub => Strings.sub args
  | .strUpper => Strings.upper args
  | .gmatchIter => Strings.gmatchIter args
  | .mathAbs => Maths.unary Float.abs args
  | .mathCeil => Maths.unary Float.ceil args
  | .mathCos => Maths.unary Elementary.cos args
  | .mathCosh => Maths.unary Elementary.cosh args
  | .mathDeg => Maths.unary (fun x ↦ x * 180 / Maths.pi) args
  | .mathExp => Maths.unary Elementary.exp args
  | .mathFloor => Maths.unary Float.floor args
  | .mathFmod => Maths.binary fmod args
  | .mathFrexp => Maths.mathFrexp args
  | .mathLdexp => Maths.ldexp args
  | .mathLog => Maths.unary Elementary.log args
  | .mathLog10 => Maths.unary Elementary.log10 args
  | .mathMax => Maths.extreme (fun a b ↦ a > b) args
  | .mathMin => Maths.extreme (fun a b ↦ a < b) args
  | .mathMod => Maths.binary floorMod args
  | .mathModf => Maths.mathModf args
  | .mathPow => Maths.binary power args
  | .mathRad => Maths.unary (fun x ↦ x * Maths.pi / 180) args
  | .mathRandom => Maths.random args
  | .mathRandomseed => Maths.randomseed args
  | .mathSin => Maths.unary Elementary.sin args
  | .mathSinh => Maths.unary Elementary.sinh args
  | .mathSqrt => Maths.unary Float.sqrt args
  | .mathTan => Maths.unary Elementary.tan args
  | .mathTanh => Maths.unary Elementary.tanh args
  | .mathAcos => Maths.unary Elementary.acos args
  | .mathAsin => Maths.unary Elementary.asin args
  | .mathAtan => Maths.unary Elementary.atan args
  | .mathAtan2 => Maths.binary Elementary.atan2 args
  | .coCreate => Coroutines.create args
  | .coYield => Coroutines.yield args
  | .coResume => Coroutines.resume args
  | .coRunning => Coroutines.running args
  | .coStatus => Coroutines.status args
  | .coWrap => Coroutines.wrap args
  | .coWrapped t => pure (.resume t args true)
  | .osClock | .osTime => System.zero args
  | .osDifftime => System.difftime args
  | .osExecute | .osExit | .osSetlocale | .osTmpname | .osDate => System.nothing args
  | .osGetenv => System.getenv args
  | .osRemove | .osRename | .ioOpen | .ioPopen | .ioLines => System.refuse args
  | .osSetenv | .ioClose | .ioFlush | .ioInput | .ioOutput | .ioRead | .ioTmpfile
  | .ioType => System.nothing args
  | .ioWrite => System.write args
  | .hook => Lua.hook args
  | .emit => Base.printFrom #[] true args.toList
  | .frameIndex t pos pending => Lua.frameIndex t pos pending args
  | .frameNewIndex t pos pending => Lua.frameNewIndex t pos pending args

end Native

namespace NativeCont

/-- The first of some results, `nil` when there are none. -/
def first (vals : Array Value) : Value := vals.getD 0 .nil

/-- `load` after a piece of text from its reader: an empty piece ends the text, else the
reader is called again. -/
def readMore (reader : Value) (name : String) (pieces b : ByteArray) : NativeM Outcome :=
  if b.size = 0 then Base.loadText pieces name
  else pure (.call reader #[] (.load reader name (pieces ++ b)))

/-- Continues a built-in function with the outcome of the function it called. -/
def proceed (k : NativeCont) (r : Except Value (Array Value)) : NativeM Outcome :=
  match k, r with
  | .pcall, .ok vals => ret (#[.bool true] ++ vals)
  | .pcall, .error e => ret #[.bool false, e]
  | .xpcall _, .ok vals => ret (#[.bool true] ++ vals)
  | .xpcall h, .error e => pure (.call h #[e] .xpcallHandled)
  | .xpcallHandled, .ok vals => ret #[.bool false, first vals]
  | .xpcallHandled, .error e => ret #[.bool false, e]
  | .print done rest emit, .ok vals =>
    Base.printFrom (done.push (Heap.textBytes (first vals))) emit rest
  | .tostring, .ok vals => ret1 (first vals)
  | .gsub s found repl k pieces, .ok vals =>
    match found[k]? with
    | some f => Strings.gsubFrom s found repl (k + 1) (Strings.withReplacement pieces f (first vals))
    | none => Strings.gsubFrom s found repl k pieces
  | .sort job negate items next, .ok vals =>
    Tables.resumeSort job items next ((first vals).truthy != negate)
  | .load reader name pieces, .ok vals =>
    match first vals with
    | .nil => Base.loadText pieces name
    | .str b => readMore reader name pieces b
    | .number x => readMore reader name pieces (numberText x).toUTF8
    | _ => ret #[.nil, .ofString "reader function must return a string"]
  | .resume wrapped, .ok vals => if wrapped then ret vals else ret (#[.bool true] ++ vals)
  | .resume wrapped, .error e => if wrapped then throw e else ret #[.bool false, e]
  | .pass, .ok vals => ret vals
  | _, .error e => throw e

/-- Whether the continuation catches errors of the call it waits for. -/
def protects : NativeCont → Bool
  | .pcall | .xpcall _ | .xpcallHandled => true
  | _ => false

end NativeCont

end LuaDebugger.Lua
