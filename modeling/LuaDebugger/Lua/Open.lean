import LuaDebugger.Lua.Run
/-!
# A fresh interpreter

`Machine.standard` is an interpreter with the libraries a debugged program may use: the
base functions, `table`, `string`, `math` and `coroutine`, and `io` and `os` when the
program may use the system. `dofile` and `loadfile` are removed, since loading other files
would run code the debugger has not instrumented.

Strings have the table `string` as their metatable, whose `__index` is the table itself, so
that `s:upper()` finds `string.upper`.
-/

namespace LuaDebugger.Lua

namespace Machine

/-- Adds built-in functions as fields of a table. -/
def addFunctions (m : Machine) (t : Nat) (fs : List (String × Native)) : Machine :=
  fs.foldl (fun m (name, n) ↦
    let (m, f) := m.newNative n
    m.modifyTable t (·.rawSetStr name.toUTF8 (.fn f))) m

/-- Adds a library table as a global and returns it. -/
def addLibrary (m : Machine) (name : String) (fs : List (String × Native)) : Machine × Nat :=
  let (m, t) := m.newTable
  let m := m.addFunctions t fs
  (m.setGlobal name (.table t), t)

/-- The functions of the base library. -/
def baseFunctions : List (String × Native) :=
  [("assert", .assert), ("collectgarbage", .collectgarbage), ("dofile", .loadfile),
   ("error", .error), ("getfenv", .getfenv), ("getmetatable", .getmetatable),
   ("load", .load), ("loadfile", .loadfile), ("loadstring", .loadstring), ("next", .next),
   ("pcall", .pcall), ("print", .print), ("rawequal", .rawequal), ("rawget", .rawget),
   ("rawset", .rawset), ("select", .select), ("_printregs", .printregs),
   ("setfenv", .setfenv), ("setmetatable", .setmetatable), ("tonumber", .tonumber),
   ("tostring", .tostring), ("type", .type), ("unpack", .unpack), ("xpcall", .xpcall),
   ("module", .module), ("require", .require), ("newproxy", .newproxy)]

/-- The functions of `table`. -/
def tableFunctions : List (String × Native) :=
  [("getn", .tableGetn), ("concat", .tableConcat), ("insert", .tableInsert),
   ("maxn", .tableMaxn), ("remove", .tableRemove), ("sort", .tableSort)]

/-- The functions of `string`, without `gmatch` and `gfind`. -/
def stringFunctions : List (String × Native) :=
  [("byte", .strByte), ("char", .strChar), ("dump", .strDump), ("find", .strFind),
   ("format", .strFormat), ("gsub", .strGsub), ("len", .strLen), ("lower", .strLower),
   ("match", .strMatch), ("rep", .strRep), ("reverse", .strReverse), ("sub", .strSub),
   ("upper", .strUpper)]

/-- The functions of `math`. -/
def mathFunctions : List (String × Native) :=
  [("abs", .mathAbs), ("ceil", .mathCeil), ("cos", .mathCos), ("cosh", .mathCosh),
   ("deg", .mathDeg), ("exp", .mathExp), ("floor", .mathFloor), ("fmod", .mathFmod),
   ("frexp", .mathFrexp), ("ldexp", .mathLdexp), ("log", .mathLog), ("log10", .mathLog10),
   ("max", .mathMax), ("min", .mathMin), ("mod", .mathMod), ("modf", .mathModf),
   ("pow", .mathPow), ("rad", .mathRad), ("random", .mathRandom),
   ("randomseed", .mathRandomseed), ("sin", .mathSin), ("sinh", .mathSinh),
   ("sqrt", .mathSqrt), ("tan", .mathTan), ("tanh", .mathTanh), ("acos", .mathAcos),
   ("asin", .mathAsin), ("atan", .mathAtan), ("atan2", .mathAtan2)]

/-- The functions of `coroutine`. -/
def coroutineFunctions : List (String × Native) :=
  [("create", .coCreate), ("yield", .coYield), ("resume", .coResume),
   ("running", .coRunning), ("status", .coStatus), ("wrap", .coWrap)]

/-- The functions of `os`. -/
def osFunctions : List (String × Native) :=
  [("clock", .osClock), ("difftime", .osDifftime), ("execute", .osExecute),
   ("exit", .osExit), ("date", .osDate), ("getenv", .osGetenv), ("remove", .osRemove),
   ("rename", .osRename), ("setenv", .osSetenv), ("setlocale", .osSetlocale),
   ("time", .osTime), ("tmpname", .osTmpname)]

/-- The functions of `io`. -/
def ioFunctions : List (String × Native) :=
  [("close", .ioClose), ("flush", .ioFlush), ("input", .ioInput), ("lines", .ioLines),
   ("open", .ioOpen), ("output", .ioOutput), ("popen", .ioPopen), ("read", .ioRead),
   ("tmpfile", .ioTmpfile), ("type", .ioType), ("write", .ioWrite)]

/-- An interpreter with the standard libraries; `system` adds `io` and `os`. -/
def standard (system : Bool) : Machine :=
  let m : Machine := {}
  let (m, g) := m.newTable
  let m := { m with globals := g }
  let m := m.setGlobal "_G" (.table g)
  let m := m.setGlobal "_VERSION" (.ofString "Lua 5.1")
  let m := m.setGlobal "_GOPHER_LUA_VERSION" (.ofString "GopherLua 0.1")
  let m := m.addFunctions g baseFunctions
  let (m, step) := m.newNative .ipairsStep
  let (m, ipairsFn) := m.newNative .ipairs
  let (m, nextFn) := m.newNative .next
  let (m, pairsFn) := m.newNative .pairs
  let m := { m with nextFn := nextFn, ipairsStepFn := step }
  let m := m.setGlobal "ipairs" (.fn ipairsFn)
  let m := m.setGlobal "pairs" (.fn pairsFn)
  let (m, _) := m.addLibrary "table" tableFunctions
  let (m, s) := m.addLibrary "string" stringFunctions
  let (m, gmatch) := m.newNative .strGmatch
  let m := m.modifyTable s fun t ↦
    ((t.rawSetStr "gmatch".toUTF8 (.fn gmatch)).rawSetStr "gfind".toUTF8 (.fn gmatch)).rawSetStr
      "__index".toUTF8 (.table s)
  let (m, iter) := m.newNative .gmatchIter
  let m := { m with shared := { m.shared with strings := some s }, gmatchIterFn := iter }
  let (m, mt) := m.addLibrary "math" mathFunctions
  let m := m.modifyTable mt fun t ↦
    (t.rawSetStr "pi".toUTF8 (.number 3.141592653589793)).rawSetStr "huge".toUTF8
      (.number 1.7976931348623157e308)
  let (m, _) := m.addLibrary "coroutine" coroutineFunctions
  let m := if system then (m.addLibrary "io" ioFunctions).1 else m
  let m := if system then (m.addLibrary "os" osFunctions).1 else m
  let m := m.setGlobal "dofile" .nil
  m.setGlobal "loadfile" .nil

end Machine

end LuaDebugger.Lua
