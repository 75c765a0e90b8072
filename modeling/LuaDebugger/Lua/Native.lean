import LuaDebugger.Lua.State
/-!
# Built-in functions: arguments and errors

A built-in function reads its arguments, may change the machine, and ends with an
`Outcome`; it runs in `NativeM`, which fails with the error value it raises. Errors carry
the position of the nearest script frame, as errors raised at level 1 do.

The argument readers give the messages of bad arguments:

* `checkAny` wants an argument to be present (`value expected`);
* `checkInt` and `optInt` want a number, which they truncate to an integer;
* `checkNumber` also takes a string that reads as a number;
* `checkString` also takes a number, as its text;
* `checkTable`, `checkFunction` and `checkThread` want that type;
* an `opt…` reader gives its default for a missing or `nil` argument.

Arguments are counted from 1, and a missing one reads as `nil`.
-/

namespace LuaDebugger.Lua

/-- The monad of built-in functions. -/
abbrev NativeM := StateT Machine (Except Value)

namespace NativeM

/-- Raises `msg` with the position of the nearest script frame. -/
def raise (msg : String) : NativeM α := do throw ((← get).positioned msg)

/-- Raises the bytes `msg` with the position of the nearest script frame. -/
def raiseBytes (msg : ByteArray) : NativeM α := do throw ((← get).positionedAt 1 msg)

/-- Raises `msg` as it is, without a position: the failure of a built-in function that
breaks on an operation it cannot do, rather than reporting a misuse. -/
def raiseRaw (msg : String) : NativeM α := throw (.str msg.toUTF8)

/-- Raises the error of a bad argument. -/
def argError (n : Nat) (msg : String) : NativeM α := do throw ((← get).argError n msg)

/-- The argument at position `n`. -/
def arg (args : Array Value) (n : Nat) : Value := args.getD (n - 1) .nil

/-- Raises the error of an argument of the wrong type. -/
def typeError (args : Array Value) (n : Nat) (expected : String) : NativeM α :=
  argError n (expected ++ " expected, got " ++ (arg args n).typeName)

/-- An argument that must be present. -/
def checkAny (args : Array Value) (n : Nat) : NativeM Value :=
  if n > args.size then argError n "value expected" else pure (arg args n)

/-- A number argument truncated to an integer. -/
def checkInt (args : Array Value) (n : Nat) : NativeM Int :=
  match arg args n with
  | .number x => pure (truncInt x)
  | _ => typeError args n "number"

/-- A number argument, or a string that reads as one. -/
def checkNumber (args : Array Value) (n : Nat) : NativeM Float :=
  match arg args n with
  | .number x => pure x
  | .str s =>
    match parseNumber? s with
    | some x => pure x
    | none => typeError args n "number"
  | _ => typeError args n "number"

/-- A string argument, or a number as its text. -/
def checkString (args : Array Value) (n : Nat) : NativeM ByteArray :=
  match arg args n with
  | .str s => pure s
  | .number x => pure (numberText x).toUTF8
  | _ => typeError args n "string"

/-- A table argument. -/
def checkTable (args : Array Value) (n : Nat) : NativeM Nat :=
  match arg args n with
  | .table t => pure t
  | _ => typeError args n "table"

/-- A function argument. -/
def checkFunction (args : Array Value) (n : Nat) : NativeM Nat :=
  match arg args n with
  | .fn f => pure f
  | _ => typeError args n "function"

/-- A coroutine argument. -/
def checkThread (args : Array Value) (n : Nat) : NativeM Nat :=
  match arg args n with
  | .thread t => pure t
  | _ => typeError args n "thread"

/-- An integer argument, `d` when missing. -/
def optInt (args : Array Value) (n : Nat) (d : Int) : NativeM Int :=
  match arg args n with
  | .nil => pure d
  | .number x => pure (truncInt x)
  | _ => typeError args n "number"

/-- A number argument, `d` when missing. -/
def optNumber (args : Array Value) (n : Nat) (d : Float) : NativeM Float :=
  match arg args n with
  | .nil => pure d
  | .number x => pure x
  | _ => typeError args n "number"

/-- A string argument, `d` when missing. -/
def optString (args : Array Value) (n : Nat) (d : ByteArray) : NativeM ByteArray :=
  match arg args n with
  | .nil => pure d
  | .str s => pure s
  | _ => typeError args n "string"

/-- An argument of one of the given types. -/
def checkTypes (args : Array Value) (n : Nat) (types : List String) : NativeM Value := do
  let v := arg args n
  if types.contains v.typeName then pure v
  else argError n (" or ".intercalate types ++ " expected, got " ++ v.typeName)

/-- Returns values. -/
def ret (vals : Array Value) : NativeM Outcome := pure (.ret vals)

/-- Returns one value. -/
def ret1 (v : Value) : NativeM Outcome := pure (.ret #[v])

/-- Returns nothing. -/
def ret0 : NativeM Outcome := pure (.ret #[])

/-- Runs a built-in function: its outcome, or the error it raised, with the machine it
leaves. -/
def exec (x : NativeM Outcome) (m : Machine) : Machine × Outcome :=
  match x.run m with
  | .ok (o, m') => (m', o)
  | .error e => (m, .err e)

end NativeM

end LuaDebugger.Lua
