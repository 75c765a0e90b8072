import LuaDebugger.Lua.Builtin
/-!
# Running the machine

The machine advances by `Progress` steps. `step` runs the next instruction of the script
frame on top of the running coroutine; the other steps finish what an instruction or a
built-in function started:

* `outcome`: a built-in function on top of the stack ended as its `Outcome` says: it
  returned, raised an error, called a function, reported a step of the program, resumed a
  coroutine or yielded;
* `returned`: a frame returned values, which go where its `Sink` says;
* `calling`: a function is called for the machine itself, as the handler of an error that
  `xpcall` caught.

Every step does a bounded amount of work, so `run` is a loop with fuel.

Errors unwind to the nearest frame that catches them: a built-in function that protects the
call it waits for (`pcall`, `xpcall`), the bottom frame of a coroutine (whose resumer then
sees the error), or the frame that the host started, which stops the machine with the
error and the traceback of the stack at the point where it was raised. The handler of
`xpcall` runs on top of the frames that raised the error, which are dropped only when it
ends.

A cancelled machine fails at the next instruction it fetches, with `context canceled` at
that instruction's position.
-/

namespace LuaDebugger.Lua

/-- Why the machine stopped. -/
inductive Stop where
  /-- The step hook was called with a program index and a line (among its arguments `args`);
  its frame is on top, and running on returns from it. -/
  | hook (index line : Int) (args : Array Value)
  /-- The call the host started returned. -/
  | done (vals : Array Value)
  /-- The call the host started failed with an error value, raised where the traceback
  shows. -/
  | failed (e : Value) (traceback : String)
  /-- The fuel ran out. -/
  | exhausted
  deriving Inhabited

/-- One step of the machine. -/
inductive Progress where
  /-- Run the next instruction. -/
  | next (m : Machine)
  /-- The built-in function on top ended with an outcome. -/
  | outcome (m : Machine) (o : Outcome)
  /-- A frame, already removed, returned values to a sink. -/
  | returned (m : Machine) (vals : Array Value) (sink : Sink)
  /-- Call a value with arguments, its results to a sink. -/
  | calling (m : Machine) (f : Value) (args : Array Value) (sink : Sink)
  /-- The machine stopped. -/
  | stop (m : Machine) (s : Stop)
  deriving Inhabited

namespace Progress

/-- The machine of a step. -/
def machine : Progress → Machine
  | .next m | .outcome m _ | .returned m _ _ | .calling m _ _ _ | .stop m _ => m

end Progress

namespace Machine

/-- The largest number of frames of a coroutine. -/
def maxFrames : Nat := 256

/-- Adjusts values to `want`: cut or padded with `nil`. -/
def adjust (vals : Array Value) : Want → Array Value
  | none => vals
  | some n => if vals.size ≥ n then vals.extract 0 n else vals ++ Array.replicate (n - vals.size) .nil

/-- Puts a script frame on top. -/
def putTop (m : Machine) (f : LuaFrame) : Machine := { m with frames := m.frames.push (.lua f) }

/-- Adds a cell. -/
def newCell (m : Machine) (v : Value) : Machine × Nat :=
  let (h, c) := m.heap.newCell v
  ({ m with heap := h }, c)

/-- The slot variable for a new variable holding `v`: a fresh cell when `boxed`. -/
def freshSlot (m : Machine) (v : Value) (boxed : Bool) : Machine × Slot :=
  if boxed then let (m, c) := m.newCell v; (m, .cell c) else (m, .val v)

/-- Writes into an existing variable of a frame, through its cell if it has one. -/
def writeVar (m : Machine) (f : LuaFrame) (i : Nat) (v : Value) : Machine × LuaFrame :=
  match f.slots[i]? with
  | some (.cell c) => ({ m with heap := m.heap.setCell c v }, f)
  | _ => (m, { f with slots := f.slots.set! i (.val v) })

/-- The value of a slot of a frame. -/
def readVar (m : Machine) (f : LuaFrame) (i : Nat) : Value :=
  m.heap.read (f.slots.getD i (.val .nil))

/-! ### Errors -/

/-- Where an error is caught, searching down from the top. -/
inductive Catcher where
  /-- The waiting built-in function at this position. -/
  | protectedAt (pos : Nat)
  /-- The frame at this position was started by the host or is a coroutine's bottom. -/
  | hostAt (pos : Nat)

/-- The catcher of an error raised on top of `fs`. -/
def catcher (fs : Array Frame) : Catcher :=
  let rec go (k : Nat) : Catcher :=
    match k with
    | 0 => .hostAt 0
    | k + 1 =>
      match fs[k]? with
      | some (.native nf) =>
        if nf.cont.protects ∧ k + 1 < fs.size then .protectedAt k
        else match nf.sink with
          | .host => .hostAt k
          | .handled pos => .protectedAt pos
          | _ => go k
      | some (.lua f) =>
        match f.sink with
        | .host => .hostAt k
        | .handled pos => .protectedAt pos
        | _ => go k
      | none => go k
  go fs.size

/-- Runs the continuation of the built-in function on top with an outcome of its call. -/
def continueNative (m : Machine) (r : Except Value (Array Value)) : Progress :=
  match m.frames.back? with
  | some (.native nf) =>
    let m := m.setTop (.native { nf with cont := .pass })
    let (m, o) := NativeM.exec (nf.cont.proceed r) m
    .outcome m o
  | _ => .next m

/-- The error of an operation on a state that a coroutine which lost its resumer left
behind. -/
def brokenState : Value := .str "runtime error: invalid memory address or nil pointer dereference".toUTF8

/-- Ends the running coroutine and goes back to the one that resumed it, handing it the
outcome. A coroutine that lost its resumer hands it the values it yielded then, or raises
its error in it, and is left broken rather than dead. -/
def leaveCoroutine (m : Machine) (r : Except Value (Array Value)) : Progress :=
  let t := m.current
  let th := m.thread
  let back := th.resumer.getD 0
  let m := { m with frames := #[] }
  let m := m.modifyThread t fun th ↦ match th.orphaned with
    | some _ => { th with status := .suspended, frames := #[], orphaned := none, broken := true }
    | none => { th with status := .dead, frames := #[] }
  let m := m.switchTo back
  let m := m.modifyThread back fun th ↦ { th with status := .running }
  match th.orphaned, r with
  | some vals, .ok _ => continueNative m (.ok vals)
  | some _, .error e => .outcome m (.err e)
  | none, r => continueNative m r

/-- Hands an error to the protecting built-in function at `pos`. What it does with the error
happens above the frames that raised it: a function it calls (the handler of `xpcall`)
runs on top of them, so that a traceback or a debugger sees where the error came from, and
they are dropped when that call ends (see `Sink.handled`); any other outcome drops them at
once. -/
def catchAt (m : Machine) (pos : Nat) (e : Value) : Progress :=
  match m.frames[pos]? with
  | some (.native nf) =>
    let m := m.setFrames (m.frames.set! pos (.native { nf with cont := .pass }))
    let (m, o) := NativeM.exec (nf.cont.proceed (.error e)) m
    match o with
    | .call f args k =>
      let m := m.setFrames (m.frames.set! pos (.native { nf with cont := k }))
      .calling m f args (.handled pos)
    | o => .outcome { m with frames := m.frames.extract 0 (pos + 1) } o
  | _ => continueNative { m with frames := m.frames.extract 0 (pos + 1) } (.error e)

/-- Raises an error value on top of the running coroutine. -/
def raise (m : Machine) (e : Value) : Progress :=
  match catcher m.frames with
  | .protectedAt pos => m.catchAt pos e
  | .hostAt pos =>
    if m.current = 0 then
      let tb := traceback m.frames true
      .stop { m with frames := m.frames.extract 0 pos } (.failed e tb)
    else leaveCoroutine m (.error e)

/-- Raises `msg` at the position of the frame on top. -/
def fail (m : Machine) (msg : String) : Progress := m.raise (m.positioned msg)

/-- Raises the bytes `msg` at the position of the running frame. -/
def failWith (m : Machine) (msg : ByteArray) : Progress := m.raise (m.positionedAt 1 msg)

/-! ### Calls -/

/-- The function a value calls: itself, or its `__call` metamethod with the value as an
extra first argument. -/
def callee (m : Machine) (f : Value) (args : Array Value) : Option (Nat × Array Value) :=
  match f with
  | .fn i => some (i, args)
  | _ =>
    match m.metaField f "__call" with
    | .fn i => some (i, #[f] ++ args)
    | _ => none

/-- A new frame for a closure called with `args`: parameters in the first slots (in cells
for those nested functions capture), the extra arguments kept when the function is
variadic, and the local `arg` after the parameters. -/
def closureFrame (m : Machine) (fid : Nat) (c : Closure) (args : Array Value)
    (callName : Option String) (sink : Sink) : Machine × LuaFrame :=
  let p := c.proto
  let size := max p.slots (p.params + 1)
  let boxed (i : Nat) : Bool := p.boxedParams.contains i
  let (m, slots) := (List.range p.params).foldl (fun (acc : Machine × Array Slot) i ↦
    let (m, s) := acc.1.freshSlot (args.getD i .nil) (boxed i)
    (m, acc.2.set! i s)) (m, Array.replicate size (.val .nil))
  let varargs := if p.variadic then args.extract p.params args.size else #[]
  let (m, slots) :=
    if p.hasArg then
      let (m, argv) : Machine × Value :=
        if p.argTable then
          let (m, t) := m.newTable ((Table.ofList varargs.toList).rawSetStr "n".toUTF8
            (.number (Float.ofNat varargs.size)))
          (m, .table t)
        else (m, .nil)
      let (m, s) := m.freshSlot argv (boxed p.params)
      (m, slots.set! p.params s)
    else (m, slots)
  (m, ⟨fid, c, 0, slots, #[], [], varargs, 0, callName, sink, []⟩)

/-- Calls a value with arguments; its results go to `sink`. -/
def callValue (m : Machine) (f : Value) (args : Array Value) (callName : Option String)
    (sink : Sink) : Progress :=
  match m.callee f args with
  | none => m.fail "attempt to call a non-function object"
  | some (fid, args) =>
    if m.frames.size ≥ maxFrames then m.fail "stack overflow"
    else
      match m.heap.fn fid with
      | .closure c =>
        let (m, fr) := m.closureFrame fid c args callName sink
        .next (m.putTop fr)
      | .native n _ =>
        let nf : NativeFrame := { fn := fid, native := n, callName, sink, cont := .pass }
        let m := m.pushFrame (.native nf)
        let (m, o) := NativeM.exec (n.invoke fid args) m
        .outcome m o

/-- Makes a tail call from the script frame `f`, which has been taken off the stack: a
closure replaces the frame, counting one more tail call; a built-in function runs above
it and the frame returns what it returns. -/
def tailCall (m : Machine) (f : LuaFrame) (fv : Value) (args : Array Value) (name : String) :
    Progress :=
  match m.callee fv args with
  | none => (m.putTop f).fail "attempt to call a non-function object"
  | some (fid, args) =>
    match m.heap.fn fid with
    | .closure c =>
      let (m, fr) := m.closureFrame fid c args f.callName f.sink
      .next (m.putTop { fr with tailCalls := f.tailCalls + 1 })
    | .native .. => (m.putTop f).callValue fv args (some name) .tail

/-! ### Coroutines -/

/-- Resumes coroutine `t` from the built-in function on top, which waits for it. -/
def resumeThread (m : Machine) (t : Nat) (args : Array Value) (wrapped : Bool) : Progress :=
  let th := m.threads.getD t {}
  let refuse (msg : String) : Progress :=
    if wrapped then m.fail msg
    else .outcome m (.ret #[.bool false, .ofString msg])
  if t = m.current ∨ th.status = .running ∨ th.status = .normal then
    refuse "can not resume a running thread"
  else if th.status = .dead then refuse "can not resume a dead thread"
  else if th.broken then m.raise brokenState
  else
    let me := m.current
    let m := match m.frames.back? with
      | some (.native nf) => m.setTop (.native { nf with cont := .resume wrapped })
      | _ => m
    let m := m.modifyThread me fun th ↦ { th with status := .normal }
    let m := m.modifyThread t fun th ↦ { th with status := .running, resumer := some me }
    let m := m.switchTo t
    match th.body with
    | some body =>
      let m := m.modifyThread t fun th ↦ { th with body := none }
      m.callValue body args none .host
    | none =>
      -- suspended in `yield`, whose frame is on top
      .returned { m with frames := m.frames.pop } args
        ((m.frames.back?.map Frame.sink).getD (.leave none))

/-- The built-in function whose call a yield on top of `fs` is inside, if one is above the
coroutine's bottom: its position, and whether the yield is that call itself, or a tail call
of it. -/
def yieldBoundary (fs : Array Frame) : Option (Nat × Bool) :=
  let rec go (k : Nat) (direct : Bool) : Option (Nat × Bool) :=
    match k with
    | 0 => none
    | k + 1 =>
      match (fs[k]?.map Frame.sink).getD .host with
      | .native => some (k - 1, direct)
      | .handled pos => some (pos, direct)
      | .host => none
      | .tail => go k direct
      | _ => go k false
  go fs.size true

/-- Suspends the running coroutine in `yield` and hands values to its resumer. A yield
inside a call that a built-in function made cannot suspend the coroutine: it loses its
resumer (see `Thread.orphaned`), and the call ends at once without results. When the yield
was deeper than that call, the built-in function breaks when it returns. -/
def yieldThread (m : Machine) (vals : Array Value) : Progress :=
  if m.current = 0 ∨ m.thread.orphaned.isSome then
    m.fail "can not yield from outside of a coroutine"
  else if let some (pos, direct) := yieldBoundary m.frames then
    let m := m.modifyThread m.current fun th ↦ { th with orphaned := some vals }
    let frames := m.frames.extract 0 (pos + 1)
    let frames := if direct then frames else frames.modify pos fun
      | .native nf => .native { nf with breaksOnReturn := true }
      | fr => fr
    continueNative { m with frames := frames } (.ok #[])
  else
    let t := m.current
    let back := (m.thread.resumer).getD 0
    let m := m.modifyThread t fun th ↦ { th with status := .suspended }
    let m := m.switchTo back
    let m := m.modifyThread back fun th ↦ { th with status := .running }
    m.continueNative (.ok vals)

/-! ### Built-in functions ending -/

/-- Goes on after the built-in function on top ended with an outcome. -/
def finishNative (m : Machine) (o : Outcome) : Progress :=
  match o with
  | .ret vals =>
    match m.frames.back? with
    | some (.native nf) =>
      if nf.breaksOnReturn then m.popFrame.raise brokenState
      else .returned m.popFrame vals nf.sink
    | some fr => .returned m.popFrame vals fr.sink
    | none => .stop m (.done vals)
  | .err e => m.raise e
  | .call f args k =>
    let m := match m.frames.back? with
      | some (.native nf) => m.setTop (.native { nf with cont := k })
      | _ => m
    m.callValue f args none .native
  | .hook index line args => .stop m (.hook index line args)
  | .resume t args wrapped => m.resumeThread t args wrapped
  | .yield vals => m.yieldThread vals

/-! ### Instructions -/

/-- Goes on with an operation that may need a metamethod: pushes its value, calls the
metamethod with its results to `sink`, or fails. -/
def reduceInto (m : Machine) (f : LuaFrame) (r : Reduced) (sink : Sink) : Progress :=
  match r with
  | .value v => .next (m.putTop { f with stack := f.stack.push v })
  | .call h args => (m.putTop f).callValue h args none sink
  | .test h args neg =>
    match sink with
    | .truth n => (m.putTop f).callValue h args none (.truth (neg != n))
    | s => (m.putTop f).callValue h args none s
  | .fail msg => (m.putTop f).failWith msg

/-- Concatenates `left` (the nearest operand first) with `right`, calling `__concat` where
needed. -/
def concatenate (m : Machine) (f : LuaFrame) (left : List Value) (right : Value) : Progress :=
  let rec go (left : List Value) (right : Value) (fuel : Nat) : Progress :=
    match fuel with
    | 0 => .next (m.putTop { f with stack := f.stack.push right })
    | fuel + 1 =>
      match left with
      | [] => .next (m.putTop { f with stack := f.stack.push right })
      | _ =>
        match m.concatStep left right with
        | (rest, .value v) => go rest v fuel
        | (rest, .call h args) => (m.putTop f).callValue h args none (.concat rest)
        | (_, .test h args _) => (m.putTop f).callValue h args none (.concat [])
        | (_, .fail msg) => (m.putTop f).failWith msg
  go left right (left.length + 1)

/-- Pops `n` values off a frame's operand stack; they come first to last. -/
def popN (f : LuaFrame) (n : Nat) : LuaFrame × Array Value :=
  let k := f.stack.size - n
  ({ f with stack := f.stack.extract 0 k }, f.stack.extract k f.stack.size)

/-- Pops the values above the latest mark, and the mark. -/
def popMarked (f : LuaFrame) : LuaFrame × Array Value :=
  match f.marks with
  | k :: rest => ({ f with stack := f.stack.extract 0 k, marks := rest }, f.stack.extract k f.stack.size)
  | [] => ({ f with stack := #[] }, f.stack)

/-- The environment table of a frame's function. -/
def envOf (m : Machine) (f : LuaFrame) : Nat := (m.heap.fn f.fn).env

/-- The cells a new closure captures from a frame: a slot's cell (made on the spot for a
slot that has none), or an upvalue of the frame's function. -/
def captureCells (m : Machine) (f : LuaFrame) (caps : List Capture) :
    Machine × LuaFrame × Array Nat :=
  caps.foldl (fun (acc : Machine × LuaFrame × Array Nat) cap ↦
    let (m, f, cells) := acc
    match cap with
    | .upvalue j => (m, f, cells.push (f.closure.upvalues.getD j 0))
    | .slot s =>
      match f.slots[s]? with
      | some (.cell c) => (m, f, cells.push c)
      | _ =>
        let (m, c) := m.newCell (m.readVar f s)
        (m, { f with slots := f.slots.set! s (.cell c) }, cells.push c)) (m, f, #[])

/-- Writes the results of a generic loop's iterator into its variables. -/
def writeLoopVars (m : Machine) (f : LuaFrame) (base : Nat) (boxed : List Bool)
    (vals : Array Value) : Machine × LuaFrame :=
  (boxed.zipIdx).foldl (fun (acc : Machine × LuaFrame) (b, k) ↦
    let (m, f) := acc
    let (m, s) := m.freshSlot (vals.getD k .nil) b
    (m, { f with slots := f.slots.set! (base + 3 + k) s })) (m, f)

/-- The number in a loop slot, if it is one. -/
def loopNumber (m : Machine) (f : LuaFrame) (i : Nat) : Option Float :=
  match m.readVar f i with
  | .number x => some x
  | _ => none

/-- Runs one instruction of the script frame `f`, taken off the top, whose `pc` has moved
past it. -/
def exec (m : Machine) (f : LuaFrame) (i : Instr) : Progress :=
  let push (v : Value) : Progress := .next (m.putTop { f with stack := f.stack.push v })
  match i with
  | .pushNil n => .next (m.putTop { f with stack := f.stack ++ Array.replicate n .nil })
  | .pushBool b => push (.bool b)
  | .pushNum x => push (.number x)
  | .pushStr s => push (.str s)
  | .getSlot k => push (m.readVar f k)
  | .setSlot k =>
    let (f, vs) := popN f 1
    let (m, f) := m.writeVar f k (vs.getD 0 .nil)
    .next (m.putTop f)
  | .initSlot k boxed =>
    let (f, vs) := popN f 1
    let (m, s) := m.freshSlot (vs.getD 0 .nil) boxed
    .next (m.putTop { f with slots := f.slots.set! k s })
  | .getUpvalue k => push (m.heap.cell (f.closure.upvalues.getD k 0))
  | .setUpvalue k =>
    let (f, vs) := popN f 1
    .next ({ m with heap := m.heap.setCell (f.closure.upvalues.getD k 0) (vs.getD 0 .nil) }.putTop f)
  | .getGlobal name => m.reduceInto f (m.index (.table (m.envOf f)) (.str name)) (.leave (some 1))
  | .setGlobal name =>
    let (f, vs) := popN f 1
    match m.setIndex (.table (m.envOf f)) (.str name) (vs.getD 0 .nil) with
    | (m, .value _) => .next (m.putTop f)
    | (m, r) => m.reduceInto f r (.leave (some 0))
  | .index =>
    let (f, vs) := popN f 2
    m.reduceInto f (m.index (vs.getD 0 .nil) (vs.getD 1 .nil)) (.leave (some 1))
  | .setIndex =>
    let (f, vs) := popN f 3
    match m.setIndex (vs.getD 0 .nil) (vs.getD 1 .nil) (vs.getD 2 .nil) with
    | (m, .value _) => .next (m.putTop f)
    | (m, r) => m.reduceInto f r (.leave (some 0))
  | .method name =>
    let (f, vs) := popN f 1
    let obj := vs.getD 0 .nil
    match m.index obj (.str name) with
    | .value v => .next (m.putTop { f with stack := (f.stack.push v).push obj })
    | r => m.reduceInto f r (.method obj)
  | .newTable room =>
    let (m, t) := m.newTable { Table.empty with room := room }
    .next (m.putTop { f with stack := f.stack.push (.table t) })
  | .setList t first n =>
    let (f, vs) := popN f n
    match m.readVar f t with
    | .table tid =>
      let m := m.modifyTable tid fun tb ↦ (vs.toList.zipIdx).foldl
        (fun tb (v, k) ↦ tb.setIndexGrowing (first + k) v) tb
      .next (m.putTop f)
    | _ => .next (m.putTop f)
  | .setListAll t first =>
    let (f, vs) := popMarked f
    match m.readVar f t with
    | .table tid =>
      let m := m.modifyTable tid fun tb ↦ (vs.toList.zipIdx).foldl
        (fun tb (v, k) ↦ tb.setIndexGrowing (first + k) v) tb
      .next (m.putTop f)
    | _ => .next (m.putTop f)
  | .closure k =>
    let p := f.closure.proto.protos.getD k default
    let (m, f, cells) := m.captureCells f p.captures.toList
    let (h, fid) := m.heap.newFn (.closure { proto := p, upvalues := cells, env := m.envOf f })
    .next ({ m with heap := h }.putTop { f with stack := f.stack.push (.fn fid) })
  | .mark => .next (m.putTop { f with marks := f.stack.size :: f.marks })
  | .call argc want name =>
    let (f, vs) := popN f (argc + 1)
    (m.putTop f).callValue (vs.getD 0 .nil) (vs.extract 1 vs.size) (some name) (.leave want)
  | .callAll want name =>
    let (f, vs) := popMarked f
    (m.putTop f).callValue (vs.getD 0 .nil) (vs.extract 1 vs.size) (some name) (.leave want)
  | .tailCall argc name =>
    let (f, vs) := popN f (argc + 1)
    m.tailCall f (vs.getD 0 .nil) (vs.extract 1 vs.size) name
  | .tailCallAll name =>
    let (f, vs) := popMarked f
    m.tailCall f (vs.getD 0 .nil) (vs.extract 1 vs.size) name
  | .ret n =>
    let (_, vs) := popN f n
    .returned m vs f.sink
  | .retAll =>
    let (_, vs) := popMarked f
    .returned m vs f.sink
  | .vararg want => .next (m.putTop { f with stack := f.stack ++ adjust f.varargs want })
  | .pop n => .next (m.putTop (popN f n).1)
  | .jump t => .next (m.putTop { f with pc := t })
  | .jumpIfFalse t =>
    let (f, vs) := popN f 1
    .next (m.putTop (if (vs.getD 0 .nil).truthy then f else { f with pc := t }))
  | .andJump t =>
    if (f.stack.back?.getD .nil).truthy then .next (m.putTop (popN f 1).1)
    else .next (m.putTop { f with pc := t })
  | .orJump t =>
    if (f.stack.back?.getD .nil).truthy then .next (m.putTop { f with pc := t })
    else .next (m.putTop (popN f 1).1)
  | .arith op =>
    let (f, vs) := popN f 2
    m.reduceInto f (m.arith op (vs.getD 0 .nil) (vs.getD 1 .nil)) (.leave (some 1))
  | .neg =>
    let (f, vs) := popN f 1
    m.reduceInto f (m.negate (vs.getD 0 .nil)) (.leave (some 1))
  | .not =>
    let (f, vs) := popN f 1
    .next (m.putTop { f with stack := f.stack.push (.bool !(vs.getD 0 .nil).truthy) })
  | .len =>
    let (f, vs) := popN f 1
    m.reduceInto f (m.length (vs.getD 0 .nil)) (.leave (some 1))
  | .concat n =>
    let (f, vs) := popN f n
    let ops := vs.toList.reverse
    match ops with
    | right :: left => m.concatenate f left right
    | [] => .next (m.putTop { f with stack := f.stack.push (.str ByteArray.empty) })
  | .compare op negate swapped =>
    let (f, vs) := popN f 2
    let (a, b) := if swapped then (vs.getD 1 .nil, vs.getD 0 .nil) else (vs.getD 0 .nil, vs.getD 1 .nil)
    match m.compare op a b with
    | .value v => .next (m.putTop { f with stack := f.stack.push (.bool (v.truthy != negate)) })
    | r => m.reduceInto f r (.truth negate)
  | .forPrep base test =>
    match m.loopNumber f base with
    | none => (m.putTop f).fail "for statement init must be a number"
    | some init =>
      match m.loopNumber f (base + 2) with
      | none => (m.putTop f).fail "for statement step must be a number"
      | some step =>
        .next (m.putTop { f with slots := f.slots.set! base (.val (.number (init - step))), pc := test })
  | .forLoop base body boxed =>
    match m.loopNumber f base, m.loopNumber f (base + 1), m.loopNumber f (base + 2) with
    | none, _, _ => (m.putTop f).fail "for statement init must be a number"
    | _, none, _ => (m.putTop f).fail "for statement limit must be a number"
    | _, _, none => (m.putTop f).fail "for statement step must be a number"
    | some init, some limit, some step =>
      let v := init + step
      let f := { f with slots := f.slots.set! base (.val (.number v)) }
      if (step > 0 ∧ v ≤ limit) ∨ (step ≤ 0 ∧ v ≥ limit) then
        let (m, s) := m.freshSlot (.number v) boxed
        .next (m.putTop { f with slots := f.slots.set! (base + 3) s, pc := body })
      else .next (m.putTop f)
  | .forCall base boxed =>
    (m.putTop f).callValue (m.readVar f base) #[m.readVar f (base + 1), m.readVar f (base + 2)]
      none (.loopVars base boxed)
  | .forNext base body =>
    let v := m.readVar f (base + 3)
    if v.isNil then .next (m.putTop f)
    else .next (m.putTop { f with slots := f.slots.set! (base + 2) (.val v), pc := body })

/-- Runs the next instruction of the running coroutine. A built-in function on top is one
that stopped the machine (the step hook): it returns nothing. -/
def step (m : Machine) : Progress :=
  match m.frames.back? with
  | none => .stop m (.done #[])
  | some (.native nf) => .returned m.popFrame #[] nf.sink
  | some (.lua f) =>
    let m := m.popFrame
    match f.closure.proto.code[f.pc]? with
    | none => .returned m #[] f.sink
    | some i =>
      let f := { f with pc := f.pc + 1 }
      if m.cancelled then (m.putTop f).fail "context canceled"
      else m.exec f i

/-- Hands returned values to where they go. -/
def deliver (m : Machine) (vals : Array Value) (sink : Sink) : Progress :=
  -- the call has returned, so what the debugger wrote into its registers is gone
  let onTop (g : LuaFrame → Progress) : Progress :=
    match m.frames.back? with
    | some (.lua f) => g { f with held := [] }
    | _ => .next m
  match sink with
  | .leave want => onTop fun f ↦ .next (m.popFrame.putTop { f with stack := f.stack ++ adjust vals want })
  | .truth negate =>
    onTop fun f ↦ .next (m.popFrame.putTop
      { f with stack := f.stack.push (.bool ((vals.getD 0 .nil).truthy != negate)) })
  | .loopVars base boxed =>
    onTop fun f ↦
      let (m', f) := m.popFrame.writeLoopVars f base boxed vals
      .next (m'.putTop f)
  | .concat left => onTop fun f ↦ m.popFrame.concatenate f left (vals.getD 0 .nil)
  | .method self =>
    onTop fun f ↦ .next (m.popFrame.putTop { f with stack := (f.stack.push (vals.getD 0 .nil)).push self })
  | .tail => onTop fun f ↦ .returned m.popFrame vals f.sink
  | .native => m.continueNative (.ok vals)
  | .handled pos => continueNative { m with frames := m.frames.extract 0 (pos + 1) } (.ok vals)
  | .host => if m.current = 0 then .stop m (.done vals) else m.leaveCoroutine (.ok vals)

end Machine

namespace Progress

/-- Takes one step. -/
def advance : Progress → Progress
  | .next m => m.step
  | .outcome m o => m.finishNative o
  | .returned m vals sink => m.deliver vals sink
  | .calling m f args sink => m.callValue f args none sink
  | p@(.stop ..) => p

end Progress

namespace Machine

/-- Runs until the machine stops or the fuel runs out. -/
def runFrom : Nat → Progress → Machine × Stop
  | 0, p => (p.machine, .exhausted)
  | _ + 1, .stop m s => (m, s)
  | fuel + 1, p => runFrom fuel p.advance

/-- The steps a run may take before it counts as endless. -/
def defaultFuel : Nat := 200000000

/-- Calls a function for the host on the main coroutine and runs until it ends or the
machine stops. -/
def callFromHost (m : Machine) (f : Value) (args : Array Value) (fuel : Nat := defaultFuel) :
    Machine × Stop :=
  runFrom fuel (m.callValue f args none .host)

/-- Runs on after a stop at the step hook. -/
def resumeRun (m : Machine) (fuel : Nat := defaultFuel) : Machine × Stop :=
  runFrom fuel (.next m)

end Machine

end LuaDebugger.Lua
