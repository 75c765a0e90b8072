import LuaDebugger.Script.Interpreter
/-!
# The call queue of a Lua state

A Lua state serves one caller at a time, so every call on it goes through an executor: a
queue of calls that one runner takes in order. A caller either waits for its call (`execute`)
or only queues it (`async`), which fails when the queue is full. The queue holds 64 calls
unless told otherwise.

While the runner runs, a call is served as soon as it is queued. Once the runner has
stopped, calls only pile up in the queue: a caller that waits gives up at its deadline,
leaving its call queued, and one whose wait was cancelled before it started gives up at
once. A call may also serve further calls while it runs, until it is told to stop or the
executor closes under it.

A closed executor refuses every call. Closing stops a runner that runs, which first answers
the calls left on the queue with the text of a closed executor; the calls a stopped runner
left on the queue stay there, unanswered. A call that fails, with a Lua error or a fault of
the host, reports the text of the failure.

Each operation here is atomic, as the callers of one thread see it; `CallQueue` takes the
operations apart into the steps of the goroutines that make them.
-/

namespace LuaDebugger.Script

/-- A call on the executor. -/
inductive Job where
  /-- Runs a chunk of Lua source. -/
  | chunk (src : ByteArray)
  /-- A call of the host that fails with a message. -/
  | fault (message : ByteArray)

/-- The state of an executor. -/
structure Executor where
  /-- The Lua state the calls run on. -/
  interpreter : Interpreter
  /-- How many calls the queue holds. -/
  capacity : Nat
  /-- The calls queued and not served. -/
  queue : List Job := []
  /-- Whether the executor was closed. -/
  closed : Bool := false
  /-- Whether the runner serves the queue. -/
  running : Bool := true

namespace Executor

/-- The text of a call on a closed executor. -/
def closedMessage : String := "lua executor is closed"

/-- The text of a call that finds the queue full. -/
def fullMessage : String := "lua executor queue full"

/-- The text of a wait that reached its deadline. -/
def deadlineMessage : String := "context deadline exceeded"

/-- The text of a wait cancelled before it started. -/
def cancelledMessage : String := "context canceled"

/-- A fresh executor on a fresh state; a size of the queue below one means 64. -/
def new (queueSize : Int) (running : Bool) : Executor :=
  { interpreter := Interpreter.new, capacity := if queueSize ≤ 0 then 64 else queueSize.toNat,
    running }

/-- Serves a call: the values of its chunk, or the text of its failure. -/
def serve (e : Executor) : Job → Executor × Except ByteArray (Array Lua.Value)
  | .chunk src =>
    let (i, r) := e.interpreter.run src
    ({ e with interpreter := i }, r)
  | .fault message => (e, .error message)

/-- Makes a call and waits for it. The runner must be running; a closed executor refuses. -/
def execute (e : Executor) (job : Job) : Executor × Except ByteArray (Array Lua.Value) :=
  if e.closed then (e, .error closedMessage.toUTF8) else e.serve job

/-- Queues a call without waiting: a running runner serves it at once, a stopped one leaves
it queued while there is room. -/
def async (e : Executor) (job : Job) : Executor × Option ByteArray :=
  if e.closed then (e, some closedMessage.toUTF8)
  else if e.running then ((e.serve job).1, none)
  else if e.queue.length < e.capacity then ({ e with queue := e.queue ++ [job] }, none)
  else (e, some fullMessage.toUTF8)

/-- Evaluates an expression in a waited call: the text of its first value, without
metamethods, and `nil` when it has none. -/
def evaluate (e : Executor) (code : ByteArray) : Executor × Except ByteArray ByteArray :=
  let (e, r) := e.execute (.chunk ("return ".toUTF8 ++ code))
  (e, r.map fun vs ↦ Lua.Heap.textBytes (vs.getD 0 .nil))

/-- Makes a call and waits for it until a deadline: a stopped runner never serves it, so the
wait ends at the deadline, with the call left queued when there was room. -/
def executeWithin (e : Executor) (job : Job) : Executor × Except ByteArray (Array Lua.Value) :=
  if e.closed then (e, .error closedMessage.toUTF8)
  else if e.running then e.serve job
  else
    let e := if e.queue.length < e.capacity then { e with queue := e.queue ++ [job] } else e
    (e, .error deadlineMessage.toUTF8)

/-- Makes a call whose wait was cancelled before it started. -/
def executeCancelled (e : Executor) : ByteArray :=
  if e.closed then closedMessage.toUTF8 else cancelledMessage.toUTF8

/-- Makes a call that serves the calls `inner` while it runs, then stops: the call's own
failure, and the result of each inner call. -/
def serveWhile (e : Executor) (inner : List Job) :
    Executor × Option ByteArray × List (Except ByteArray (Array Lua.Value)) :=
  if e.closed then (e, some closedMessage.toUTF8, [])
  else
    let (e, results) := inner.foldl (fun (e, acc) job ↦
      let (e, r) := e.serve job
      (e, acc ++ [r])) (e, [])
    (e, none, results)

/-- Closes the executor. A runner that runs sees it, fails the calls still queued with the
text of a closed executor, and returns; a stopped runner's queue keeps its calls. -/
def close (e : Executor) : Executor :=
  { e with closed := true, running := false, queue := if e.running then [] else e.queue }

/-- Makes a call that serves calls until the executor is closed under it: the executor
ends closed, and the call fails with the text of a closed executor. -/
def serveUntilClosed (e : Executor) : Executor × ByteArray := (e.close, closedMessage.toUTF8)

/-- Cancels the runner's context. A runner that runs fails the calls still queued with the
error of its cancelled context, and returns; one that has returned is not there to see it. -/
def stopRunner (e : Executor) : Executor :=
  if e.running then { e with running := false, queue := [] } else e

end Executor

end LuaDebugger.Script
