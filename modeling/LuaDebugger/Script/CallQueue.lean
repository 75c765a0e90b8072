import LuaDebugger.Script.Executor
/-!
# The executor's goroutines, step by step

`Executor` answers one operation at a time. Underneath, the callers, the runner that owns the
Lua state and the goroutine that closes the executor act at once, and each of their steps can
fall between the steps of another. This module takes the executor apart into those steps: each
action below is one thing a goroutine does that the others can observe.

* A caller (`Execute` or `ExecuteAsync`) first reads the closed flag, and then, in a separate
  `select`, puts its call on the queue, or sees `done` closed, or (without waiting) finds the
  queue full, or (waiting) finds its own context done. Go picks among the ready cases of a
  `select` at random, so each ready case is an action of its own. A waiting caller then
  receives the call's answer, or gives up when its context is done.
* The runner takes calls off the queue and runs them, one inside another while a call serves
  the queue (`ServeUntil`; the actions let any running call serve it); a call that returns has
  its answer sent. Between calls its `select` may also see its context cancelled or `done`
  closed: it then drains the queue, answering each call with the error of why it stopped,
  until it finds the queue empty, and returns.
* Closing sets the closed flag and then closes `done`.

A call is named by its number, the order in which callers made their calls.
-/

namespace LuaDebugger.Script

/-- How a caller hands its call to the executor. -/
inductive CallKind where
  /-- `Execute`: the caller waits for the answer, until its own context is done. -/
  | waited
  /-- `ExecuteAsync`: the caller returns once the call is queued. -/
  | async
  deriving DecidableEq

/-- Where a caller stands. -/
inductive CallerStage where
  /-- About to read the closed flag. -/
  | checking
  /-- Past the flag, at the `select` that queues the call. -/
  | offering
  /-- Its call queued, waiting for the answer. -/
  | waiting
  /-- Returned, with its error if any. -/
  | returned (error : Option String)
  deriving DecidableEq

/-- A caller: the kind of its call and where it stands. -/
structure Caller where
  kind : CallKind
  stage : CallerStage
  deriving DecidableEq

/-- What a call's result channel receives. -/
inductive CallAnswer where
  /-- The call's function ran; its error, a recovered panic included, if any. -/
  | ran (error : Option String)
  /-- The call was drained without running, with the error of why the runner stopped. -/
  | drained (error : String)
  deriving DecidableEq

/-- The error a caller returns with, once it has an answer. -/
def CallAnswer.error : CallAnswer → Option String
  | .ran error => error
  | .drained error => some error

/-- Where the runner, `Run`, stands. -/
inductive RunnerStage where
  /-- In its loop, or in a call that serves the queue. -/
  | serving
  /-- Draining the queue with this error. -/
  | draining (error : String)
  /-- Returned. -/
  | returned
  deriving DecidableEq

/-- An executor with the goroutines around it. -/
structure CallQueue where
  /-- How many calls the queue holds. -/
  capacity : Nat
  /-- The calls on the queue, oldest first. -/
  queue : List Nat := []
  /-- The closed flag. -/
  closed : Bool := false
  /-- Whether the channel `done` is closed. -/
  done : Bool := false
  /-- Whether the runner's context is cancelled. -/
  runCancelled : Bool := false
  /-- The runner. -/
  runner : RunnerStage := .serving
  /-- The calls running on the runner's goroutine, the innermost first. -/
  running : List Nat := []
  /-- The callers, by the number of their call. -/
  callers : Array Caller := #[]
  /-- The answers sent on the calls' result channels, in order. -/
  answers : List (Nat × CallAnswer) := []
  deriving DecidableEq

/-- An action of one goroutine. -/
inductive QueueAction where
  /-- A caller makes a call. -/
  | call (kind : CallKind)
  /-- The caller of a call reads the closed flag. -/
  | check (id : Nat)
  /-- The caller's `select` puts the call on the queue. -/
  | enqueue (id : Nat)
  /-- The caller's `select` sees `done` closed. -/
  | seeDone (id : Nat)
  /-- The `select` of a caller that does not wait finds no case ready: the queue is full. -/
  | seeFull (id : Nat)
  /-- The `select` of a caller that waits sees its own context done. -/
  | seeCancel (id : Nat)
  /-- A waiting caller receives its call's answer. -/
  | receive (id : Nat)
  /-- A waiting caller's context is done. -/
  | giveUp (id : Nat)
  /-- The runner takes the next call off the queue and runs it. -/
  | take
  /-- The innermost running call returns with `error`; its answer is sent. -/
  | finish (error : Option String)
  /-- The runner's `select` sees its context cancelled. -/
  | stopRun
  /-- The runner's `select` sees `done` closed. -/
  | stopClosed
  /-- The runner answers the next queued call with the error it stopped on. -/
  | drain
  /-- The runner finds the queue empty while draining, and returns. -/
  | drainEnd
  /-- The runner's context is cancelled. -/
  | cancelRun
  /-- Closing sets the closed flag. -/
  | closeFlag
  /-- Closing closes `done`. -/
  | closeDone

namespace CallQueue

/-- A fresh executor whose queue holds `capacity` calls, its runner started. -/
def new (capacity : Nat) : CallQueue := { capacity }

/-- Moves the caller of call `id` to `stage`. -/
def moveCaller (s : CallQueue) (id : Nat) (c : Caller) (stage : CallerStage) : CallQueue :=
  { s with callers := s.callers.set! id { c with stage } }

/-- An action of the caller of call `id`: possible when the caller is `enabled`, it leaves the
executor `next` says. -/
def withCaller (s : CallQueue) (id : Nat) (enabled : Caller → Bool)
    (next : Caller → CallQueue) : Option CallQueue :=
  match s.callers[id]? with
  | some c => if enabled c then some (next c) else none
  | none => none

/-- The executor after an action, or nothing when the action cannot be taken now. -/
def act (s : CallQueue) : QueueAction → Option CallQueue
  | .call kind => some { s with callers := s.callers.push ⟨kind, .checking⟩ }
  | .check id =>
    s.withCaller id (·.stage = .checking) fun c ↦
      s.moveCaller id c (if s.closed then .returned (some Executor.closedMessage) else .offering)
  | .enqueue id =>
    s.withCaller id (fun c ↦ c.stage = .offering ∧ s.queue.length < s.capacity) fun c ↦
      { s.moveCaller id c (if c.kind = .waited then .waiting else .returned none) with
        queue := s.queue ++ [id] }
  | .seeDone id =>
    s.withCaller id (fun c ↦ c.stage = .offering ∧ s.done) fun c ↦
      s.moveCaller id c (.returned (some Executor.closedMessage))
  | .seeFull id =>
    s.withCaller id
      (fun c ↦ c.stage = .offering ∧ c.kind = .async ∧ s.capacity ≤ s.queue.length ∧ !s.done)
      fun c ↦ s.moveCaller id c (.returned (some Executor.fullMessage))
  | .seeCancel id =>
    s.withCaller id (fun c ↦ c.stage = .offering ∧ c.kind = .waited) fun c ↦
      s.moveCaller id c (.returned (some Executor.cancelledMessage))
  | .receive id =>
    match s.answers.lookup id with
    | some a => s.withCaller id (·.stage = .waiting) fun c ↦ s.moveCaller id c (.returned a.error)
    | none => none
  | .giveUp id =>
    s.withCaller id (·.stage = .waiting) fun c ↦
      s.moveCaller id c (.returned (some Executor.cancelledMessage))
  | .take =>
    match s.runner, s.queue with
    | .serving, id :: rest => some { s with queue := rest, running := id :: s.running }
    | _, _ => none
  | .finish error =>
    match s.running with
    | id :: rest => some { s with running := rest, answers := s.answers ++ [(id, .ran error)] }
    | [] => none
  | .stopRun =>
    if s.runner = .serving ∧ s.running = [] ∧ s.runCancelled then
      some { s with runner := .draining Executor.cancelledMessage }
    else none
  | .stopClosed =>
    if s.runner = .serving ∧ s.running = [] ∧ s.done then
      some { s with runner := .draining Executor.closedMessage }
    else none
  | .drain =>
    match s.runner, s.queue with
    | .draining error, id :: rest =>
      some { s with queue := rest, answers := s.answers ++ [(id, .drained error)] }
    | _, _ => none
  | .drainEnd =>
    match s.runner, s.queue with
    | .draining _, [] => some { s with runner := .returned }
    | _, _ => none
  | .cancelRun => some { s with runCancelled := true }
  | .closeFlag => some { s with closed := true }
  | .closeDone => if s.closed ∧ !s.done then some { s with done := true } else none

/-- The executor after actions in order, or nothing when one of them cannot be taken. -/
def actAll (s : CallQueue) : List QueueAction → Option CallQueue
  | [] => some s
  | a :: as => (s.act a).bind fun s ↦ s.actAll as

/-- One action of some goroutine. -/
def Step (s s' : CallQueue) : Prop := ∃ a, s.act a = some s'

end CallQueue

end LuaDebugger.Script
