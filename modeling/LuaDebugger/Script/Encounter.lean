import LuaDebugger.Script.Scope
/-!
# An evaluation and a command at a paused program, step by step

A client evaluating a line takes two steps before the line runs: it checks that the program
can be inspected, and then puts its call on the executor's queue. The runner, parked in the
pause, serves the queue until the pause's channel closes. Another client's command starts the
program from the pause: it moves the session and closes that channel. The runner's `select`
may then find the channel closed and the call queued at once, and takes either: it runs the
call, or it leaves the pause, and the program runs on to its next pause or its end, where the
runner serves the queue again. Each of these is a step here, and they come in any order.
-/

namespace LuaDebugger.Script

/-- Where the client evaluating a line stands. -/
inductive LineStage where
  /-- About to check that the program can be inspected. -/
  | checking
  /-- Past the check, about to queue its call. -/
  | checked
  /-- Its call on the executor's queue. -/
  | queued
  /-- Refused by the check. -/
  | refused (fault : EngineFault)
  /-- Its call ran: the answer, or none while the line is parked at a pause. -/
  | ran (answer : Option (Except EngineFault (List Datum)))

/-- A line parked at a pause: its call ran into a step report where the program stopped. -/
def LineStage.parked : LineStage → Bool
  | .ran none => true
  | _ => false

/-- A program, a client evaluating a line on it, and the runner. -/
structure Encounter where
  engine : Engine
  /-- The line the client evaluates. -/
  line : ByteArray
  stage : LineStage := .checking

/-- A step of the evaluating client, another client or the runner. -/
inductive EncounterAction where
  /-- The evaluating client checks that the program can be inspected. -/
  | check
  /-- It puts its call on the executor's queue. -/
  | enqueue
  /-- Another client's command starts the program from its pause. -/
  | begin (cmd : Command)
  /-- The runner takes the queued call and runs it. -/
  | serve
  /-- The runner finds the pause's channel closed and leaves the pause: the program runs on.
  A line parked at a pause is left there. -/
  | leave

namespace Engine

/-- The program going on from its pause once a command has begun: to its next pause or its
end. -/
def goOn (e : Engine) : Engine :=
  let e := { e with suspended := none }
  let (m, stop) := e.machine.resumeRun
  drive .quiet { e with machine := m } hookFuel stop

end Engine

namespace Encounter

/-- The encounter after a step, or nothing when the step cannot be taken now. -/
def act (x : Encounter) : EncounterAction → Option Encounter
  | .check =>
    match x.stage with
    | .checking => some { x with stage := match x.engine.inspectable with
        | .error f => .refused f
        | .ok () => .checked }
    | _ => none
  | .enqueue =>
    match x.stage with
    | .checked => some { x with stage := .queued }
    | _ => none
  | .begin cmd =>
    match x.engine.beginCommand cmd with
    | .ok e => some { x with engine := e }
    | .error _ => none
  | .serve =>
    match x.stage with
    | .queued =>
      let (e, answer) := x.engine.evaluate x.line
      some { x with engine := e, stage := .ran answer }
    | _ => none
  | .leave =>
    -- the pause's channel is closed once a command has begun: the session executes
    if x.engine.session.state.executing && !x.stage.parked then
      some { x with engine := x.engine.goOn }
    else none

/-- The encounter after steps in order, or nothing when one of them cannot be taken. -/
def actAll (x : Encounter) : List EncounterAction → Option Encounter
  | [] => some x
  | a :: as => (x.act a).bind fun x ↦ x.actAll as

end Encounter

end LuaDebugger.Script
