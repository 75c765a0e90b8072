import LuaDebugger.CoreInstances
/-!
# The run state of a debugged program

A debugging session moves between eight states. It starts idle; a launch makes it run,
either freely or stepping into the first statement; a pause stops it, at a breakpoint or
not; a client command from a stop starts it again in the mode the command asks for; and it
ends terminated. Each transition that changes the state is recorded, so an observer sees
the states in order.
-/

namespace LuaDebugger

/-- The state of a debugged program. -/
inductive RunState where
  | idle
  | running
  | steppingIn
  | steppingOver
  | steppingOut
  | paused
  | pausedAtBreakpoint
  | terminated
  deriving DecidableEq, Repr, Inhabited

namespace RunState

/-- The state with the given position in the list of states, if there is one. -/
def ofCode? : Int → Option RunState
  | 0 => some .idle
  | 1 => some .running
  | 2 => some .steppingIn
  | 3 => some .steppingOver
  | 4 => some .steppingOut
  | 5 => some .paused
  | 6 => some .pausedAtBreakpoint
  | 7 => some .terminated
  | _ => none

/-- The name of a state, as messages and logs show it. -/
def name : RunState → String
  | .idle => "idle"
  | .running => "running"
  | .steppingIn => "stepping-in"
  | .steppingOver => "stepping-over"
  | .steppingOut => "stepping-out"
  | .paused => "paused"
  | .pausedAtBreakpoint => "paused-at-breakpoint"
  | .terminated => "terminated"

/-- Whether the program is executing Lua code in this state. -/
def executing : RunState → Bool
  | .running | .steppingIn | .steppingOver | .steppingOut => true
  | _ => false

/-- Whether the program is stopped and waits for a client command. -/
def stopped : RunState → Bool
  | .paused | .pausedAtBreakpoint => true
  | _ => false

end RunState

/-- A client command that starts a stopped program again. A code outside the four known
commands runs the program freely. -/
inductive Command where
  | stepIn
  | stepOver
  | stepOut
  | resume
  /-- A command code that names none of the four commands. -/
  | other (code : Int)
  deriving DecidableEq, Repr

namespace Command

/-- The command with the given code. -/
def ofCode : Int → Command
  | 0 => .stepIn
  | 1 => .stepOver
  | 2 => .stepOut
  | 3 => .resume
  | c => .other c

/-- The name of a command. -/
def name : Command → String
  | .stepIn => "step-in"
  | .stepOver => "step-over"
  | .stepOut => "step-out"
  | .resume => "continue"
  | .other _ => "unknown"

/-- The state a command puts a stopped program in. -/
def target : Command → RunState
  | .stepIn => .steppingIn
  | .stepOver => .steppingOver
  | .stepOut => .steppingOut
  | _ => .running

end Command

/-- Why a transition was refused. -/
inductive SessionFault where
  /-- A launch while not idle; names the current state. -/
  | launchBusy (cur : RunState)
  /-- A command while the program executes. -/
  | commandBusy (cmd : Command) (cur : RunState)
  /-- A command before the launch. -/
  | notStarted
  /-- A command after the end. -/
  | terminated
  /-- A pause while the program is not executing. -/
  | invalidPause (cur : RunState)
  deriving DecidableEq, Repr

namespace SessionFault

/-- The message of a refused transition. -/
def message : SessionFault → String
  | .launchBusy cur => s!"launch from {cur.name}: execution already in progress"
  | .commandBusy cmd cur => s!"{cmd.name} while {cur.name}: execution already in progress"
  | .notStarted => "program not started"
  | .terminated => "program terminated"
  | .invalidPause cur => s!"pause from {cur.name}: invalid transition"

end SessionFault

/-- A session: its state and the changes of state it went through, oldest first. -/
structure Session where
  /-- The current state. -/
  state : RunState := .idle
  /-- Every change of state, as a pair of old and new state. -/
  changes : Array (RunState × RunState) := #[]
  deriving Inhabited

namespace Session

/-- Moves to `next`, recording the change when the state differs. -/
def moveTo (s : Session) (next : RunState) : Session :=
  if s.state = next then s else { state := next, changes := s.changes.push (s.state, next) }

/-- Launches the program, stepping into its first statement when `stopOnEntry` holds. -/
def launch (s : Session) (stopOnEntry : Bool) : Except SessionFault Session :=
  if s.state = .idle then .ok (s.moveTo (if stopOnEntry then .steppingIn else .running))
  else .error (.launchBusy s.state)

/-- Why a command cannot start the program from the state `cur`, if it cannot. -/
def commandFault (cmd : Command) (cur : RunState) : Option SessionFault :=
  if cur.stopped then none
  else if cur.executing then some (.commandBusy cmd cur)
  else if cur = .idle then some .notStarted
  else some .terminated

/-- Starts a stopped program again as the command asks. -/
def begin (s : Session) (cmd : Command) : Except SessionFault Session :=
  match commandFault cmd s.state with
  | some e => .error e
  | none => .ok (s.moveTo cmd.target)

/-- Stops an executing program, at a breakpoint or not. -/
def pause (s : Session) (atBreakpoint : Bool) : Except SessionFault Session :=
  if s.state.executing then
    .ok (s.moveTo (if atBreakpoint then .pausedAtBreakpoint else .paused))
  else .error (.invalidPause s.state)

/-- Ends the program, whatever its state. -/
def terminate (s : Session) : Session := s.moveTo .terminated

/-- Whether the program stopped at a breakpoint. -/
def breakpointActive (s : Session) : Bool := s.state = .pausedAtBreakpoint

end Session

end LuaDebugger
