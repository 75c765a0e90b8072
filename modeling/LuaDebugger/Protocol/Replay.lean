import LuaDebugger.Protocol.Dispatcher
/-!
# An engine with answers given in advance

A `ReplayEngine` answers the dispatcher from fixed tables instead of running a program: the
frames and variables of a pretend pause, the results of evaluating given lines, the values
of given variables, and the failures of given kinds of step. It keeps its breakpoints and
its log like a real engine and records each step it was asked to take, so the dispatcher's
handling of every request can be observed on its own.
-/

namespace LuaDebugger

/-- A list of answers by key: results, or the text of a failure. -/
abbrev Answers := List (ByteArray × Except ByteArray (List Datum))

/-- The state of an engine with answers given in advance. -/
structure ReplayEngine where
  /-- The breakpoints in force. -/
  registry : Registry := {}
  /-- The open files. -/
  files : List OpenFile := []
  /-- The log, written from `debug` on. -/
  journal : Journal := { threshold := .debug }
  /-- The call stack, or the failure of listing it. -/
  frames : Except ByteArray (List Frame) := .ok []
  /-- The variables, or the failure of listing them. -/
  vars : Except ByteArray (List Variable) := .ok []
  /-- The answers to evaluating lines, by line. -/
  evals : Answers := []
  /-- The answers to reading variables, by name. -/
  reads : Answers := []
  /-- The failures of steps, by the name of the step. -/
  stepErrors : List (String × ByteArray) := []
  /-- The names of the steps taken, in order. -/
  steps : Array String := #[]

/-- The name of the step a command takes. -/
def stepName : Command → String
  | .stepIn => "step_in"
  | .stepOver => "step_over"
  | .stepOut => "step_out"
  | _ => "continue"

instance : DebugEngine ReplayEngine where
  breakpoints s := s.registry
  setBreakpoints s r := { s with registry := r }
  openFile s id := s.files.find? (·.id = id)
  journal s := s.journal
  setJournal s j := { s with journal := j }
  scopeStack := do return (← get).frames
  localVariables := do return (← get).vars
  executeLine src := do
    return (((← get).evals.find? (·.1 == src)).map (·.2)).getD (.ok [])
  readVariable name := do
    match (← get).reads.find? (·.1 == name) with
    | some (_, .error e) => return .error e
    | some (_, .ok vs) => return .ok (vs.head?.getD .null)
    | none => return .error ("undefined variable: ".toUTF8 ++ name)
  run c := do
    let s ← get
    set { s with steps := s.steps.push (stepName c) }
    match s.stepErrors.find? (·.1 = stepName c) with
    | some (_, e) => return .error e
    | none => return .ok ()

end LuaDebugger
