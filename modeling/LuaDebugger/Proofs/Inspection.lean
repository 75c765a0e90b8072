import Mathlib
import LuaDebugger.Script.Scope
import LuaDebugger.Script.Encounter
import LuaDebugger.Proofs.EngineSteps
/-!
# Inspecting a paused program leaves it paused

A client inspects the paused program with four calls: evaluating a line, reading a variable,
listing the variables and listing the call stack. Each is one call on the engine, taken whole:
it checks that the program can be inspected, and runs only then. A call that finds the program
executing is refused and changes nothing (`inspect_of_error`, `inspectable_of_executing`).

Reading a variable and the two listings change nothing at all. Evaluating a line runs Lua code
on the main coroutine, and that code may reach breakpoints and instrumented functions; each
step report it makes returns at once, so the evaluation changes the machine, the printed lines
and the log and nothing else (`RunsCodeOnly`, `evaluate_runsCodeOnly`). The session, the depth
of the pause and the hook's arguments stay as they were, and the evaluation is a step of the
engine's runs that is no pause (`RunsCodeOnly.step`).

`inspection_keeps_the_pause` puts this together, with the two orders in which an inspection
and a client command can meet a paused program: inspected first, the program is still paused
and the command starts it as it would have; started first, the inspection is refused.

Taken apart into the steps of its client and the runner (`Encounter`), an evaluation checks
the program and only then queues its line. With no command begun between the check and the
run, the line runs on the program the check found, and keeps the pause
(`Encounter.line_run_after_check_keeps_pause`). A command begun in between starts the
program, and a line the runner takes before leaving the pause runs on an executing program:
a step report it reaches is checked as the program's own are, and may park it at a pause.
-/

namespace LuaDebugger.Script

open Lua (Machine Value)

namespace Engine

/-! ### Work that only runs code -/

/-- `e'` is `e` but for its machine, its collected lines and its log: what running Lua code
changes, and nothing else. -/
def RunsCodeOnly (e e' : Engine) : Prop :=
  ∃ m o j, e' = { e with machine := m, output := o, journal := j }

namespace RunsCodeOnly

theorem refl (e : Engine) : RunsCodeOnly e e := ⟨e.machine, e.output, e.journal, rfl⟩

theorem trans {e e' e'' : Engine} (h : RunsCodeOnly e e') (h' : RunsCodeOnly e' e'') :
    RunsCodeOnly e e'' := by
  obtain ⟨m, o, j, rfl⟩ := h
  obtain ⟨m', o', j', rfl⟩ := h'
  exact ⟨m', o', j', rfl⟩

theorem machine (e : Engine) (m : Machine) : RunsCodeOnly e { e with machine := m } :=
  ⟨m, e.output, e.journal, rfl⟩

theorem collectOutput (e : Engine) : RunsCodeOnly e e.collectOutput := by
  obtain ⟨j, o, h⟩ := collectOutput_eq e
  exact ⟨_, o, j, h⟩

/-- Running code keeps the pause: the session, the depths of the pause and of the step, and
the hook's arguments. -/
theorem keeps_pause {e e' : Engine} (h : RunsCodeOnly e e') :
    e'.session = e.session ∧ e'.pausedDepth = e.pausedDepth ∧ e'.stepDepth = e.stepDepth ∧
      e'.suspended = e.suspended := by
  obtain ⟨m, o, j, rfl⟩ := h
  exact ⟨rfl, rfl, rfl, rfl⟩

/-- Running code is a step of the engine's runs: the session, the end and the channels stay. -/
theorem step {e e' : Engine} (h : RunsCodeOnly e e') : Step e e' := by
  obtain ⟨m, o, j, rfl⟩ := h
  exact .frame rfl rfl rfl rfl rfl

end RunsCodeOnly

/-! ### The stages of an evaluation -/

/-- A program that does not execute stops at no step report. -/
theorem shouldStop_of_not_executing {e : Engine} (h : e.session.state.executing = false)
    (depth : Nat) (atBreakpoint : Bool) : e.shouldStop depth atBreakpoint = false := by
  unfold shouldStop
  cases hs : e.session.state <;> simp_all [RunState.executing]

/-- On a program that does not execute, a call's step reports return at once: the call runs
code only, to its results or its error, and is never parked. -/
theorem settle_runsCodeOnly {e₀ : Engine} (h : e₀.session.state.executing = false) :
    ∀ (fuel : Nat) (e : Engine) (stop : Lua.Stop), RunsCodeOnly e₀ e →
      ∃ e' r, callOnMain.settle fuel e stop = (e', .returned r) ∧ RunsCodeOnly e₀ e'
  | 0, e, _, he => ⟨e, _, rfl, he⟩
  | fuel + 1, e, stop, he => by
    have quiet : e.session.state.executing = false := by rw [he.keeps_pause.1]; exact h
    -- every report goes on with the machine's next stop
    have goOn : ∃ e' r, callOnMain.settle fuel { e with machine := e.machine.resumeRun.1 }
        e.machine.resumeRun.2 = (e', .returned r) ∧ RunsCodeOnly e₀ e' :=
      settle_runsCodeOnly h fuel _ _ (he.trans (.machine e _))
    cases stop with
    | hook index line args =>
      simp only [callOnMain.settle]
      split
      · exact goOn
      · rw [shouldStop_of_not_executing quiet, if_neg (by decide)]
        exact goOn
    | done vals => exact ⟨e, _, rfl, he⟩
    | failed err tb => exact ⟨e, _, rfl, he⟩
    | exhausted => exact ⟨e, _, rfl, he⟩

/-- **A call on the main coroutine of a program that does not execute runs code only**: every
step report it reaches returns at once, the call returns, and the program's own coroutine is
switched back to. -/
theorem callOnMain_runsCodeOnly {e : Engine} (h : e.session.state.executing = false)
    (f : Value) : RunsCodeOnly e (e.callOnMain f).1 ∧ ∃ r, (e.callOnMain f).2 = .returned r := by
  unfold callOnMain
  -- the call's first stop is left abstract, so nothing of the machine is computed
  generalize (e.machine.switchTo 0).callFromHost f #[] = called
  obtain ⟨m, stop⟩ := called
  obtain ⟨e', r, hs, he'⟩ := settle_runsCodeOnly h hookFuel _ stop (.machine e m)
  dsimp only
  rw [hs]
  exact ⟨(he'.trans (.machine _ _)).trans (.collectOutput _), r, rfl⟩

theorem frameEnv_runsCodeOnly (e : Engine) : RunsCodeOnly e e.frameEnv.1 := by
  unfold frameEnv
  split
  · exact .refl e
  · exact .machine e _

theorem withFrameEnv_runsCodeOnly (e : Engine) (env : Option Nat) (f : Value) :
    RunsCodeOnly e (e.withFrameEnv env f) := by
  unfold withFrameEnv
  split
  · exact .machine e _
  · exact .refl e

theorem lineFunction_runsCodeOnly (e : Engine) (proto : Lua.Proto) :
    RunsCodeOnly e (e.lineFunction proto).1 :=
  ((RunsCodeOnly.machine e _).trans (frameEnv_runsCodeOnly _)).trans
    (withFrameEnv_runsCodeOnly _ _ _)

theorem callLine_runsCodeOnly {e : Engine} (h : e.session.state.executing = false) (f : Value) :
    RunsCodeOnly e (e.callLine f).1 ∧ (e.callLine f).2.isSome := by
  obtain ⟨ran, r, hr⟩ := callOnMain_runsCodeOnly h f
  refine ⟨ran, ?_⟩
  simp only [callLine, hr]
  rcases r with _ | _ <;> rfl

/-- **An evaluation on a program that does not execute runs code only**, whatever the code
reaches, and answers: it loads the line, makes its function in the frame's environment and
calls it on the main coroutine. -/
theorem evaluate_runsCodeOnly {e : Engine} (h : e.session.state.executing = false)
    (src : ByteArray) : RunsCodeOnly e (e.evaluate src).1 ∧ (e.evaluate src).2.isSome := by
  unfold evaluate
  generalize loadLine src = loaded
  cases loaded with
  | error msg => exact ⟨.refl e, rfl⟩
  | ok proto =>
    have made := lineFunction_runsCodeOnly e proto
    have quiet : (e.lineFunction proto).1.session.state.executing = false := by
      rw [made.keeps_pause.1]
      exact h
    obtain ⟨called, answered⟩ := callLine_runsCodeOnly quiet (e.lineFunction proto).2
    exact ⟨made.trans called, answered⟩

/-! ### The inspection calls -/

theorem inspect_of_error {α : Type} (x : StateM Engine (Except EngineFault α)) {e : Engine}
    {f : EngineFault} (h : e.inspectable = .error f) :
    (inspect x).run e = (.error f.message, e) := by
  simp [inspect, bind, StateT.bind, StateT.run, get, getThe, MonadStateOf.get, StateT.get, h,
    pure, StateT.pure]

theorem inspect_of_ok {α : Type} (x : StateM Engine (Except EngineFault α)) {e : Engine}
    (h : e.inspectable = .ok ()) :
    (inspect x).run e = ((x.run e).1.mapError EngineFault.message, (x.run e).2) := by
  simp [inspect, bind, StateT.bind, StateT.run, get, getThe, MonadStateOf.get, StateT.get, h,
    pure, StateT.pure]
  generalize x e = ran
  obtain ⟨a, s⟩ := ran
  rfl

/-- A program that can be inspected does not execute. -/
theorem not_executing_of_inspectable {e : Engine} (h : e.inspectable = .ok ()) :
    e.session.state.executing = false := by
  unfold inspectable at h
  cases hx : e.session.state.executing
  · rfl
  · simp only [hx, if_true] at h
    split at h <;> cases h

/-- An executing program cannot be inspected. -/
theorem inspectable_of_executing {e : Engine} (h : e.session.state.executing = true) :
    ∃ f, e.inspectable = .error f := by
  unfold inspectable
  by_cases hs : e.started = true
  · exact ⟨.running, by simp [hs, h]⟩
  · exact ⟨.notStarted, by simp [hs]⟩

/-- Refused inspections: every one of the four answers the refusal and changes nothing. -/
theorem inspections_of_error {e : Engine} {f : EngineFault} (h : e.inspectable = .error f) :
    (∀ src, (DebugEngine.executeLine src).run e = (.error f.message, e)) ∧
      (∀ name, (DebugEngine.readVariable name).run e = (.error f.message, e)) ∧
      DebugEngine.localVariables.run e = (.error f.message, e) ∧
      DebugEngine.scopeStack.run e = (.error f.message, e) :=
  ⟨fun _ ↦ inspect_of_error _ h, fun _ ↦ inspect_of_error _ h, inspect_of_error _ h,
    inspect_of_error _ h⟩

/-- An executing program refuses every inspection, and the refusal changes nothing. -/
theorem inspections_of_executing {e : Engine} (hx : e.session.state.executing = true) :
    ∃ f : EngineFault,
      (∀ src, (DebugEngine.executeLine src).run e = (.error f.message, e)) ∧
      (∀ name, (DebugEngine.readVariable name).run e = (.error f.message, e)) ∧
      DebugEngine.localVariables.run e = (.error f.message, e) ∧
      DebugEngine.scopeStack.run e = (.error f.message, e) := by
  obtain ⟨f, hf⟩ := inspectable_of_executing hx
  exact ⟨f, inspections_of_error hf⟩

theorem executeLine_runsCodeOnly (e : Engine) (src : ByteArray) :
    RunsCodeOnly e ((DebugEngine.executeLine src).run e).2 := by
  cases h : e.inspectable with
  | error f =>
    rw [(inspections_of_error h).1 src]
    exact .refl e
  | ok u =>
    rw [show DebugEngine.executeLine src = inspect _ from rfl, inspect_of_ok _ h]
    simp only [StateT.run, bind, StateT.bind, get, getThe, MonadStateOf.get, StateT.get, set,
      StateT.set, MonadStateOf.set, pure, StateT.pure]
    exact (evaluate_runsCodeOnly (not_executing_of_inspectable h) src).1

/-- The other three inspections read the engine and change nothing. -/
theorem reads_keep_engine (e : Engine) :
    (∀ name, ((DebugEngine.readVariable name).run e).2 = e) ∧
      (DebugEngine.localVariables.run e).2 = e ∧ (DebugEngine.scopeStack.run e).2 = e := by
  cases h : e.inspectable with
  | error f =>
    obtain ⟨-, hread, hlocals, hstack⟩ := inspections_of_error h
    exact ⟨fun name ↦ by rw [hread name], by rw [hlocals], by rw [hstack]⟩
  | ok u =>
    refine ⟨fun name ↦ ?_, ?_, ?_⟩
    · rw [show DebugEngine.readVariable name = inspect _ from rfl, inspect_of_ok _ h]
      rfl
    · rw [show DebugEngine.localVariables = inspect _ from rfl, inspect_of_ok _ h]
      rfl
    · rw [show DebugEngine.scopeStack = inspect _ from rfl, inspect_of_ok _ h]
      rfl

/-! ### An inspection and a command -/

/-- A command started from an engine that ran code since starts as it would have, on the
engine that ran the code. -/
theorem beginCommand_of_runsCodeOnly {e e' e₁ : Engine} {cmd : Command}
    (h : RunsCodeOnly e e') (hb : e.beginCommand cmd = .ok e₁) :
    ∃ e₂, e'.beginCommand cmd = .ok e₂ ∧ RunsCodeOnly e₁ e₂ := by
  obtain ⟨hstopped, j₁, rfl⟩ := beginCommand_eq_ok hb
  obtain ⟨m, o, j, rfl⟩ := h
  obtain ⟨j₂, hj₂⟩ := beginCommand_of_stopped
    (show ({ e with machine := m, output := o, journal := j } : Engine).session.state.stopped
      from hstopped) cmd
  exact ⟨_, hj₂, m, o, j₂, rfl⟩

/-- A command that starts the program leaves it executing. -/
theorem executing_of_beginCommand {e e₁ : Engine} {cmd : Command}
    (hb : e.beginCommand cmd = .ok e₁) : e₁.session.state.executing = true := by
  obtain ⟨-, j, rfl⟩ := beginCommand_eq_ok hb
  rw [Session.moveTo_state]
  exact cmd.target_executing

/-- **Inspecting a paused program leaves it paused.** Every inspection is one call that runs
only on a program that is not executing: found executing, each of the four is refused and
changes nothing. Evaluating a line, whatever breakpoints and instrumented functions its code
reaches, changes only the machine, the printed lines and the log: the session, the depth of
the pause and the hook's arguments stay, and it is a step of the engine's runs. The other
three inspections change nothing. And when an inspection and a client command meet a paused
program, in either order: inspected first, the command still starts it, landing where it would
have but for what the code changed; started first, the inspection is refused. -/
theorem inspection_keeps_the_pause (e : Engine) :
    (e.session.state.executing = true → ∃ f : EngineFault,
      (∀ src, (DebugEngine.executeLine src).run e = (.error f.message, e)) ∧
      (∀ name, (DebugEngine.readVariable name).run e = (.error f.message, e)) ∧
      DebugEngine.localVariables.run e = (.error f.message, e) ∧
      DebugEngine.scopeStack.run e = (.error f.message, e)) ∧
    (∀ src, ((DebugEngine.executeLine src).run e).2.session = e.session ∧
      ((DebugEngine.executeLine src).run e).2.pausedDepth = e.pausedDepth ∧
      ((DebugEngine.executeLine src).run e).2.suspended = e.suspended ∧
      RunsCodeOnly e ((DebugEngine.executeLine src).run e).2 ∧
      Step e ((DebugEngine.executeLine src).run e).2) ∧
    (∀ name, ((DebugEngine.readVariable name).run e).2 = e) ∧
    (DebugEngine.localVariables.run e).2 = e ∧ (DebugEngine.scopeStack.run e).2 = e ∧
    (∀ cmd e₁ src, e.beginCommand cmd = .ok e₁ →
      (∃ e₂, ((DebugEngine.executeLine src).run e).2.beginCommand cmd = .ok e₂ ∧
        RunsCodeOnly e₁ e₂) ∧
      ∃ f : EngineFault, (DebugEngine.executeLine src).run e₁ = (.error f.message, e₁)) := by
  obtain ⟨hread, hlocals, hstack⟩ := reads_keep_engine e
  refine ⟨inspections_of_executing, fun src ↦ ?_, hread, hlocals, hstack,
    fun cmd e₁ src hb ↦ ⟨?_, ?_⟩⟩
  · have hcode := executeLine_runsCodeOnly e src
    obtain ⟨hs, hd, -, hsus⟩ := hcode.keeps_pause
    exact ⟨hs, hd, hsus, hcode, hcode.step⟩
  · exact beginCommand_of_runsCodeOnly (executeLine_runsCodeOnly e src) hb
  · -- the command left the program executing, so the inspection is refused
    obtain ⟨f, hf, -⟩ := inspections_of_executing (executing_of_beginCommand hb)
    exact ⟨f, hf src⟩

/-- A paused engine stepped into: the command succeeds, and an evaluation after it is
refused. -/
theorem evaluation_after_step_in_is_refused :
    ∃ e₁, ({ machine := default, files := {}, cwd := "/", started := true,
             session := { state := .paused } } : Engine).beginCommand .stepIn = .ok e₁ ∧
      ∃ f : EngineFault,
        (DebugEngine.executeLine "x".toUTF8).run e₁ = (.error f.message, e₁) := by
  obtain ⟨j, hj⟩ := beginCommand_of_stopped
    (show ({ machine := default, files := {}, cwd := "/", started := true,
             session := { state := .paused } } : Engine).session.state.stopped from rfl) .stepIn
  exact ⟨_, hj, ((inspection_keeps_the_pause _).2.2.2.2.2 .stepIn _ "x".toUTF8 hj).2⟩

/-- The runner leaving the pause goes on as a command does once it has begun. -/
theorem resume_eq_goOn (e : Engine) (cmd : Command) :
    (e.resume cmd).1 = match e.beginCommand cmd with
      | .ok e₁ => e₁.goOn
      | .error _ => e := by
  unfold resume resumeIn goOn
  cases e.beginCommand cmd <;> rfl

end Engine

/-! ### An evaluation meeting a command, step by step -/

namespace Encounter

/-- A property every step of a run keeps holds at its end. -/
theorem actAll_invariant {P : Encounter → Prop} {acts : List EncounterAction}
    (step : ∀ x x' a, a ∈ acts → P x → x.act a = some x' → P x') :
    ∀ {x y : Encounter}, P x → x.actAll acts = some y → P y := by
  induction acts with
  | nil =>
    intro x y hx h
    cases h
    exact hx
  | cons a rest ih =>
    intro x y hx h
    simp only [actAll, Option.bind_eq_some_iff] at h
    obtain ⟨x₁, h₁, h⟩ := h
    exact ih (fun x x' a' ha' ↦ step x x' a' (.tail _ ha')) (step x x₁ a (.head _) hx h₁) h

/-- A refused line stays refused while no command begins: only leaving a pause could move,
and it does not touch the line. -/
theorem refused_act {f : EngineFault} {x x' : Encounter} (hs : x.stage = .refused f)
    {a : EncounterAction} (ha : x.act a = some x') (hb : ∀ cmd, a ≠ .begin cmd) :
    x'.stage = .refused f := by
  cases a with
  | check | enqueue | serve => simp [act, hs] at ha
  | begin cmd => exact absurd rfl (hb cmd)
  | leave =>
    simp only [act] at ha
    split at ha
    · cases ha
      exact hs
    · cases ha

/-- What a line checked on `e` keeps while no command begins: it has not run yet and the
program is still `e`, or it ran on `e`, running code only, and answered. -/
def KeptSince (e : Engine) (x : Encounter) : Prop :=
  ((x.stage = .checked ∨ x.stage = .queued) ∧ x.engine = e) ∨
    ∃ answer, x.stage = .ran (some answer) ∧ Engine.RunsCodeOnly e x.engine

/-- **A step other than a command's keeps a line checked on a program that does not
execute**: the runner cannot leave the pause, and a line it runs runs code only and
answers. -/
theorem KeptSince.act {e : Engine} (quiet : e.session.state.executing = false)
    {x x' : Encounter} (h : KeptSince e x) {a : EncounterAction} (ha : x.act a = some x')
    (hb : ∀ cmd, a ≠ .begin cmd) : KeptSince e x' := by
  rcases h with ⟨hs, rfl⟩ | ⟨answer, hs, ran⟩
  · cases a with
    | check => rcases hs with hs | hs <;> simp [Encounter.act, hs] at ha
    | enqueue =>
      rcases hs with hs | hs <;> simp only [Encounter.act, hs, Option.some.injEq] at ha
      · subst ha
        exact .inl ⟨.inr rfl, rfl⟩
      · cases ha
    | begin cmd => exact absurd rfl (hb cmd)
    | serve =>
      rcases hs with hs | hs <;> simp only [Encounter.act, hs, Option.some.injEq] at ha
      · cases ha
      · subst ha
        obtain ⟨code, answered⟩ := Engine.evaluate_runsCodeOnly quiet x.line
        obtain ⟨r, hr⟩ := Option.isSome_iff_exists.1 answered
        exact .inr ⟨r, by simp [hr], code⟩
    | leave => simp [Encounter.act, quiet] at ha
  · have still : x.engine.session.state.executing = false := by
      rw [ran.keeps_pause.1]
      exact quiet
    cases a with
    | check | enqueue | serve => simp [Encounter.act, hs] at ha
    | begin cmd => exact absurd rfl (hb cmd)
    | leave => simp [Encounter.act, still] at ha

/-- **A line checked and then run with no command begun between keeps the pause.** The check
finds the program not executing, and from then on, as long as no other client's command
starts it, the runner cannot leave the pause: the line runs on the program the check found,
running code only, and answers. A command that begins between the check and the run is the
one way the line can run on an executing program, where a step report it reaches may park it
at a pause. -/
theorem line_run_after_check_keeps_pause (x y : Encounter) (acts : List EncounterAction)
    (checking : x.stage = .checking) (run : x.actAll (.check :: acts) = some y)
    (quiet : ∀ cmd, EncounterAction.begin cmd ∉ acts)
    {answer : Option (Except EngineFault (List Datum))} (ran : y.stage = .ran answer) :
    x.engine.session.state.executing = false ∧ Engine.RunsCodeOnly x.engine y.engine ∧
      answer.isSome := by
  simp only [actAll, Encounter.act, checking, Option.bind_some] at run
  -- no command among the steps after the check
  have others : ∀ a ∈ acts, ∀ cmd, a ≠ .begin cmd := fun a ha cmd h ↦ quiet cmd (h ▸ ha)
  cases hi : x.engine.inspectable with
  | error f =>
    simp only [hi] at run
    have refused := actAll_invariant (P := fun z ↦ z.stage = .refused f)
      (fun _ _ a ha hz hstep ↦ refused_act hz hstep (others a ha)) rfl run
    rw [ran] at refused
    cases refused
  | ok u =>
    cases u
    simp only [hi] at run
    have awake := Engine.not_executing_of_inspectable hi
    have kept := actAll_invariant (P := KeptSince x.engine) (x := { x with stage := .checked })
      (fun _ _ a ha hz hstep ↦ hz.act awake hstep (others a ha)) (.inl ⟨.inl rfl, rfl⟩) run
    rcases kept with ⟨hs, -⟩ | ⟨r, hs, code⟩
    · rcases hs with hs | hs <;> rw [ran] at hs <;> cases hs
    · rw [ran] at hs
      cases hs
      exact ⟨awake, code, rfl⟩

end Encounter

end LuaDebugger.Script
