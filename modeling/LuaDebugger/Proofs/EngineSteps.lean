import LuaDebugger.Script.Engine
import LuaDebugger.Proofs.SessionRuns
import Mathlib.Logic.Relation
/-!
# What each step of the engine changes

The engine's operations are built from a few steps, each taken under the engine's lock: the
pause of the program at a step report, the start of a client command, the end of the program,
and the writes to the log around them. This module says once, for each step, exactly which
fields of the engine it changes and how; later proofs cite these equations and never unfold
the steps.

* Writing to the log, taking the program's printed lines, and recording a change of the
  session change nothing else (`withSession_eq`, `collectOutput_eq`).
* A pause succeeds exactly when the program executes (`pause_of_executing`,
  `pause_of_not_executing`), a command exactly when it is stopped (`beginCommand_of_stopped`),
  and the end takes effect once (`finish_of_done`, `finish_of_not_done`).
* `shouldStop` never stops a program that is not executing, and after a command it is the
  command's own stop rule (`shouldStop_of_target`).

The critical sections, with the work between them, are the steps of a relation `Step`. Every
operation of the engine is a sequence of steps (`drive_steps`, `launch_steps`,
`resume_steps`, `close_steps`), so an invariant of `Step` holds of every engine the debugger
reaches, whatever order the program and its clients take their steps in.
-/

namespace LuaDebugger

namespace Script

open Lua (Machine Stop)

namespace Engine

/-! ### Writing to the log -/

/-- Recording a change of the session changes the session and the log, nothing else. -/
theorem withSession_eq (e : Engine) (s : Session) :
    ∃ j, e.withSession s = { e with session := s, journal := j } := by
  unfold withSession
  generalize (s.changes.extract e.session.changes.size s.changes.size).toList = fresh
  induction fresh generalizing e with
  | nil => exact ⟨e.journal, rfl⟩
  | cons x xs ih => exact ih _

/-- Taking the printed lines empties the machine's output and changes the collected lines and
the log, nothing else. -/
theorem collectOutput_eq (e : Engine) :
    ∃ j o, e.collectOutput =
      { e with machine := { e.machine with output := #[] }, output := o, journal := j } := by
  unfold collectOutput
  dsimp only
  split
  · exact ⟨e.journal, _, rfl⟩
  · rw [← Array.foldl_toList]
    generalize e.machine.output.toList = lines
    suffices h : ∀ e' : Engine, ∃ j, lines.foldl
        (fun e l ↦ e.note .debug ("output dropped: ".toUTF8 ++ l)) e' = { e' with journal := j } by
      obtain ⟨j, hj⟩ := h { e with machine := { e.machine with output := #[] } }
      exact ⟨j, e.output, hj⟩
    induction lines with
    | nil => exact fun e' ↦ ⟨e'.journal, rfl⟩
    | cons l ls ih => exact fun e' ↦ ih _

/-! ### The steps under the lock -/

theorem pause_of_executing {e : Engine} (h : e.session.state.executing) (depth : Nat)
    (atBreakpoint : Bool) :
    ∃ j, e.pause depth atBreakpoint = .ok { e with
      session := e.session.moveTo (if atBreakpoint then .pausedAtBreakpoint else .paused),
      journal := j, pausedDepth := depth, resumeChannel := some e.channels.next,
      channels := ({ e.channels with next := e.channels.next + 1 } : Channels).closeOpen
        e.stopped } := by
  obtain ⟨j, hj⟩ := e.withSession_eq
    (e.session.moveTo (if atBreakpoint then .pausedAtBreakpoint else .paused))
  refine ⟨j, ?_⟩
  simp only [pause, Session.pause, h, if_true, hj]
  rfl

theorem pause_of_not_executing {e : Engine} (h : e.session.state.executing = false)
    (depth : Nat) (atBreakpoint : Bool) :
    e.pause depth atBreakpoint = .error (.invalidPause e.session.state) := by
  simp [pause, Session.pause, h]

theorem beginCommand_of_stopped {e : Engine} (h : e.session.state.stopped) (cmd : Command) :
    ∃ j, e.beginCommand cmd = .ok { e with
      session := e.session.moveTo cmd.target, journal := j, stepDepth := e.pausedDepth,
      stopped := e.channels.next,
      channels := ({ e.channels with next := e.channels.next + 1 } : Channels).close
        e.resumeChannel } := by
  obtain ⟨j, hj⟩ := e.withSession_eq (e.session.moveTo cmd.target)
  refine ⟨j, ?_⟩
  simp only [beginCommand, Session.begin, Session.commandFault_eq_none.2 h, hj]
  rfl

theorem beginCommand_of_not_stopped {e : Engine} (h : e.session.state.stopped = false)
    (cmd : Command) :
    ∃ f, e.beginCommand cmd = .error f ∧ Session.commandFault cmd e.session.state = some f := by
  have hf : Session.commandFault cmd e.session.state ≠ none := by
    rw [Ne, Session.commandFault_eq_none, h]
    decide
  obtain ⟨f, hf⟩ := Option.ne_none_iff_exists'.1 hf
  exact ⟨f, by simp [beginCommand, Session.begin, hf], hf⟩

theorem finish_of_done {e : Engine} (h : e.done = true) (fault : Option RunFault) :
    e.finish fault = e := by
  simp [finish, h]

theorem finish_of_not_done {e : Engine} (h : e.done = false) (fault : Option RunFault) :
    ∃ j, e.finish fault = { e with
      runFault := fault, done := true, suspended := none, session := e.session.terminate,
      channels := e.channels.closeOpen e.stopped, journal := j } := by
  obtain ⟨j, hj⟩ := Engine.withSession_eq
    { e with runFault := fault, done := true, suspended := none } e.session.terminate
  simp only [finish, h, Bool.false_eq_true, if_false, hj]
  cases fault with
  | none => exact ⟨_, rfl⟩
  | some f =>
    dsimp only
    by_cases hc : f.isCancel = true ∨ e.cancelled = true
    · rw [if_pos hc]
      exact ⟨_, rfl⟩
    · rw [if_neg hc]
      exact ⟨_, rfl⟩

/-- A pause that succeeds was taken from an executing program, and is the one of
`pause_of_executing`. -/
theorem pause_eq_ok {e e' : Engine} {depth : Nat} {atBreakpoint : Bool}
    (h : e.pause depth atBreakpoint = .ok e') :
    e.session.state.executing ∧ ∃ j, e' = { e with
      session := e.session.moveTo (if atBreakpoint then .pausedAtBreakpoint else .paused),
      journal := j, pausedDepth := depth, resumeChannel := some e.channels.next,
      channels := ({ e.channels with next := e.channels.next + 1 } : Channels).closeOpen
        e.stopped } := by
  cases hx : e.session.state.executing with
  | false => rw [pause_of_not_executing hx] at h; cases h
  | true =>
    obtain ⟨j, hj⟩ := pause_of_executing hx depth atBreakpoint
    rw [hj] at h
    exact ⟨rfl, j, (Except.ok.inj h).symm⟩

/-- A command that starts the program was taken from a stopped one, and is the one of
`beginCommand_of_stopped`. -/
theorem beginCommand_eq_ok {e e' : Engine} {cmd : Command} (h : e.beginCommand cmd = .ok e') :
    e.session.state.stopped ∧ ∃ j, e' = { e with
      session := e.session.moveTo cmd.target, journal := j, stepDepth := e.pausedDepth,
      stopped := e.channels.next,
      channels := ({ e.channels with next := e.channels.next + 1 } : Channels).close
        e.resumeChannel } := by
  cases hs : e.session.state.stopped with
  | false =>
    obtain ⟨f, hf, -⟩ := beginCommand_of_not_stopped hs cmd
    rw [hf] at h
    cases h
  | true =>
    obtain ⟨j, hj⟩ := beginCommand_of_stopped hs cmd
    rw [hj] at h
    exact ⟨rfl, j, (Except.ok.inj h).symm⟩

/-- The session's launch succeeds exactly from an idle session, and then changes the session
and the log only. -/
theorem launchSession_eq_ok {e e' : Engine} (h : e.launchSession = .ok e') :
    e.session.state = .idle ∧ ∃ j, e' = { e with
      session := e.session.moveTo (if e.stopOnEntry then .steppingIn else .running),
      journal := j } := by
  unfold launchSession Session.launch at h
  by_cases hi : e.session.state = .idle
  · rw [if_pos hi] at h
    obtain ⟨j, hj⟩ := e.withSession_eq
      (e.session.moveTo (if e.stopOnEntry then .steppingIn else .running))
    exact ⟨hi, j, (Except.ok.inj h).symm.trans hj⟩
  · rw [if_neg hi] at h
    cases h

theorem claimLaunch_eq_ok {e e' : Engine} (h : e.claimLaunch = .ok e') :
    e' = { e with launched := true } := by
  unfold claimLaunch at h
  split at h
  · cases h
  · split at h
    · cases h
    · exact (Except.ok.inj h).symm

/-- Loading adds at most a program and changes nothing else. -/
theorem load_eq (e : Engine) (path : String) : ∃ ps, (e.load path).1 = { e with programs := ps } := by
  unfold load
  dsimp only
  split
  · exact ⟨e.programs, rfl⟩
  · split
    · exact ⟨e.programs, rfl⟩
    · split
      · exact ⟨e.programs, rfl⟩
      · exact ⟨_, rfl⟩

/-- One step of the engine. -/
inductive Step : Engine → Engine → Prop
  /-- The program pauses at a step report. -/
  | pause {e e' : Engine} (depth : Nat) (atBreakpoint : Bool)
      (h : e.pause depth atBreakpoint = .ok e') : Step e e'
  /-- A client command starts the paused program. -/
  | begin {e e' : Engine} (cmd : Command) (h : e.beginCommand cmd = .ok e') : Step e e'
  /-- The launch starts the session. -/
  | launch {e e' : Engine} (h : e.launchSession = .ok e') : Step e e'
  /-- The program ends, or the engine is closed. -/
  | finish (e : Engine) (fault : Option RunFault) : Step e (e.finish fault)
  /-- Work outside the critical sections. -/
  | frame {e e' : Engine} (hs : e'.session = e.session) (hd : e'.done = e.done)
      (hc : e'.channels = e.channels) (hst : e'.stopped = e.stopped)
      (hr : e'.resumeChannel = e.resumeChannel) : Step e e'

/-- The engines reachable from `e` by steps. -/
abbrev Steps : Engine → Engine → Prop := Relation.ReflTransGen Step

theorem Steps.frame {e e' e'' : Engine} (h : Steps e e') (hs : e''.session = e'.session)
    (hd : e''.done = e'.done) (hc : e''.channels = e'.channels) (hst : e''.stopped = e'.stopped)
    (hr : e''.resumeChannel = e'.resumeChannel) : Steps e e'' :=
  h.tail (.frame hs hd hc hst hr)

theorem Steps.collectOutput {e e' : Engine} (h : Steps e e') : Steps e e'.collectOutput := by
  obtain ⟨j, o, hco⟩ := collectOutput_eq e'
  exact h.frame (by rw [hco]) (by rw [hco]) (by rw [hco]) (by rw [hco]) (by rw [hco])

theorem Steps.note {e e' : Engine} (h : Steps e e') (level : Level) (msg : ByteArray) :
    Steps e (e'.note level msg) :=
  h.frame rfl rfl rfl rfl rfl

/-- **What every step of `drive` keeps, `drive` keeps.** A property of the engine that
survives taking the printed lines, running the machine on, the arrival at a stop, writing to
the log, a pause and the end holds of the engine `drive` leaves. The induction is on the fuel,
as `drive` recurses. -/
theorem drive_induction (w : World) (P : Engine → Prop) (hcollect : ∀ e, P e → P e.collectOutput)
    (hmachine : ∀ e m, P e → P { e with machine := m }) (harrive : ∀ e, P e → P (e.arrive w))
    (hnote : ∀ e level msg, P e → P (e.note level msg))
    (hpause : ∀ e e' depth atBreakpoint args, P e → e.pause depth atBreakpoint = .ok e' →
      P { e' with suspended := some args })
    (hfinish : ∀ e fault, P e → P (e.finish fault))
    (fuel : Nat) (e : Engine) (s : Stop) (he : P e) : P (drive w e fuel s) := by
  induction fuel generalizing e s with
  | zero => exact he
  | succ n ih =>
    have hc := hcollect e he
    -- running on past a report: the machine runs to its next stop
    have goOn : ∀ e', P e' →
        P (drive w { e' with machine := e'.machine.resumeRun.1 } n e'.machine.resumeRun.2) :=
      fun e' he' ↦ ih _ _ (hmachine _ _ he')
    rw [drive.eq_def]
    dsimp only
    cases s with
    | hook index line args =>
      dsimp only
      have ha := harrive _ hc
      split
      · exact goOn _ ha
      · split
        · split
          next e' hp => exact hpause _ _ _ _ _ ha hp
          next => exact goOn _ (hnote _ _ _ ha)
        · exact goOn _ ha
    | done vals => exact hfinish _ _ (harrive _ hc)
    | failed err tb => exact hfinish _ _ (harrive _ hc)
    | exhausted => exact hc

/-- **A run of `drive` is a sequence of steps.** Between step reports the engine only runs the
machine, collects printed lines and writes to the log; at a report it pauses, and at the end
of the program it finishes. -/
theorem drive_steps (w : World) (fuel : Nat) (e : Engine) (s : Stop) :
    Steps e (drive w e fuel s) :=
  drive_induction w (Steps e) (fun _ h ↦ h.collectOutput)
    (fun _ _ h ↦ h.frame rfl rfl rfl rfl rfl) (fun _ h ↦ h.frame rfl rfl rfl rfl rfl)
    (fun _ _ _ h ↦ h.note _ _)
    (fun _ _ _ _ _ h hp ↦ Steps.frame (h.tail (.pause _ _ hp)) rfl rfl rfl rfl rfl)
    (fun _ _ h ↦ h.tail (.finish _ _)) fuel e s .refl

/-- Work outside the critical sections followed by a run of `drive` is a sequence of steps. -/
theorem Steps.drive {e e' e'' : Engine} (h : Steps e e') (hs : e''.session = e'.session)
    (hd : e''.done = e'.done) (hc : e''.channels = e'.channels) (hst : e''.stopped = e'.stopped)
    (hr : e''.resumeChannel = e'.resumeChannel) (w : World) (fuel : Nat) (s : Stop) :
    Steps e (Engine.drive w e'' fuel s) :=
  (h.frame hs hd hc hst hr).trans (drive_steps _ _ _ _)

theorem runProgram_steps (w : World) (e : Engine) (p : Program) : Steps e (e.runProgram w p) := by
  unfold runProgram
  split
  next => exact .single (.finish _ _)
  next =>
    dsimp only
    refine Steps.drive .refl ?_ ?_ ?_ ?_ ?_ _ _ _ <;> rfl

/-- A client command is a step that starts the program, and the run to its next stop. -/
theorem resumeIn_steps (w : World) (e : Engine) (cmd : Command) :
    Steps e (e.resumeIn w cmd).1 := by
  unfold resumeIn
  split
  next => exact .refl
  next e' hb =>
    dsimp only
    refine Steps.drive (.single (.begin cmd hb)) ?_ ?_ ?_ ?_ ?_ _ _ _ <;> rfl

theorem resume_steps (e : Engine) (cmd : Command) : Steps e (e.resume cmd).1 :=
  resumeIn_steps .quiet e cmd

/-- A launch claims the engine and loads the program outside the lock, launches the session,
and runs the program from its start. -/
theorem launchIn_steps (w : World) (e : Engine) (path : String) :
    Steps e (e.launchIn w path).1 := by
  unfold launchIn
  split
  next => exact .refl
  next e₁ hc =>
    -- claiming and loading change neither the session, the end nor the channels
    have hl : ∀ e₂ r, e₁.load path = (e₂, r) → Steps e e₂ := by
      intro e₂ r h
      obtain ⟨ps, hps⟩ := load_eq e₁ path
      rw [h] at hps
      dsimp only at hps
      rw [claimLaunch_eq_ok hc] at hps
      exact Steps.frame .refl (by rw [hps]) (by rw [hps]) (by rw [hps]) (by rw [hps]) (by rw [hps])
    split
    next e₂ f h =>
      dsimp only
      exact (hl _ _ h).tail (.finish _ _)
    next e₂ p h =>
      dsimp only
      split
      next => exact hl _ _ h
      next e₃ hs =>
        exact (Steps.note ((hl _ _ h).tail (.launch hs)) _ _).trans (runProgram_steps _ _ _)

theorem launch_steps (e : Engine) (path : String) : Steps e (e.launch path).1 :=
  launchIn_steps .quiet e path

/-- Closing cancels the engine, runs a paused program on to its failure, and ends it. -/
theorem close_steps (e : Engine) : Steps e e.close := by
  unfold close
  split
  next => exact .refl
  next =>
    dsimp only
    refine Relation.ReflTransGen.tail ?_ (.finish _ _)
    split
    next =>
      split
      next => refine Steps.drive .refl ?_ ?_ ?_ ?_ ?_ _ _ _ <;> rfl
      next => exact Steps.frame .refl rfl rfl rfl rfl rfl
    next => exact Steps.frame .refl rfl rfl rfl rfl rfl

/-! ### The stop decision -/

/-- The source of the program that the witnesses pause. -/
def printProgramSource : ByteArray := "g = \"b\"\nlocal s = \"a\"\nprint(s)\n".toUTF8

/-- The program as the instrumenter loads it from `/main.lua`. -/
def printProgram : Program :=
  (Program.instrument "/" 0 "/main.lua" printProgramSource).toOption.getD default

/-- The chunk the machine runs for the instrumented program. -/
def printChunk : Lua.Proto :=
  (Lua.loadChunk printProgram.source printProgram.path).toOption.getD default

/-- The globals once line 1 has run: the two built-ins and `g`. -/
def printGlobals : Lua.Table :=
  ((Lua.Table.empty.rawSetStr "print".toUTF8 (.fn 0)).rawSetStr hookName.toUTF8 (.fn 1)).rawSetStr
    "g".toUTF8 (.str "b".toUTF8)

/-- The main chunk's frame, at the call of the step hook on line 3, with `s` in its one
register. -/
def printMainFrame : Lua.LuaFrame where
  fn := 2
  closure := ⟨printChunk, #[], 0⟩
  pc := 16
  slots := #[.val (.str "a".toUTF8)]
  stack := #[]
  marks := []
  varargs := #[]
  tailCalls := 0
  callName := none
  sink := .host

/-- The step hook's frame, suspended while the client inspects the pause. -/
def printHookFrame : Lua.NativeFrame where
  fn := 1
  native := .hook
  callName := some hookName
  sink := .leave (some 0)
  cont := .pass

/-- The engine paused at the report of line 3 of `printProgramSource`. -/
def pausedAtPrint : Engine where
  machine :=
    { heap :=
        { tables := #[printGlobals]
          fns := #[.native .emit 0, .native .hook 0, .closure ⟨printChunk, #[], 0⟩] }
      frames := #[.lua printMainFrame, .native printHookFrame] }
  files := ⟨[("/main.lua", printProgramSource)], []⟩
  cwd := "/"
  session := { state := .paused }
  programs := #[printProgram]
  builtins := ["print".toUTF8, hookName.toUTF8]
  started := true
  launched := true
  pausedDepth := 2
  stepDepth := 2
  channels := { next := 6, closes := [some 0, some 1, some 2, some 3, some 4] }
  stopped := 4
  resumeChannel := some 5
  suspended := some #[.number (Float.ofBits 0), .number (Float.ofBits 0x4008000000000000)]
  stops := 3

/-- The instrumenter and the compiler both accept the program. -/
theorem printProgram_loads :
    (Program.instrument "/" 0 "/main.lua" printProgramSource).isOk = true ∧
      (Lua.loadChunk printProgram.source printProgram.path).isOk = true ∧
      printChunk.source = "/main.lua" := by
  decide +kernel

theorem instrument_printProgramSource :
    Program.instrument "/" 0 "/main.lua" printProgramSource = .ok printProgram := by
  have h := printProgram_loads.1
  unfold printProgram
  cases hi : Program.instrument "/" 0 "/main.lua" printProgramSource with
  | error f => rw [hi] at h; cases h
  | ok p => rfl

end Engine

end Script

end LuaDebugger
