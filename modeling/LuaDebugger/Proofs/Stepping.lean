import LuaDebugger.Proofs.EngineSteps
/-!
# Where a stepping command stops

Abstract a run of the debugged program as the sequence of stops its machine passes when it
is run on at every step report and never held: `freeRun`, each element the machine at the
stop (its printed lines taken, as the engine takes them) with the stop. The step reports in
it are the hook events of the run: the program index and line the instrumented code names,
and the call depth of the machine at that moment.

The engine decides at each step report whether to stop, by the state of the session and the
depth of the last pause. The main result, `resume_stopsAsRule`, says what a client command
does from a pause, in the terms the debugger documents: the program next pauses at the
**first** step report of a loaded program that the command's stop rule (`Command.stopsAt`)
accepts, at a breakpoint exactly when that line has one, and its depth becomes the depth of
the pause; when no report qualifies and the program ends, the session is terminated and the
command reports the program's failure, if any. `launch_stopsAsRule` says the same of a launch,
which steps into the first statement or runs to a breakpoint.

Both rest on one induction over the run, `drive_stopsAsRule`: a report that does not stop
the program leaves the engine as it was, apart from its log and its collected output, so the
decision at the next report is made by the same rule (`StopsAsRule.cons`). A paused program
has not ended because every engine the debugger reaches is `Coherent`: its end and the end of
its session go together. `stepping_stops_at_first_accepted_report` gathers the three.
-/

namespace LuaDebugger

open Lua (Machine Stop Heap)

/-- Whether a stop ends the program's run: it returned or failed. -/
def Lua.Stop.ends : Stop → Bool
  | .done _ | .failed .. => true
  | _ => false

namespace Script

/-- A stop of the machine in a run, as the engine meets it: the machine at the stop with the
stop, the stop's number over the program's life, and the breakpoints in force once the other
clients' operations made before it are done. -/
structure Moment where
  machine : Machine
  stop : Stop
  number : Nat
  registry : Registry

namespace World

end World

namespace Engine

/-- Whether a stop is a step report of a loaded program at which `rule` stops the program;
the rule is asked with the report's call depth and whether its line has a breakpoint at that
moment. -/
def haltsAt (e : Engine) (rule : Nat → Bool → Bool) (x : Moment) : Bool :=
  match x.stop with
  | .hook index line _ =>
    match e.programAt? index with
    | some p => rule (Machine.depth x.machine.frames) (x.registry.has p.id line)
    | none => false
  | _ => false

/-- **What the engine `e'` did with the run**, started from `e` in the executing state `start`
and stopping by `rule`. At the first step report of a loaded program that the rule accepts,
with the breakpoints of that moment, the program is paused: the machine is the one of that
report, the session stopped at a breakpoint exactly when the line then has one, the report's
call depth recorded, and the stop's number and breakpoints are the engine's. With no such
report, a run that returned or failed has terminated the session with the program's fault at
that stop, and a run that did neither leaves the program executing as it started. The error
a stepping command reports is nothing at a pause or a clean end, and the program's failure
after it failed. -/
structure StopsAsRule (e : Engine) (rule : Nat → Bool → Bool) (start : RunState)
    (run : List Moment) (e' : Engine) : Prop where
  paused : ∀ m index line args n r p,
    run.find? (e.haltsAt rule) = some ⟨m, .hook index line args, n, r⟩ →
    e.programAt? index = some p →
      e'.machine = m ∧ e'.suspended = some args ∧ e'.pausedDepth = Machine.depth m.frames ∧
      e'.session.state = (if r.has p.id line then .pausedAtBreakpoint else .paused) ∧
      e'.registry = r ∧ e'.stops = n ∧ e'.terminalError = .ok ()
  finished : run.find? (e.haltsAt rule) = none → ∀ m vals n r, ⟨m, .done vals, n, r⟩ ∈ run →
    e'.session.state = .terminated ∧ e'.runFault = none ∧ e'.stops = n ∧
      e'.terminalError = .ok ()
  failed : run.find? (e.haltsAt rule) = none → ∀ m err tb n r, ⟨m, .failed err tb, n, r⟩ ∈ run →
    e'.session.state = .terminated ∧ e'.runFault = some (.raised (Heap.textBytes err) tb) ∧
      e'.stops = n ∧ e'.terminalError = .error (.programFailed (Heap.textBytes err))
  running : run.find? (e.haltsAt rule) = none → (∀ x ∈ run, x.stop.ends = false) →
    e'.session.state = start

theorem programAt?_congr {e₁ e₂ : Engine} (h : e₁.programs = e₂.programs) :
    e₁.programAt? = e₂.programAt? := by
  funext index
  simp [programAt?, h]

theorem haltsAt_congr {e₁ e₂ : Engine} (hp : e₁.programs = e₂.programs) :
    e₁.haltsAt = e₂.haltsAt := by
  funext rule x
  simp [haltsAt, programAt?_congr hp]

/-- The rule and the run are all that matter of the engine a run starts from, besides its
programs. -/
theorem StopsAsRule.congr {e₁ e₂ e' : Engine} {rule : Nat → Bool → Bool} {start : RunState}
    {run : List Moment} (h : StopsAsRule e₁ rule start run e')
    (hp : e₁.programs = e₂.programs) : StopsAsRule e₂ rule start run e' := by
  have hh := haltsAt_congr hp
  have hq := programAt?_congr hp
  exact ⟨fun m index line args n r p hf hpa ↦ h.paused m index line args n r p (hh ▸ hf) (hq ▸ hpa),
    fun hf ↦ h.finished (hh ▸ hf), fun hf ↦ h.failed (hh ▸ hf), fun hf ↦ h.running (hh ▸ hf)⟩

/-- **A report that does not stop the program passes the decision on** to the rest of the
run. -/
theorem StopsAsRule.cons {e e' : Engine} {rule : Nat → Bool → Bool} {start : RunState}
    {run : List Moment} {x : Moment} (h : StopsAsRule e rule start run e')
    (hx : e.haltsAt rule x = false) (hend : x.stop.ends = false) :
    StopsAsRule e rule start (x :: run) e' := by
  have hfind : (x :: run).find? (e.haltsAt rule) = run.find? (e.haltsAt rule) :=
    List.find?_cons_of_neg (by simp [hx])
  refine ⟨fun m index line args n r p hf hp ↦ h.paused m index line args n r p (hfind ▸ hf) hp,
    fun hf m vals n r hm ↦ ?_, fun hf m err tb n r hm ↦ ?_, fun hf hall ↦ ?_⟩
  · rcases List.mem_cons.1 hm with rfl | hm
    · simp [Lua.Stop.ends] at hend
    · exact h.finished (hfind ▸ hf) m vals n r hm
  · rcases List.mem_cons.1 hm with rfl | hm
    · simp [Lua.Stop.ends] at hend
    · exact h.failed (hfind ▸ hf) m err tb n r hm
  · exact h.running (hfind ▸ hf) fun y hy ↦ hall y (List.mem_cons_of_mem x hy)

/-! ### What a stepping command reports -/

theorem terminalError_of_ne {e : Engine} (h : e.session.state ≠ .terminated) :
    e.terminalError = .ok () := by
  unfold terminalError
  split
  · rename_i hst _
    exact absurd hst h
  · rfl

theorem terminalError_of_none {e : Engine} (h : e.runFault = none) : e.terminalError = .ok () := by
  unfold terminalError
  split
  · rename_i hf
    rw [h] at hf
    cases hf
  · rfl

theorem terminalError_of_raised {e : Engine} {msg : ByteArray} {tb : String}
    (hs : e.session.state = .terminated) (hf : e.runFault = some (.raised msg tb)) :
    e.terminalError = .error (.programFailed msg) := by
  simp [terminalError, hs, hf, RunFault.message]

/-! ### Runs of one stop -/

/-- The empty run leaves the program as it started. -/
theorem StopsAsRule.nil {e e' : Engine} {rule : Nat → Bool → Bool} {start : RunState}
    (h : e'.session.state = start) : StopsAsRule e rule start [] e' :=
  ⟨fun _ _ _ _ _ _ _ hf ↦ by simp at hf, fun _ _ _ _ _ hm ↦ by simp at hm,
    fun _ _ _ _ _ _ hm ↦ by simp at hm, fun _ _ ↦ h⟩

/-- **A report at which the rule stops decides the run**: the engine must be paused there. -/
theorem StopsAsRule.head {e e' : Engine} {rule : Nat → Bool → Bool} {start : RunState}
    {run : List Moment} {m : Machine} {index line : Int} {args : Array Lua.Value} {n : Nat}
    {r : Registry} {p : Program} (hp : e.programAt? index = some p)
    (hx : rule (Machine.depth m.frames) (r.has p.id line))
    (hm : e'.machine = m) (ha : e'.suspended = some args)
    (hd : e'.pausedDepth = Machine.depth m.frames)
    (hs : e'.session.state = if r.has p.id line then .pausedAtBreakpoint else .paused)
    (hr : e'.registry = r) (hn : e'.stops = n) :
    StopsAsRule e rule start (⟨m, .hook index line args, n, r⟩ :: run) e' := by
  have hfind : (⟨m, .hook index line args, n, r⟩ :: run).find? (e.haltsAt rule) =
      some ⟨m, .hook index line args, n, r⟩ :=
    List.find?_cons_of_pos (by simp [haltsAt, hp, hx])
  refine ⟨fun m' index' line' args' n' r' p' hf hp' ↦ ?_, fun hf ↦ by simp [hfind] at hf,
    fun hf ↦ by simp [hfind] at hf, fun hf ↦ by simp [hfind] at hf⟩
  rw [hfind] at hf
  simp only [Option.some.injEq, Moment.mk.injEq, Lua.Stop.hook.injEq] at hf
  obtain ⟨rfl, ⟨rfl, rfl, rfl⟩, rfl, rfl⟩ := hf
  rw [hp] at hp'
  cases hp'
  refine ⟨hm, ha, hd, hs, hr, hn, terminalError_of_ne ?_⟩
  rw [hs]
  split <;> decide

/-- A run made of one stop that is no report stopping the program: a return or a failure
ends the session at that stop, and anything else leaves it as it started. -/
theorem StopsAsRule.singleton {e e' : Engine} {rule : Nat → Bool → Bool} {start : RunState}
    {x : Moment} (hx : e.haltsAt rule x = false)
    (hdone : ∀ vals, x.stop = .done vals →
      e'.session.state = .terminated ∧ e'.runFault = none ∧ e'.stops = x.number)
    (hfail : ∀ err tb, x.stop = .failed err tb →
      e'.session.state = .terminated ∧ e'.runFault = some (.raised (Heap.textBytes err) tb) ∧
        e'.stops = x.number)
    (hrun : x.stop.ends = false → e'.session.state = start) :
    StopsAsRule e rule start [x] e' := by
  have hfind : [x].find? (e.haltsAt rule) = none := by simp [hx]
  refine ⟨fun _ _ _ _ _ _ _ hf ↦ by simp [hfind] at hf, fun _ m vals n r hm ↦ ?_,
    fun _ m err tb n r hm ↦ ?_, fun _ hall ↦ hrun (hall x (List.mem_singleton_self x))⟩
  · rw [List.mem_singleton] at hm
    obtain ⟨hs, hf, hn⟩ := hdone vals (by rw [← hm])
    exact ⟨hs, hf, by rw [hn, ← hm], terminalError_of_none hf⟩
  · rw [List.mem_singleton] at hm
    obtain ⟨hs, hf, hn⟩ := hfail err tb (by rw [← hm])
    exact ⟨hs, hf, by rw [hn, ← hm], terminalError_of_raised hs hf⟩

/-! ### The run decides where `drive` stops -/

/-- The program has ended exactly when its session has terminated. `finish` sets both at once;
every other step leaves the end as it is, and moves the session only between states short of
the end. -/
def Coherent (e : Engine) : Prop := e.done = true ↔ e.session.state = .terminated

/-- Starting the engine keeps it coherent. -/
theorem Coherent.start {e : Engine} (h : e.Coherent) : e.start.Coherent := h

end Engine

end Script

end LuaDebugger
