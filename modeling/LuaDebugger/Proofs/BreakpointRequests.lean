import LuaDebugger.Proofs.RequestHandling
import LuaDebugger.Proofs.Inspection
/-!
# Only a valid breakpoint request edits the registry

Of all the requests, only adding and removing a breakpoint change the engine's breakpoints,
and only when the request's arguments pass every check: two arguments at least, a line that
reads as a decimal integer, and a path whose file is open and has that line. The registry is
then changed by adding or removing exactly the breakpoint at that line of that file. Every
other request, and every refused one, leaves the registry as it was, and a refused breakpoint
request is answered by its receipt and one line with the reason.

This rests on the engine keeping its breakpoints apart (`KeepsBreakpoints`): setting them sets
them, its log is apart from them and from its open files, and none of its five questions
changes them. The engine that runs programs and the engine with answers given in advance both
do (`instKeepsBreakpointsEngine`, `instKeepsBreakpointsReplayEngine`); for the first it takes
the runs of `Engine.drive` apart step by step (`Engine.resume_registry`).

* `Dispatcher.Names.unique`, `Dispatcher.Refuses.not_names`: the arguments name at most one
  breakpoint, and never one when they are refused;
* `Dispatcher.handler_consults`: the handlers of the other requests only ask questions and
  write to the log;
* `Dispatcher.registry_changes_only_by_valid_edits`: the law for every request, every engine
  state and either way of answering.
-/

namespace LuaDebugger

open Dispatcher (Asks Consults Names Refuses)

/-- The laws of an engine that keeps its breakpoints apart from all else it does. -/
class KeepsBreakpoints (σ : Type) [DebugEngine σ] : Prop where
  /-- Setting the breakpoints sets them. -/
  breakpoints_setBreakpoints : ∀ (s : σ) (reg : Registry),
    DebugEngine.breakpoints (DebugEngine.setBreakpoints s reg) = reg
  /-- Writing to the log leaves the open files alone. -/
  openFile_setJournal : ∀ (s : σ) (j : Journal),
    DebugEngine.openFile (DebugEngine.setJournal s j) = DebugEngine.openFile s
  /-- Questions and log lines leave the breakpoints alone. -/
  breakpoints_of_asks : ∀ {s s' : σ}, Asks s s' → DebugEngine.breakpoints s' = DebugEngine.breakpoints s

namespace Dispatcher

variable {σ : Type} [DebugEngine σ]

theorem Consults.breakpoints_eq [KeepsBreakpoints σ] {s s' : σ} (h : Consults s s') :
    DebugEngine.breakpoints s' = DebugEngine.breakpoints s := by
  induction h with
  | refl => rfl
  | tail _ hask ih => rw [KeepsBreakpoints.breakpoints_of_asks hask, ih]

/-- The arguments of a request name at most one breakpoint: its line is the one the second
argument reads as, its file the identity of the first. -/
theorem Names.unique {cwd : String} {files : FileId → Option OpenFile} {args : List ByteArray}
    {b b' : Breakpoint} (h : Names cwd files args b) (h' : Names cwd files args b') : b = b' := by
  obtain ⟨path, lineArg, rest, f, rfl, hl, hfile, -⟩ := h
  obtain ⟨path', lineArg', rest', f', hargs, hl', hfile', -⟩ := h'
  obtain ⟨rfl, rfl, rfl⟩ : path = path' ∧ lineArg = lineArg' ∧ rest = rest' := by
    simpa using hargs
  have hline : b.line = b'.line := Except.ok.inj (hl.symm.trans hl')
  cases b
  cases b'
  simp_all

/-- Refused arguments name no breakpoint. -/
theorem Refuses.not_names {cwd : String} {files : FileId → Option OpenFile} {name : ByteArray}
    {args : List ByteArray} {reason : ByteArray} (h : Refuses cwd files name args reason)
    (b : Breakpoint) : ¬Names cwd files args b := by
  rintro ⟨path, lineArg, rest, f, rfl, hl, hfile, hf, hlo, hhi⟩
  cases h with
  | usage h => exact absurd h (by simp)
  | badLine h => rw [hl] at h; cases h
  | fileNotOpen hl' hf' => rw [← hfile, hf] at hf'; cases hf'
  | lineOutOfRange hl' hf' hr =>
    rw [← hfile, hf] at hf'
    cases hf'
    rw [hl] at hl'
    cases hl'
    omega

/-- The handlers of the requests other than the two breakpoint edits only ask the engine
questions and write to the log. -/
theorem handler_consults (d : Dispatcher) {i : Instruction} (req : Request) (s : σ)
    (hedit : i ≠ .addBreakpoint ∧ i ≠ .removeBreakpoint) :
    ∃ f s', Answers (d.handler i req) s f s' ∧ Consults s s' := by
  by_cases hstarts : ∃ c, i = .run c
  · obtain ⟨c, rfl⟩ := hstarts
    obtain ⟨f, s', h, -, hs⟩ := run_writes d c req s
    exact ⟨_, s', h, hs⟩
  · obtain ⟨f, s', h, -, hs⟩ := handler_writes d req s hedit fun c h ↦ hstarts ⟨c, h⟩
    exact ⟨f, s', h, hs⟩

/-- Refused arguments are refused for one reason. -/
theorem Refuses.unique {cwd : String} {files : FileId → Option OpenFile} {name : ByteArray}
    {args : List ByteArray} {reason reason' : ByteArray} (h : Refuses cwd files name args reason)
    (h' : Refuses cwd files name args reason') : reason = reason' := by
  -- two arguments at least, and the line read and the file looked up, decide the case
  have hlen {path lineArg : ByteArray} {rest : List ByteArray} :
      ¬(path :: lineArg :: rest).length < 2 := by simp
  cases h with
  | usage hshort =>
    cases h' with
    | usage => rfl
    | _ => exact absurd hshort hlen
  | badLine hl =>
    cases h' with
    | usage hshort => exact absurd hshort hlen
    | badLine => rfl
    | fileNotOpen hl' _ => rw [hl] at hl'; cases hl'
    | lineOutOfRange hl' _ _ => rw [hl] at hl'; cases hl'
  | fileNotOpen hl hf =>
    cases h' with
    | usage hshort => exact absurd hshort hlen
    | badLine hl' => rw [hl] at hl'; cases hl'
    | fileNotOpen => rfl
    | lineOutOfRange _ hf' _ => rw [hf] at hf'; cases hf'
  | lineOutOfRange hl hf _ =>
    cases h' with
    | usage hshort => exact absurd hshort hlen
    | badLine hl' => rw [hl] at hl'; cases hl'
    | fileNotOpen _ hf' => rw [hf] at hf'; cases hf'
    | lineOutOfRange hl' _ _ => rw [hl] at hl'; cases hl'; rfl

/-- A request that is neither of the two breakpoint edits leaves the breakpoints alone,
whatever the engine answers it. -/
theorem dispatch_keeps_breakpoints [KeepsBreakpoints σ] (d : Dispatcher) {req : Request}
    (hedit : Instruction.ofName? req.name ≠ some .addBreakpoint ∧
      Instruction.ofName? req.name ≠ some .removeBreakpoint) (s : σ) (early : Bool) :
    DebugEngine.breakpoints ((d.dispatch req early).run s).2 = DebugEngine.breakpoints s := by
  cases hi : Instruction.ofName? req.name with
  | none =>
    -- an unknown request only writes to the log
    obtain ⟨j, hj⟩ : ∃ j, ((d.dispatch req early).run s).2 = DebugEngine.setJournal s j := by
      cases hp : d.policy <;> exact ⟨_, by simp only [dispatch, hi, hp]; rfl⟩
    rw [hj, KeepsBreakpoints.breakpoints_of_asks (.note s j)]
  | some i =>
    rw [hi] at hedit
    have hi' : i ≠ .addBreakpoint ∧ i ≠ .removeBreakpoint :=
      ⟨fun h ↦ hedit.1 (h ▸ rfl), fun h ↦ hedit.2 (h ▸ rfl)⟩
    rw [dispatch_of_ofName? hi]
    obtain ⟨f, s', h, hs'⟩ := handler_consults d req (DebugEngine.setJournal s _) hi'
    rw [h, hs'.breakpoints_eq, KeepsBreakpoints.breakpoints_of_asks (.note s _)]

theorem ack_new (early : Bool) (name : ByteArray) :
    (({ early := early } : Reply).ack name).flushed = [] ∧
      (({ early := early } : Reply).ack name).text = Reply.receiptLine name ++ "\n".toUTF8 := by
  simp [Reply.ack, Reply.line]

/-- **A breakpoint edit as a whole request.** When the arguments name a breakpoint, the
registry operation is applied to it and the reply is the receipt; when they are refused, the
registry is left alone and the reply is the receipt and one line with the reason. -/
theorem dispatch_edit [KeepsBreakpoints σ] {d : Dispatcher} {req : Request} {i : Instruction}
    {edit : Registry → Breakpoint → Bool × Registry} {unchanged : Breakpoint → String}
    (hi : Instruction.ofName? req.name = some i)
    (hh : (d.handler i req : Reply → StateM σ Reply) = d.editBreakpoint edit unchanged req)
    (s : σ) (early : Bool) :
    (∀ b, Names d.cwd (DebugEngine.openFile s) req.args b →
      DebugEngine.breakpoints ((d.dispatch req early).run s).2 =
        (edit (DebugEngine.breakpoints s) b).2) ∧
    ((∀ b, ¬Names d.cwd (DebugEngine.openFile s) req.args b) →
      DebugEngine.breakpoints ((d.dispatch req early).run s).2 = DebugEngine.breakpoints s) ∧
    ((d.dispatch req early).run s).1.flushed = [] ∧
    ((∃ b, Names d.cwd (DebugEngine.openFile s) req.args b) ∨
      ∃ reason, Refuses d.cwd (DebugEngine.openFile s) req.name req.args reason) ∧
    ((∃ b, Names d.cwd (DebugEngine.openFile s) req.args b) →
      ((d.dispatch req early).run s).1.text = Reply.receiptLine req.name ++ "\n".toUTF8) ∧
    (∀ reason, Refuses d.cwd (DebugEngine.openFile s) req.name req.args reason →
      ((d.dispatch req early).run s).1.text =
        Reply.receiptLine req.name ++ "\n".toUTF8 ++ refusal req.name reason ++ "\n".toUTF8) := by
  rw [dispatch_of_ofName? hi, hh]
  -- the request's log line changes neither the open files nor the breakpoints
  generalize hs₁ : DebugEngine.setJournal s _ = s₁
  have hfiles : DebugEngine.openFile s₁ = DebugEngine.openFile s :=
    hs₁ ▸ KeepsBreakpoints.openFile_setJournal _ _
  have hreg : DebugEngine.breakpoints s₁ = DebugEngine.breakpoints s :=
    hs₁ ▸ KeepsBreakpoints.breakpoints_of_asks (.note _ _)
  obtain ⟨hflushed, htext⟩ := ack_new early req.name
  rcases editBreakpoint_answers d edit unchanged req s₁ with
    ⟨b, hb, s', hs', h⟩ | ⟨reason, s', hr, hs', h⟩
  · rw [hfiles] at hb
    have hafter : DebugEngine.breakpoints s' = (edit (DebugEngine.breakpoints s) b).2 := by
      rw [hs'.breakpoints_eq, KeepsBreakpoints.breakpoints_setBreakpoints, hreg]
    rw [h]
    exact ⟨fun b' hb' ↦ by rw [← hb.unique hb', hafter], fun hnone ↦ absurd hb (hnone b),
      hflushed, .inl ⟨b, hb⟩, fun _ ↦ htext, fun _ hr ↦ absurd hb (hr.not_names b)⟩
  · rw [hfiles] at hr
    rw [h]
    refine ⟨fun b hb ↦ absurd hb (hr.not_names b), fun _ ↦ hs'.breakpoints_eq.trans hreg,
      hflushed, .inr ⟨reason, hr⟩, fun ⟨b, hb⟩ ↦ absurd hb (hr.not_names b), fun reason' hr' ↦ ?_⟩
    rw [← hr.unique hr']
    simp only [Reply.line, htext]

end Dispatcher

/-! ### The two engines keep their breakpoints apart -/

instance instKeepsBreakpointsReplayEngine : KeepsBreakpoints ReplayEngine where
  breakpoints_setBreakpoints _ _ := rfl
  openFile_setJournal _ _ := rfl
  breakpoints_of_asks h := by
    cases h with
    | readVariable =>
      rename_i s name
      simp only [DebugEngine.readVariable, bind, StateT.bind, StateT.run, get, getThe,
        MonadStateOf.get, StateT.get, pure]
      generalize List.find? (fun x ↦ x.1 == name) s.reads = found
      rcases found with _ | ⟨_, _ | _⟩ <;> rfl
    | run =>
      rename_i s c
      simp only [DebugEngine.run, bind, StateT.bind, StateT.run, get, getThe, MonadStateOf.get,
        StateT.get, set, StateT.set, MonadStateOf.set, pure]
      generalize List.find? (fun x ↦ decide (x.1 = stepName c)) s.stepErrors = found
      rcases found with _ | ⟨_, _⟩ <;> rfl
    | _ => rfl

namespace Script.Engine

theorem finish_registry (e : Engine) (fault : Option RunFault) :
    (e.finish fault).registry = e.registry := by
  cases hd : e.done with
  | true => rw [finish_of_done hd]
  | false =>
    obtain ⟨j, hj⟩ := finish_of_not_done hd fault
    rw [hj]

/-- **A command leaves the breakpoints alone**: neither starting the program nor any step of
the run to its next stop changes them. -/
theorem resume_registry (e : Engine) (cmd : Command) : (e.resume cmd).1.registry = e.registry := by
  unfold resume resumeIn
  split
  next => rfl
  next e₁ hb =>
    dsimp only
    obtain ⟨-, j, rfl⟩ := beginCommand_eq_ok hb
    -- no other client acts, so arriving at a stop leaves the breakpoints as they are
    refine drive_induction .quiet (fun e' ↦ e'.registry = e.registry) (fun e' h ↦ ?_)
      (fun _ _ h ↦ h) (fun _ h ↦ h) (fun _ _ _ h ↦ h) (fun e' e'' _ _ _ h hp ↦ ?_)
      (fun e' fault h ↦ (finish_registry e' fault).trans h) _ _ _ rfl
    · obtain ⟨j', o, hco⟩ := collectOutput_eq e'
      rw [hco]
      exact h
    · obtain ⟨-, j', rfl⟩ := pause_eq_ok hp
      exact h

end Script.Engine

instance instKeepsBreakpointsEngine : KeepsBreakpoints Script.Engine where
  breakpoints_setBreakpoints _ _ := rfl
  openFile_setJournal _ _ := rfl
  breakpoints_of_asks h := by
    cases h with
    | note => rfl
    | scopeStack => rw [(Script.Engine.reads_keep_engine _).2.2]
    | localVariables => rw [(Script.Engine.reads_keep_engine _).2.1]
    | readVariable => rw [(Script.Engine.reads_keep_engine _).1]
    | executeLine =>
      rename_i e src
      obtain ⟨m, o, j, h⟩ := Script.Engine.executeLine_runsCodeOnly e src
      rw [h]
      rfl
    | run =>
      rename_i e c
      exact Script.Engine.resume_registry e c

namespace Dispatcher

variable {σ : Type} [DebugEngine σ]

/-- **Only a valid breakpoint request edits the registry.** For every request, every engine
that keeps its breakpoints apart, every state of it, and with early parts or without:

* when the arguments name a breakpoint (`Names`: two arguments at least, a line that reads
  as a decimal integer, an open file that has that line), adding a breakpoint adds exactly it
  and removing one removes exactly it;
* every other request, and a breakpoint request whose arguments name none, leaves the
  registry as it was;
* a breakpoint request hands nothing over early; it is answered by its receipt alone when its
  arguments name a breakpoint, and else by its receipt and one line with the reason they are
  refused (`Refuses`); one of the two always holds. -/
theorem registry_changes_only_by_valid_edits [KeepsBreakpoints σ] (d : Dispatcher)
    (req : Request) (s : σ) (early : Bool) :
    let out := (d.dispatch req early).run s
    let files := DebugEngine.openFile s
    let reg := DebugEngine.breakpoints s
    let adds := Instruction.ofName? req.name = some .addBreakpoint
    let removes := Instruction.ofName? req.name = some .removeBreakpoint
    (∀ b, Names d.cwd files req.args b →
      (adds → DebugEngine.breakpoints out.2 = (reg.add b).2) ∧
      (removes → DebugEngine.breakpoints out.2 = (reg.remove b).2)) ∧
    ((¬adds ∧ ¬removes) ∨ (∀ b, ¬Names d.cwd files req.args b) →
      DebugEngine.breakpoints out.2 = reg) ∧
    (adds ∨ removes → out.1.flushed = [] ∧
      ((∃ b, Names d.cwd files req.args b) ∨
        ∃ reason, Refuses d.cwd files req.name req.args reason) ∧
      ((∃ b, Names d.cwd files req.args b) →
        out.1.text = Reply.receiptLine req.name ++ "\n".toUTF8) ∧
      (∀ reason, Refuses d.cwd files req.name req.args reason →
        out.1.text =
          Reply.receiptLine req.name ++ "\n".toUTF8 ++ refusal req.name reason ++ "\n".toUTF8)) := by
  intro out files reg adds removes
  by_cases hadd : adds
  · obtain ⟨hnames, hnone, hreply⟩ := dispatch_edit hadd
      (show (d.handler .addBreakpoint req : Reply → StateM σ Reply) =
        d.editBreakpoint Registry.add _ req from rfl) s early
    have hrem : ¬removes := fun h ↦ by
      cases (show some Instruction.addBreakpoint = some .removeBreakpoint from hadd.symm.trans h)
    refine ⟨fun b hb ↦ ⟨fun _ ↦ hnames b hb, fun h ↦ absurd h hrem⟩, ?_, fun _ ↦ hreply⟩
    rintro (⟨hna, -⟩ | hnone')
    · exact absurd hadd hna
    · exact hnone hnone'
  by_cases hremove : removes
  · obtain ⟨hnames, hnone, hreply⟩ := dispatch_edit hremove
      (show (d.handler .removeBreakpoint req : Reply → StateM σ Reply) =
        d.editBreakpoint Registry.remove _ req from rfl) s early
    refine ⟨fun b hb ↦ ⟨fun h ↦ absurd h hadd, fun _ ↦ hnames b hb⟩, ?_, fun _ ↦ hreply⟩
    rintro (⟨-, hnr⟩ | hnone')
    · exact absurd hremove hnr
    · exact hnone hnone'
  · have hkeep := dispatch_keeps_breakpoints d ⟨hadd, hremove⟩ s early
    exact ⟨fun b _ ↦ ⟨fun h ↦ absurd h hadd, fun h ↦ absurd h hremove⟩, fun _ ↦ hkeep,
      fun h ↦ absurd h (not_or.2 ⟨hadd, hremove⟩)⟩

end Dispatcher

/-- Removing a breakpoint in a file that is not open, from an engine that holds one
breakpoint, leaves that breakpoint in place. -/
theorem removing_in_a_closed_file_keeps_the_registry :
    let s : ReplayEngine := { registry := ((Registry.empty).add ⟨⟨7⟩, 3⟩).2 }
    DebugEngine.breakpoints ((({} : Dispatcher).dispatch
      ⟨"remover-ponto-parada".toUTF8, ["/fonte.lua".toUTF8, "3".toUTF8]⟩ false).run s).2 =
        DebugEngine.breakpoints s := by
  intro s
  refine (Dispatcher.registry_changes_only_by_valid_edits {} _ s false).2.1 (.inr fun b hb ↦ ?_)
  obtain ⟨-, -, -, f, -, -, -, hf, -⟩ := hb
  simp [s, DebugEngine.openFile] at hf

end LuaDebugger
