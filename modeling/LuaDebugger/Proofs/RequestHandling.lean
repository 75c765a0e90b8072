import Mathlib
import Mathlib.Logic.Relation
import LuaDebugger.Proofs.Framing
/-!
# How each request is answered

The dispatcher answers a request by running its handler on an empty reply. Two facts about
every handler carry the results of this module: it writes its answer after the reply it is
given, the same text whatever that reply holds (`Reply.IsWrite`), and what it does to the
engine (ask it questions, write to the shared log, edit its breakpoints) never depends on
the reply. Only the handler of the four requests that start the program hands a part of the
reply over early: its receipt, before the engine is asked to run.

* `Dispatcher.Answers`, `Dispatcher.Writes`: a handler's effect on its reply and on the
  engine, and `Dispatcher.Consults`, the engine states reached by questions and log lines
  alone;
* `Dispatcher.breakpointArg_answers`, `Dispatcher.editBreakpoint_answers`: the breakpoint
  requests, with `Names` (the breakpoint the arguments name when every check passes) and
  `Refuses` (why they are refused, and the reason the reply gives);
* `Dispatcher.dispatch_answers`: a whole request writes one text after its starting reply
  (`startReply`), the same with and without early parts;
* `Dispatcher.early_parts_change_nothing_sent`: answering with early parts sends the same
  text as answering without, closes the connection alike and leaves the engine alike; the
  early part is the receipt of a request that starts the program, and nothing else.
-/

namespace LuaDebugger

namespace Reply

/-- The reply with `t` written after its text, asking for the connection to be closed when `c`
says so. -/
def write (r : Reply) (t : ByteArray) (c : Bool) : Reply :=
  { r with text := r.text ++ t, close := r.close || c }

/-- An edit of replies that writes one fixed text after any reply and may ask for the
connection to be closed: it never reads the reply, and hands nothing over early. -/
def IsWrite (f : Reply → Reply) : Prop := ∃ t c, ∀ r, f r = r.write t c

namespace IsWrite

variable {f g : Reply → Reply}

theorem id : IsWrite fun r ↦ r :=
  ⟨.empty, false, fun r ↦ by simp [write, ByteArray.append_empty]⟩

theorem comp (hf : IsWrite f) (hg : IsWrite g) : IsWrite fun r ↦ g (f r) := by
  obtain ⟨t, c, hf⟩ := hf
  obtain ⟨t', c', hg⟩ := hg
  exact ⟨t ++ t', c || c', fun r ↦ by simp [hf, hg, write, ByteArray.append_assoc, Bool.or_assoc]⟩

theorem line (h : IsWrite f) (b : ByteArray) : IsWrite fun r ↦ (f r).line b := by
  obtain ⟨t, c, hf⟩ := h
  exact ⟨t ++ (b ++ "\n".toUTF8), c, fun r ↦ by
    simp [hf, write, Reply.line, ByteArray.append_assoc]⟩

theorem error (h : IsWrite f) (msg : ByteArray) : IsWrite fun r ↦ (f r).error msg :=
  ((h.line _).line _).line _

theorem ack (h : IsWrite f) (name : ByteArray) : IsWrite fun r ↦ (f r).ack name := h.line _

theorem begin (h : IsWrite f) (name : ByteArray) : IsWrite fun r ↦ (f r).begin name := h.line _

theorem «end» (h : IsWrite f) (name : ByteArray) : IsWrite fun r ↦ (f r).end name := h.line _

theorem lineText (h : IsWrite f) (t : String) : IsWrite fun r ↦ (f r).lineText t := h.line _

theorem foldl {α : Type} (h : IsWrite f) (step : Reply → α → Reply)
    (hstep : ∀ a, IsWrite fun r ↦ step r a) (as : List α) :
    IsWrite fun r ↦ as.foldl step (f r) := by
  induction as generalizing f with
  | nil => exact h
  | cons a as ih => exact ih (h.comp (hstep a))

theorem lines (h : IsWrite f) (bs : List ByteArray) : IsWrite fun r ↦ bs.foldl Reply.line (f r) :=
  h.foldl Reply.line (fun b ↦ id.line b) bs

theorem close (h : IsWrite f) : IsWrite fun r ↦ { f r with close := true } := by
  obtain ⟨t, c, hf⟩ := h
  exact ⟨t, true, fun r ↦ by simp [hf, write]⟩

end IsWrite

/-- Writing after a reply adds to what it sends, early parts or not. -/
theorem sent_write (r : Reply) (t : ByteArray) (c : Bool) : (r.write t c).sent = r.sent ++ t := by
  apply Text.data_toList_injective
  simp [sent_data, write]

end Reply

namespace Dispatcher

variable {σ : Type} [DebugEngine σ]

/-- The handler `h`, run on the engine state `s`, answers a reply `r` with `f r` and leaves the
engine in `s'`, whatever `r` is. -/
def Answers (h : Reply → StateM σ Reply) (s : σ) (f : Reply → Reply) (s' : σ) : Prop :=
  ∀ r, (h r).run s = (f r, s')

/-- One thing a request does to the engine besides editing its breakpoints: a line of the
shared log, or one of the engine's five questions. -/
inductive Asks : σ → σ → Prop
  | note (s : σ) (j : Journal) : Asks s (DebugEngine.setJournal s j)
  | scopeStack (s : σ) : Asks s (DebugEngine.scopeStack.run s).2
  | localVariables (s : σ) : Asks s (DebugEngine.localVariables.run s).2
  | executeLine (src : ByteArray) (s : σ) : Asks s ((DebugEngine.executeLine src).run s).2
  | readVariable (name : ByteArray) (s : σ) : Asks s ((DebugEngine.readVariable name).run s).2
  | run (c : Command) (s : σ) : Asks s ((DebugEngine.run c).run s).2

/-- The engine states reached by questions and log lines alone. -/
abbrev Consults : σ → σ → Prop := Relation.ReflTransGen Asks

theorem Consults.note {s s' : σ} (h : Consults s s') (j : Journal) :
    Consults s (DebugEngine.setJournal s' j) :=
  h.tail (.note s' j)


/-! ### Breakpoint requests -/

/-- The breakpoint that the arguments of a breakpoint request name when every check passes:
two arguments at least, a second one that reads as a decimal integer, and a first one naming
an open file that has that line. The file is the identity of the path. -/
def Names (cwd : String) (files : FileId → Option OpenFile) (args : List ByteArray)
    (b : Breakpoint) : Prop :=
  ∃ path lineArg rest f, args = path :: lineArg :: rest ∧
    Decimal.readInt 10 (Text.decodeLossy lineArg) = .ok b.line ∧
    b.file = FileId.ofPath cwd (Text.decodeLossy path) ∧ files b.file = some f ∧
    1 ≤ b.line ∧ b.line ≤ f.lineCount

/-- Why the arguments of a breakpoint request are refused, checked in this order, with the
reason the reply gives after the request's name. -/
inductive Refuses (cwd : String) (files : FileId → Option OpenFile) (name : ByteArray) :
    List ByteArray → ByteArray → Prop
  /-- Fewer than two arguments: the reply shows how to write the request. -/
  | usage {args : List ByteArray} (h : args.length < 2) :
      Refuses cwd files name args
        ("Formato: ".toUTF8 ++ name ++ " /caminho/do/arquivo.egua 1".toUTF8)
  /-- A line that is no decimal integer: the reply quotes it. -/
  | badLine {path lineArg : ByteArray} {rest : List ByteArray} {fault : Decimal.ReadFault}
      (h : Decimal.readInt 10 (Text.decodeLossy lineArg) = .error fault) :
      Refuses cwd files name (path :: lineArg :: rest)
        ("Linha '".toUTF8 ++ lineArg ++ "' inválida".toUTF8)
  /-- A path whose file is not open: the reply quotes the path. -/
  | fileNotOpen {path lineArg : ByteArray} {rest : List ByteArray} {line : Int}
      (hl : Decimal.readInt 10 (Text.decodeLossy lineArg) = .ok line)
      (hf : files (FileId.ofPath cwd (Text.decodeLossy path)) = none) :
      Refuses cwd files name (path :: lineArg :: rest)
        ("Arquivo '".toUTF8 ++ path ++ "' não encontrado".toUTF8)
  /-- A line that the file does not have: the reply names the line and the path. -/
  | lineOutOfRange {path lineArg : ByteArray} {rest : List ByteArray} {line : Int} {f : OpenFile}
      (hl : Decimal.readInt 10 (Text.decodeLossy lineArg) = .ok line)
      (hf : files (FileId.ofPath cwd (Text.decodeLossy path)) = some f)
      (hr : line < 1 ∨ f.lineCount < line) :
      Refuses cwd files name (path :: lineArg :: rest)
        ((s!"Linha {line} não existente em arquivo '").toUTF8 ++ path ++ "'".toUTF8)

/-- **Reading a breakpoint request.** Either the arguments name a breakpoint, and the reading
changes neither the reply nor the engine, or they are refused, and the reply gets one line that
gives the reason, the engine at most a line of its log. -/
theorem breakpointArg_answers (d : Dispatcher) (req : Request) (s : σ) :
    (∃ b, Names d.cwd (DebugEngine.openFile s) req.args b ∧
      ∀ r, (d.breakpointArg req r).run s = ((r, some b), s)) ∨
    (∃ reason s', Refuses d.cwd (DebugEngine.openFile s) req.name req.args reason ∧
      Consults s s' ∧
      ∀ r, (d.breakpointArg req r).run s = ((r.line (refusal req.name reason), none), s')) := by
  rcases hargs : req.args with _ | ⟨path, _ | ⟨lineArg, rest⟩⟩
  · exact .inr ⟨_, s, .usage (by simp), .refl, fun r ↦ by simp [breakpointArg, hargs]; rfl⟩
  · exact .inr ⟨_, s, .usage (by simp), .refl, fun r ↦ by simp [breakpointArg, hargs]; rfl⟩
  · rcases hl : Decimal.readInt 10 (Text.decodeLossy lineArg) with fault | line
    · refine .inr ⟨_, _, .badLine hl, .single (.note s ((DebugEngine.journal s).write d.logger
        .debug (refusal req.name ("Linha '".toUTF8 ++ lineArg ++ "' inválida".toUTF8)))),
        fun r ↦ ?_⟩
      simp only [breakpointArg, hargs, hl]
      rfl
    · rcases hf : DebugEngine.openFile s (FileId.ofPath d.cwd (Text.decodeLossy path)) with _ | f
      · refine .inr ⟨_, s, .fileNotOpen hl hf, .refl, fun r ↦ ?_⟩
        simp [breakpointArg, hargs, hl, Breakpoint.validate, hf]
        rfl
      · by_cases hr : line < 1 ∨ f.lineCount < line
        · refine .inr ⟨_, s, .lineOutOfRange hl hf hr, .refl, fun r ↦ ?_⟩
          simp [breakpointArg, hargs, hl, Breakpoint.validate, hf, hr]
          rfl
        · refine .inl ⟨⟨FileId.ofPath d.cwd (Text.decodeLossy path), line⟩,
            ⟨path, lineArg, rest, f, rfl, hl, rfl, hf, by dsimp only; omega, by dsimp only; omega⟩,
            fun r ↦ ?_⟩
          simp [breakpointArg, hargs, hl, Breakpoint.validate, hf, hr]
          rfl

/-- The handler `h`, run on the engine state `s`, writes after the reply it is given and only
asks the engine questions and writes to the log. -/
def Writes (h : Reply → StateM σ Reply) (s : σ) : Prop :=
  ∃ f s', Answers h s f s' ∧ Reply.IsWrite f ∧ Consults s s'

/-- **Adding or removing a breakpoint.** When the arguments name a breakpoint, the registry
operation is applied to it and the reply is the receipt alone; when they are refused, the
registry is left alone and the receipt is followed by the reason. -/
theorem editBreakpoint_answers (d : Dispatcher) (edit : Registry → Breakpoint → Bool × Registry)
    (unchanged : Breakpoint → String) (req : Request) (s : σ) :
    (∃ b, Names d.cwd (DebugEngine.openFile s) req.args b ∧ ∃ s',
      Consults (DebugEngine.setBreakpoints s (edit (DebugEngine.breakpoints s) b).2) s' ∧
      Answers (d.editBreakpoint edit unchanged req) s (·.ack req.name) s') ∨
    (∃ reason s', Refuses d.cwd (DebugEngine.openFile s) req.name req.args reason ∧
      Consults s s' ∧
      Answers (d.editBreakpoint edit unchanged req) s
        (fun r ↦ (r.ack req.name).line (refusal req.name reason)) s') := by
  rcases breakpointArg_answers d req s with ⟨b, hb, harg⟩ | ⟨reason, s', hr, hs', harg⟩
  · refine .inl ⟨b, hb, ?_⟩
    rcases hedit : edit (DebugEngine.breakpoints s) b with ⟨_ | _, reg⟩
    · refine ⟨_, .single (.note _ ((DebugEngine.journal (DebugEngine.setBreakpoints s reg)).write
        d.logger .debug (unchanged b).toUTF8)), fun r ↦ ?_⟩
      simp only [editBreakpoint, bind, StateT.bind, StateT.run] at harg ⊢
      rw [harg]
      simp [StateT.bind, get, getThe, MonadStateOf.get, StateT.get, set, StateT.set,
        MonadStateOf.set, hedit]
      rfl
    · refine ⟨_, .refl, fun r ↦ ?_⟩
      simp only [editBreakpoint, bind, StateT.bind, StateT.run] at harg ⊢
      rw [harg]
      simp [StateT.bind, get, getThe, MonadStateOf.get, StateT.get, set, StateT.set,
        MonadStateOf.set, hedit]
      rfl
  · refine .inr ⟨reason, s', hr, hs', fun r ↦ ?_⟩
    simp only [editBreakpoint, bind, StateT.bind, StateT.run] at harg ⊢
    rw [harg]
    rfl

theorem listBreakpoints_writes (req : Request) (s : σ) : Writes (listBreakpoints req) s := by
  apply Exists.intro
  refine ⟨s, fun r ↦ ?_, ?_, .refl⟩
  · simp only [listBreakpoints, bind, StateT.bind, StateT.run, get, getThe, MonadStateOf.get,
      StateT.get, pure, StateT.pure]
    rfl
  · exact (Reply.IsWrite.id.ack req.name).foldl _ (fun _ ↦ Reply.IsWrite.id.lineText _) _

theorem stackTrace_writes (d : Dispatcher) (req : Request) (s : σ) :
    Writes (d.stackTrace req) s := by
  have hask : Consults s (DebugEngine.scopeStack.run s).2 := .single (.scopeStack s)
  rcases h : DebugEngine.scopeStack.run s with ⟨e | frames, s₁⟩
  · rw [h] at hask
    refine ⟨_, _, fun r ↦ ?_, (Reply.IsWrite.id.ack req.name).error e, hask.note
      ((DebugEngine.journal s₁).write d.logger .warn (req.name ++ ": ".toUTF8 ++ e))⟩
    simp only [stackTrace, fail, bind, StateT.bind, StateT.run] at h ⊢
    rw [h]
    rfl
  · rw [h] at hask
    rcases hl : frameLines (DebugEngine.openFile s₁) (visibleFrames frames) with e | ls
    · refine ⟨_, _, fun r ↦ ?_, (Reply.IsWrite.id.ack req.name).error e, hask.note
        ((DebugEngine.journal s₁).write d.logger .warn (req.name ++ ": ".toUTF8 ++ e))⟩
      simp only [stackTrace, fail, bind, StateT.bind, StateT.run] at h ⊢
      rw [h]
      simp [StateT.bind, get, getThe, MonadStateOf.get, StateT.get, hl]
      rfl
    · refine ⟨_, _, fun r ↦ ?_,
        (((Reply.IsWrite.id.ack req.name).begin req.name).lines ls).end req.name,
        hask⟩
      simp only [stackTrace, fail, bind, StateT.bind, StateT.run] at h ⊢
      rw [h]
      simp [StateT.bind, get, getThe, MonadStateOf.get, StateT.get, hl]
      rfl

theorem listVariables_writes (d : Dispatcher) (req : Request) (s : σ) :
    Writes (d.listVariables req) s := by
  have hask : Consults s (DebugEngine.localVariables.run s).2 := .single (.localVariables s)
  rcases h : DebugEngine.localVariables.run s with ⟨e | vs, s₁⟩
  · rw [h] at hask
    refine ⟨_, _, fun r ↦ ?_, (Reply.IsWrite.id.line (variablesReceipt req.name)).error e, hask.note
      ((DebugEngine.journal s₁).write d.logger .warn (req.name ++ ": ".toUTF8 ++ e))⟩
    simp only [listVariables, fail, bind, StateT.bind, StateT.run] at h ⊢
    rw [h]
    rfl
  · rw [h] at hask
    refine ⟨_, _, fun r ↦ ?_, (((Reply.IsWrite.id.line (variablesReceipt req.name)).begin req.name).lines
      (vs.map Variable.listingLine)).end req.name, hask⟩
    simp only [listVariables, fail, bind, StateT.bind, StateT.run, List.foldl_map] at h ⊢
    rw [h]
    rfl

theorem evaluate_writes (d : Dispatcher) (req : Request) (s : σ) :
    Writes (d.evaluate req) s := by
  have hask : Consults s ((DebugEngine.executeLine req.rest).run s).2 :=
    .single (.executeLine req.rest s)
  rcases h : (DebugEngine.executeLine req.rest).run s with ⟨e | vs, s₁⟩
  · rw [h] at hask
    refine ⟨_, _, fun r ↦ ?_, (((Reply.IsWrite.id.ack req.name).begin req.name).lineText
      (Datum.ofBytes e).jsonOrNull).end req.name, hask.note
      ((DebugEngine.journal s₁).write d.logger .debug ("evaluation failed: ".toUTF8 ++ e))⟩
    simp only [evaluate, bind, StateT.bind, StateT.run] at h ⊢
    rw [h]
    rfl
  · rw [h] at hask
    refine ⟨_, _, fun r ↦ ?_, (((Reply.IsWrite.id.ack req.name).begin req.name).lineText
      (vs.head?.getD .null).jsonOrNull).end req.name, hask⟩
    simp only [evaluate, bind, StateT.bind, StateT.run] at h ⊢
    rw [h]
    rfl

theorem evaluateVariable_writes (req : Request) (s : σ) : Writes (evaluateVariable req) s := by
  have hask : Consults s ((DebugEngine.readVariable req.rest).run s).2 :=
    .single (.readVariable req.rest s)
  rcases h : (DebugEngine.readVariable req.rest).run s with ⟨e | v, s₁⟩
  · rw [h] at hask
    refine ⟨_, _, fun r ↦ ?_,
      (((Reply.IsWrite.id.ack req.name).begin req.name).line e).end req.name, hask⟩
    simp only [evaluateVariable, bind, StateT.bind, StateT.run] at h ⊢
    rw [h]
    rfl
  · rw [h] at hask
    refine ⟨_, _, fun r ↦ ?_,
      (((Reply.IsWrite.id.ack req.name).begin req.name).lineText v.jsonOrNull).end req.name, hask⟩
    simp only [evaluateVariable, bind, StateT.bind, StateT.run] at h ⊢
    rw [h]
    rfl

theorem goodbye_writes (req : Request) (s : σ) :
    Writes (fun r ↦ (pure (goodbye req r) : StateM σ Reply)) s :=
  ⟨_, s, fun _ ↦ rfl, (Reply.IsWrite.id.line _).close, .refl⟩

/-- Starting the program hands the receipt over before the engine runs, and then writes the
opening of the answer block and any failure after it. -/
theorem run_writes (d : Dispatcher) (c : Command) (req : Request) (s : σ) :
    ∃ f s', Answers (d.run c req) s (fun r ↦ f (r.ack req.name).flush) s' ∧
      Reply.IsWrite f ∧ Consults s s' := by
  have hask : Consults s ((DebugEngine.run c).run s).2 := .single (.run c s)
  rcases h : (DebugEngine.run c).run s with ⟨e | u, s₁⟩
  · rw [h] at hask
    refine ⟨_, _, fun r ↦ ?_, (Reply.IsWrite.id.begin req.name).error e, hask.note
      ((DebugEngine.journal s₁).write d.logger .warn (req.name ++ ": ".toUTF8 ++ e))⟩
    simp only [run, fail, bind, StateT.bind, StateT.run] at h ⊢
    rw [h]
    rfl
  · rw [h] at hask
    refine ⟨_, _, fun r ↦ ?_, Reply.IsWrite.id.begin req.name, hask⟩
    simp only [run, fail, bind, StateT.bind, StateT.run] at h ⊢
    rw [h]
    rfl

/-- The handlers of the requests that neither edit breakpoints nor start the program write
after their reply and only ask the engine questions and write to the log. -/
theorem handler_writes (d : Dispatcher) {i : Instruction} (req : Request) (s : σ)
    (hedit : i ≠ .addBreakpoint ∧ i ≠ .removeBreakpoint) (hrun : ∀ c, i ≠ .run c) :
    Writes (d.handler i req) s := by
  cases i with
  | addBreakpoint => exact absurd rfl hedit.1
  | removeBreakpoint => exact absurd rfl hedit.2
  | run c => exact absurd rfl (hrun c)
  | listBreakpoints => exact listBreakpoints_writes req s
  | stackTrace => exact stackTrace_writes d req s
  | listVariables => exact listVariables_writes d req s
  | evaluate => exact evaluate_writes d req s
  | evaluateVariable => exact evaluateVariable_writes req s
  | goodbye => exact goodbye_writes req s

/-- Adding or removing a breakpoint writes after its reply, whether the breakpoint is
refused or not. -/
theorem edit_answers (d : Dispatcher) (edit : Registry → Breakpoint → Bool × Registry)
    (unchanged : Breakpoint → String) (req : Request) (s : σ) :
    ∃ f s', Answers (d.editBreakpoint edit unchanged req) s f s' ∧ Reply.IsWrite f := by
  rcases editBreakpoint_answers d edit unchanged req s with
    ⟨b, -, s', -, h⟩ | ⟨reason, s', -, -, h⟩
  · exact ⟨_, s', h, Reply.IsWrite.id.ack req.name⟩
  · exact ⟨_, s', h, (Reply.IsWrite.id.ack req.name).line _⟩

/-! ### Whole requests -/

/-- The reply a request's answer is written after: for a request that starts the program, its
receipt, handed over early when the connection takes early parts; for any other, the empty
reply. -/
def startReply (req : Request) (early : Bool) : Reply :=
  match Instruction.ofName? req.name with
  | some (.run _) => (({ early := early } : Reply).ack req.name).flush
  | _ => { early := early }

theorem startReply_of_not_run {req : Request} {i : Instruction}
    (hi : Instruction.ofName? req.name = some i) (hrun : ∀ c, i ≠ .run c) (early : Bool) :
    startReply req early = { early := early } := by
  simp only [startReply, hi]
  split
  · next c h => exact absurd (Option.some.inj h) (hrun c)
  · rfl

/-- A known request writes a line to the log, then runs its handler. -/
theorem dispatch_of_ofName? {req : Request} {i : Instruction}
    (hi : Instruction.ofName? req.name = some i) (d : Dispatcher) (early : Bool) (s : σ) :
    (d.dispatch req early).run s = (d.handler i req { early := early }).run
      (DebugEngine.setJournal s ((DebugEngine.journal s).write d.logger .debug
        ("command ".toUTF8 ++ req.name ++ " ".toUTF8 ++ argsText req))) := by
  simp only [dispatch, hi]
  rfl

/-- **Every request writes one text after its starting reply**, and leaves the engine in one
state, with early parts or without. -/
theorem dispatch_answers (d : Dispatcher) (req : Request) (s : σ) :
    ∃ f s', Reply.IsWrite f ∧
      ∀ early, (d.dispatch req early).run s = (f (startReply req early), s') := by
  cases hi : Instruction.ofName? req.name with
  | none =>
    cases hp : d.policy with
    | ignore =>
      exact ⟨fun r ↦ r, _, .id, fun early ↦ by simp only [dispatch, hi, hp, startReply]; rfl⟩
    | report =>
      exact ⟨fun r ↦ r.error (refusal req.name "comando desconhecido".toUTF8), _,
        Reply.IsWrite.id.error _, fun early ↦ by simp only [dispatch, hi, hp, startReply]; rfl⟩
  | some i =>
    have hrun := fun early ↦ dispatch_of_ofName? hi d early s
    generalize DebugEngine.setJournal s _ = s₁ at hrun
    -- the handlers fall in three kinds: the two edits, the four starts, and the rest
    by_cases hedit : i = .addBreakpoint ∨ i = .removeBreakpoint
    · have hstart := startReply_of_not_run hi (by rcases hedit with rfl | rfl <;> simp)
      obtain ⟨f, s', h, hf⟩ : ∃ f s', Answers (d.handler i req) s₁ f s' ∧ Reply.IsWrite f := by
        rcases hedit with rfl | rfl
        · exact edit_answers d Registry.add _ req s₁
        · exact edit_answers d Registry.remove _ req s₁
      exact ⟨f, s', hf, fun early ↦ by rw [hrun, hstart]; exact h _⟩
    by_cases hstarts : ∃ c, i = .run c
    · obtain ⟨c, rfl⟩ := hstarts
      obtain ⟨f, s', h, hf, -⟩ := run_writes d c req s₁
      refine ⟨f, s', hf, fun early ↦ ?_⟩
      rw [hrun, show startReply req early = (({ early := early } : Reply).ack req.name).flush by
        simp only [startReply, hi]]
      exact h _
    · have hnot : ∀ c, i ≠ .run c := fun c h ↦ hstarts ⟨c, h⟩
      obtain ⟨f, s', h, hf, -⟩ := handler_writes d req s₁ (not_or.1 hedit) hnot
      exact ⟨f, s', hf, fun early ↦ by rw [hrun, startReply_of_not_run hi hnot]; exact h _⟩

theorem startReply_plain (req : Request) :
    (startReply req false).flushed = [] ∧ (startReply req false).close = false := by
  unfold startReply
  split <;> simp [Reply.flush, Reply.ack, Reply.line]

/-- The receipt is never empty, so a connection that takes early parts gets it as one. -/
theorem receipt_size_pos (name : ByteArray) :
    0 < (ByteArray.empty ++ Reply.receiptLine name ++ "\n".toUTF8).size := by
  have hnl : ("\n".toUTF8).size = 1 := by decide
  rw [ByteArray.size_append, hnl]
  omega

theorem sent_startReply (req : Request) :
    (startReply req true).sent = (startReply req false).text := by
  unfold startReply
  split
  · simp only [Reply.flush, Reply.ack, Reply.line, receipt_size_pos, and_self, if_true]
    apply Text.data_toList_injective
    simp [Reply.sent_data]
  · rfl

theorem flushed_startReply (req : Request) :
    (startReply req true).flushed = (match Instruction.ofName? req.name with
      | some (.run _) => [Reply.receiptLine req.name ++ "\n".toUTF8]
      | _ => []) ∧ (startReply req true).close = false := by
  unfold startReply
  split
  · simp only [Reply.flush, Reply.ack, Reply.line, receipt_size_pos, and_self, if_true]
    simp [ByteArray.empty_append]
  · simp

/-- **Early parts change nothing that is sent.** Answering a request with early parts and
without them sends the same text: the early parts, in order, followed by the rest of the reply,
are the reply of the plain answer, which has no early part. Both ask for the connection to be
closed alike, and both leave the engine in the same state, whatever the engine does. The early
part is the request's receipt, handed over once, for exactly the requests that start the
program: it is fixed by the request before the engine is asked anything, and nothing the
engine answers reaches it. -/
theorem early_parts_change_nothing_sent (d : Dispatcher) (req : Request) (s : σ) :
    let early := (d.dispatch req true).run s
    let plain := (d.dispatch req false).run s
    early.1.sent = plain.1.text ∧ plain.1.flushed = [] ∧ early.1.close = plain.1.close ∧
      early.2 = plain.2 ∧
      early.1.flushed = (match Instruction.ofName? req.name with
        | some (.run _) => [Reply.receiptLine req.name ++ "\n".toUTF8]
        | _ => []) := by
  obtain ⟨f, s', ⟨t, c, hf⟩, h⟩ := dispatch_answers d req s
  obtain ⟨hplain, hclose⟩ := startReply_plain req
  obtain ⟨hflushed, hclose'⟩ := flushed_startReply req
  dsimp only
  rw [h true, h false, hf, hf]
  refine ⟨?_, hplain, ?_, rfl, hflushed⟩
  · rw [Reply.sent_write, sent_startReply]
    rfl
  · simp [Reply.write, hclose, hclose']

end Dispatcher

end LuaDebugger
