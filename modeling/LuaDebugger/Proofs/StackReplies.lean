import LuaDebugger.Proofs.RequestHandling
/-!
# Stack listings are whole or a single error

The listing of the call stack shows the frames a client sees, innermost first, one line per
frame that has a current statement: the statement's source line, trimmed, then where it is,
as `<path>::<function>::<line>`. Two things can stop it: the engine may fail to give the
stack, and a frame's statement may name a file that is not open, or a line the file does
not have. The lines are gathered before any is written, so a reply never shows part of a
stack.

* `Frame.Listed` and `Frame.Unlisted` say declaratively what a frame contributes: no line, a
  line, or a failure with its message. Every frame does one or the other
  (`frameLine_spec`), never both (`Frame.Listed.not_unlisted`).
* `Dispatcher.frameLines_spec`: gathering the lines of frames gives the line of each, or the
  failure of the first frame that has one (`Dispatcher.Listing`), by induction on the frames
  with `frameLine_spec` as the step.
* `Dispatcher.stack_listing_is_whole_or_one_error`: the reply to `pilha-execucao` is its
  receipt and either one error frame, when the stack cannot be had or a visible frame cannot
  be listed, or the whole listing block, when every visible frame can be.
-/

namespace LuaDebugger

namespace OpenFile

/-- A file has the lines from one to its line count. -/
theorem line?_eq_none_iff (of : OpenFile) (n : Int) :
    of.line? n = none ↔ n < 1 ∨ of.lineCount < n := by
  unfold line? lineCount
  split
  · simp only [true_iff]
    omega
  · rw [Array.getElem?_eq_none_iff]
    omega

end OpenFile

namespace Frame

variable (files : FileId → Option OpenFile)

/-- What a frame contributes to a listing when it can be listed: no line when it has no
statement, else the source line of its current statement, trimmed, followed by
` --- <path>::<function>::<line>`. -/
inductive Listed (f : Frame) : Option ByteArray → Prop
  | blank (none_current : f.currentStatement? = none) : Listed f none
  | line {st : Statement} {of : OpenFile} {src : ByteArray}
      (current : f.currentStatement? = some st) (opened : files st.file = some of)
      (source : of.line? st.line = some src) :
      Listed f (some (Text.trimSpaceBytes src ++
        (s!" --- {of.path}::{f.signature}::{st.line}").toUTF8))

/-- Why a frame cannot be listed, with the message of the failure: the file of its current
statement is not open, or does not have the statement's line. -/
inductive Unlisted (f : Frame) : ByteArray → Prop
  | fileNotOpen {st : Statement} (current : f.currentStatement? = some st)
      (closed : files st.file = none) :
      Unlisted f (s!"file not open: {st.file.hex}").toUTF8
  | lineOutOfRange {st : Statement} {of : OpenFile} (current : f.currentStatement? = some st)
      (opened : files st.file = some of) (outside : st.line < 1 ∨ of.lineCount < st.line) :
      Unlisted f (s!"line out of range: {of.path}:{st.line}").toUTF8

variable {files}

/-- A frame that can be listed has no failure. -/
theorem Listed.not_unlisted {f : Frame} {l : Option ByteArray} {e : ByteArray}
    (listed : f.Listed files l) : ¬ f.Unlisted files e := by
  intro unlisted
  cases listed with
  | blank none_current =>
    cases unlisted with
    | fileNotOpen current => simp [none_current] at current
    | lineOutOfRange current => simp [none_current] at current
  | line current opened source =>
    cases unlisted with
    | fileNotOpen current' closed =>
      rw [current] at current'
      cases current'
      simp [opened] at closed
    | lineOutOfRange current' opened' outside =>
      rw [current] at current'
      cases current'
      rw [opened] at opened'
      cases opened'
      exact absurd ((OpenFile.line?_eq_none_iff _ _).2 outside) (by simp [source])

end Frame

namespace Dispatcher

variable {σ : Type} [DebugEngine σ]

/-- **One frame.** The line of a frame is what it contributes when it can be listed, and its
failure is why it cannot. -/
theorem frameLine_spec (files : FileId → Option OpenFile) (f : Frame) :
    match frameLine files f with
    | .ok l => f.Listed files l
    | .error e => f.Unlisted files e := by
  unfold frameLine
  rcases current : f.currentStatement? with _ | st
  · exact Frame.Listed.blank current
  · dsimp only
    rcases opened : files st.file with _ | of
    · exact Frame.Unlisted.fileNotOpen current opened
    · dsimp only
      rcases source : of.line? st.line with _ | src
      · exact Frame.Unlisted.lineOutOfRange current opened
          ((OpenFile.line?_eq_none_iff _ _).1 source)
      · exact Frame.Listed.line current opened source

/-- What gathering the lines of frames gives: when every frame can be listed, the lines of
those that have a statement, in order; else the failure of the first frame that cannot be,
all frames before it listable. -/
def Listing (files : FileId → Option OpenFile) (fs : List Frame) :
    Except ByteArray (List ByteArray) → Prop
  | .ok ls => ∃ ols, List.Forall₂ (Frame.Listed files) fs ols ∧ ls = ols.filterMap id
  | .error e => ∃ pre f post, fs = pre ++ f :: post ∧
      (∀ g ∈ pre, ∃ l, g.Listed files l) ∧ f.Unlisted files e

/-- **All the frames.** Gathering the lines of frames stops at the first frame that cannot be
listed. -/
theorem frameLines_spec (files : FileId → Option OpenFile) :
    ∀ fs : List Frame, Listing files fs (frameLines files fs)
  | [] => ⟨[], .nil, rfl⟩
  | f :: rest => by
    have step := frameLine_spec files f
    have later := frameLines_spec files rest
    simp only [frameLines]
    rcases hf : frameLine files f with e | l
    · -- the frame itself fails, with nothing before it
      rw [hf] at step
      exact ⟨[], f, rest, rfl, by simp, step⟩
    · rw [hf] at step
      rcases hr : frameLines files rest with e | ls
      · -- a later frame fails: this one joins the listable frames before it
        rw [hr] at later
        obtain ⟨pre, g, post, rfl, listable, unlisted⟩ := later
        refine ⟨f :: pre, g, post, rfl, ?_, unlisted⟩
        intro g' hg'
        rcases List.mem_cons.1 hg' with rfl | hg'
        · exact ⟨l, step⟩
        · exact listable g' hg'
      · rw [hr] at later
        obtain ⟨ols, all, rfl⟩ := later
        refine ⟨l :: ols, .cons step all, ?_⟩
        cases l <;> rfl

/-- Frames whose lines are all gathered have no failure. -/
theorem not_unlisted_of_forall₂ {files : FileId → Option OpenFile} {fs : List Frame}
    {ols : List (Option ByteArray)} (all : List.Forall₂ (Frame.Listed files) fs ols) :
    ∀ f ∈ fs, ∀ e, ¬ f.Unlisted files e := by
  induction all with
  | nil => simp
  | cons listed _ ih =>
    intro f hf e
    rcases List.mem_cons.1 hf with rfl | hf
    · exact listed.not_unlisted
    · exact ih f hf e

/-- The reply to a stack listing, for what the engine answers when asked for the stack. -/
theorem stackTrace_reply (d : Dispatcher) (req : Request) (r : Reply) (s : σ) :
    ((d.stackTrace req r).run s).1 = match DebugEngine.scopeStack.run s with
      | (.error e, _) => (r.ack req.name).error e
      | (.ok frames, s') =>
        match frameLines (DebugEngine.openFile s') (visibleFrames frames) with
        | .error e => (r.ack req.name).error e
        | .ok ls => (ls.foldl Reply.line ((r.ack req.name).begin req.name)).end req.name := by
  simp only [stackTrace, fail, bind, StateT.bind, StateT.run]
  rcases DebugEngine.scopeStack s with ⟨_ | frames, s'⟩
  · rfl
  · rcases hl : frameLines (DebugEngine.openFile s') (visibleFrames frames) with e | ls
    all_goals
      simp [StateT.bind, get, getThe, MonadStateOf.get, StateT.get, hl]
      rfl

/-- The request that lists the stack is known by its name. -/
theorem ofName?_stackTrace : Instruction.ofName? "pilha-execucao".toUTF8 = some .stackTrace := by
  decide

/-- **A stack listing is whole or a single error.** The reply to `pilha-execucao`, whatever
its arguments and whatever the engine, is its receipt followed by one of two forms. When the
engine cannot give the stack, it is an error frame around the engine's message. When the
engine gives it and every visible frame can be listed, it is the listing block: the opening
line, a line for each visible frame that has a statement, innermost first, and the closing
line. When some visible frame cannot be listed, it is an error frame around the failure of
the first such frame, and not one line of the listing. The stack is asked for once the
request has been logged, and the open files are those of the engine after it answered. -/
theorem stack_listing_is_whole_or_one_error (d : Dispatcher) (args : List ByteArray)
    (early : Bool) (s : σ) :
    let req : Request := ⟨"pilha-execucao".toUTF8, args⟩
    let asked := DebugEngine.setJournal s ((DebugEngine.journal s).write d.logger .debug
      ("command ".toUTF8 ++ req.name ++ " ".toUTF8 ++ argsText req))
    let files := DebugEngine.openFile (DebugEngine.scopeStack.run asked).2
    let reply := ((d.dispatch req early).run s).1
    match (DebugEngine.scopeStack.run asked).1 with
    | .error e => reply.Framed [Reply.receiptLine req.name, Reply.errorOpening, e, Reply.errorClosing]
    | .ok frames =>
      ((∀ f ∈ visibleFrames frames, ∀ e, ¬ f.Unlisted files e) ∧
        ∃ ols, List.Forall₂ (Frame.Listed files) (visibleFrames frames) ols ∧
          reply.Framed (Reply.receiptLine req.name :: Reply.openingLine req.name ::
            ols.filterMap id ++ [Reply.closingLine req.name])) ∨
      ∃ pre f post e, visibleFrames frames = pre ++ f :: post ∧
        (∀ g ∈ pre, ∀ e', ¬ g.Unlisted files e') ∧ f.Unlisted files e ∧
        reply.Framed [Reply.receiptLine req.name, Reply.errorOpening, e, Reply.errorClosing] := by
  intro req asked files reply
  have known : Instruction.ofName? req.name = some .stackTrace := ofName?_stackTrace
  have answered : reply = ((d.stackTrace req { early := early }).run asked).1 := by
    simp only [reply, dispatch_of_ofName? known]
    rfl
  -- the receipt, then an error frame, as lines
  have error_frame : ∀ e, ((({ early := early } : Reply).ack req.name).error e).Framed
      [Reply.receiptLine req.name, Reply.errorOpening, e, Reply.errorClosing] := fun e ↦
    ((((Reply.framed_new early).line _).line _).line _).line _
  rw [answered, stackTrace_reply]
  simp only [files]
  rcases DebugEngine.scopeStack.run asked with ⟨e | frames, s'⟩
  · exact error_frame e
  · dsimp only
    have listing := frameLines_spec (DebugEngine.openFile s') (visibleFrames frames)
    rcases hl : frameLines (DebugEngine.openFile s') (visibleFrames frames) with e | ls
    · rw [hl] at listing
      obtain ⟨pre, f, post, split, listable, unlisted⟩ := listing
      refine .inr ⟨pre, f, post, e, split, fun g hg e' ↦ ?_, unlisted, error_frame e⟩
      obtain ⟨l, listed⟩ := listable g hg
      exact listed.not_unlisted
    · rw [hl] at listing
      obtain ⟨ols, all, rfl⟩ := listing
      refine .inl ⟨not_unlisted_of_forall₂ all, ols, all, ?_⟩
      have block := ((((Reply.framed_new early).line (Reply.receiptLine req.name)).line
        (Reply.openingLine req.name)).lines (ols.filterMap id)).line (Reply.closingLine req.name)
      simpa [Reply.ack, Reply.begin, Reply.«end»] using block

end Dispatcher

end LuaDebugger
