import LuaDebugger.Script.Scope
import LuaDebugger.Proofs.Instrumentation
import LuaDebugger.Proofs.EngineSteps
/-!
# The call stack a paused program shows

The call stack a client lists is read on the main coroutine. `scopeFrames` walks the levels
of its stack from the innermost out, keeps the frames of loaded programs and stops at the
main chunk; the listing is the global frame, then those frames outermost first
(`scopeFrames_eq`). A frame lists the statements of its function and points at the first of
them at or after its current line, or at the last when all lie before it
(`frameView_currentStatement?`).

The statement lists come from the instrumenter, which keeps each function's lines ascending
(`scopesAscend_of_instrument`, kept by loading: `load_scopesAscend`). On an ascending list the
first statement at or after a line is the one with the least line at or after it
(`pointsAt_of_ascending`). `scope_listing_shows_main_coroutine` puts these together: for every
engine whose programs came from the instrumenter, each listed frame points at the statement of
its function with the least line at or after the frame's current line, or at its last
statement, and at the current line itself when that line is a statement of the function.

Only the main coroutine is read. A program paused inside a coroutine lists the frames of the
main coroutine that resumed it, not the coroutine's own. And a level that falls among the tail
calls a frame made reads as the bottom frame, the main chunk, so the walk ends there and skips
the frames between.
-/

namespace LuaDebugger

/-! ### Ascending statement lists -/

/-- Inserting lines one by one into an ascending list keeps it ascending. -/
theorem pairwise_foldl_insertSorted {β : Type} (f : β → Nat) (xs : List β) {acc : List Nat}
    (h : acc.Pairwise (· < ·)) :
    (xs.foldl (fun acc x ↦ insertSorted (f x) acc) acc).Pairwise (· < ·) := by
  induction xs generalizing acc with
  | nil => exact h
  | cons x xs ih => exact ih (pairwise_insertSorted h)

namespace Program

variable {p : Program}

/-- The statement lines of each function of a program ascend, each once. -/
def ScopesAscend (p : Program) : Prop :=
  ∀ k ls, (k, ls) ∈ p.scopes → ls.Pairwise (· < ·)

/-- **The instrumenter lists each function's statements in ascending order.** -/
theorem scopesAscend_of_instrument {cwd : String} {index : Nat} {path : String}
    {src : ByteArray} (h : Program.instrument cwd index path src = .ok p) : p.ScopesAscend := by
  unfold Program.instrument at h
  cases hc : Lua.parseChunk src with
  | error f =>
    rw [hc] at h
    cases h
  | ok chunk =>
    rw [hc] at h
    dsimp only [bind, Except.bind, pure, Except.pure] at h
    obtain rfl := Except.ok.inj h
    intro k ls hk
    -- each function's lines are inserted one by one into an empty list
    obtain ⟨k', -, hk'⟩ := List.mem_map.1 hk
    cases hk'
    exact pairwise_foldl_insertSorted (fun x : ScopeKey × Nat ↦ x.2) _ List.Pairwise.nil

/-- The statements of a function lie in the program's file. -/
theorem file_of_mem_statementsIn {first last : Nat} {s : Statement}
    (hs : s ∈ p.statementsIn first last) : s.file = p.id := by
  unfold statementsIn at hs
  dsimp only at hs
  split at hs
  · obtain ⟨l, -, rfl⟩ := List.mem_map.1 hs
    rfl
  · cases hs

/-- On a program whose functions' lines ascend, a function's statements ascend by line. -/
theorem statementsIn_ascending (hp : p.ScopesAscend) (first last : Nat) :
    (p.statementsIn first last).Pairwise (·.line < ·.line) := by
  unfold statementsIn
  dsimp only
  split
  · rename_i k ls hfind
    refine List.pairwise_map.2 ((hp k ls (List.mem_of_find?_eq_some hfind)).imp ?_)
    intro a b hab
    exact Int.ofNat_lt.2 hab
  · exact List.Pairwise.nil

end Program

/-! ### The current statement of a frame -/

namespace Frame

/-- The statement a frame at `line` points at among `stmts`: the statement with the least line
at or after `line`, or, when every statement lies before `line`, the last. -/
def PointsAt (stmts : List Statement) (line : Int) (s : Statement) : Prop :=
  s ∈ stmts ∧ ((line ≤ s.line ∧ ∀ t ∈ stmts, line ≤ t.line → s.line ≤ t.line) ∨
    ((∀ t ∈ stmts, t.line < line) ∧ stmts.getLast? = some s))

/-- A frame pointing at the first statement that passes a test, or past the end when none
does, has that statement as its current one, or else its last statement. -/
theorem currentStatement?_of_findIdx? (stmts : List Statement) (P : Statement → Bool)
    (sig : String) :
    ({ statements := stmts.toArray, current := ((stmts.findIdx? P).getD stmts.length : Nat),
        signature := sig } : Frame).currentStatement? = (stmts.find? P).or stmts.getLast? := by
  unfold currentStatement?
  cases h : stmts.findIdx? P with
  | some i =>
    obtain ⟨hi, hidx⟩ := List.findIdx?_eq_some_iff_findIdx_eq.1 h
    have hfind : stmts.find? P = stmts[i]? := by rw [List.find?_eq_getElem?_findIdx, hidx]
    have hne : stmts.length ≠ 0 := by omega
    have hin : ¬stmts.length ≤ i := by omega
    have hpos : ¬(i : Int) < 0 := by omega
    simp [hne, hin, hpos, hfind, List.getElem?_eq_getElem hi]
  | none =>
    -- no statement passes: the pointer is clamped to the last statement
    have hfind : stmts.find? P = none := by
      rw [List.find?_eq_getElem?_findIdx, List.findIdx?_eq_none_iff_findIdx_eq.1 h]
      simp
    simp only [hfind, Option.none_or, List.getLast?_eq_getElem?, List.size_toArray,
      Option.getD_none, ge_iff_le, Int.le_refl, ite_true, List.getElem?_toArray]
    split
    · rename_i hnil
      simp [List.length_eq_zero_iff.1 hnil]
    · rfl

/-- **The first statement at or after a line is the least one.** On statements ascending by
line, the first at or after `line` has the least line at or after it; when there is none,
every statement lies before `line`, and the last is taken. -/
theorem pointsAt_of_ascending {stmts : List Statement} (h : stmts.Pairwise (·.line < ·.line))
    {line : Int} {s : Statement}
    (hs : (stmts.find? (·.line ≥ line)).or stmts.getLast? = some s) : PointsAt stmts line s := by
  cases hf : stmts.find? (·.line ≥ line) with
  | some s' =>
    rw [hf, Option.some_or] at hs
    cases hs
    obtain ⟨hge, as, bs, rfl, has⟩ := List.find?_eq_some_iff_append.1 hf
    refine ⟨List.mem_append_right _ List.mem_cons_self,
      .inl ⟨by simpa using hge, fun t ht hlt ↦ ?_⟩⟩
    rcases List.mem_append.1 ht with ht | ht
    · -- the statements before the first at or after `line` lie before it
      have := has t ht
      simp only [ge_iff_le, Bool.not_eq_true', decide_eq_false_iff_not, Int.not_le] at this
      omega
    · rcases List.mem_cons.1 ht with rfl | ht
      · exact Int.le_refl _
      · exact Int.le_of_lt (List.rel_of_pairwise_cons (List.pairwise_append.1 h).2.1 ht)
  | none =>
    rw [hf, Option.none_or] at hs
    refine ⟨List.mem_of_getLast? hs, .inr ⟨fun t ht ↦ ?_, hs⟩⟩
    have := List.find?_eq_none.1 hf t ht
    simpa using this

/-- A frame points at nothing exactly when its function has no statements. -/
theorem find?_or_getLast?_eq_none_iff (stmts : List Statement) (P : Statement → Bool) :
    (stmts.find? P).or stmts.getLast? = none ↔ stmts = [] := by
  rw [Option.or_eq_none_iff, List.getLast?_eq_none_iff]
  constructor
  · exact fun h ↦ h.2
  · intro h
    simp [h]

/-- A statement pointed at lies at a line of the list that the frame's line reaches. -/
theorem PointsAt.line_eq {stmts : List Statement} {line : Int} {s t : Statement}
    (h : PointsAt stmts line s) (ht : t ∈ stmts) (hl : t.line = line) : s.line = line := by
  rcases h.2 with ⟨hge, hleast⟩ | ⟨hbefore, -⟩
  · have := hleast t ht (Int.le_of_eq hl.symm)
    omega
  · have := hbefore t ht
    omega

end Frame

/-! ### The listing -/

namespace Script

open Lua (LuaFrame)

namespace Engine

variable {e : Engine}

/-- Loading keeps the programs' statement lists ascending: a new program comes from the
instrumenter. -/
theorem load_scopesAscend (h : ∀ p ∈ e.programs, p.ScopesAscend) (path : String) :
    ∀ p ∈ (e.load path).1.programs, p.ScopesAscend := by
  unfold load
  dsimp only
  split
  · exact h
  · split
    · exact h
    · split
      · exact h
      · rename_i p hp
        intro q hq
        rcases Array.mem_push.1 hq with hq | rfl
        · exact h q hq
        · exact Program.scopesAscend_of_instrument hp

/-- A frame of a loaded program runs one of the engine's programs. -/
theorem mem_programs_of_programFrame? {pos : Nat} {p : Program} {f : LuaFrame}
    (h : e.programFrame? pos = some (p, f)) : p ∈ e.programs := by
  unfold programFrame? at h
  split at h
  · obtain ⟨q, hq, hqf⟩ := Option.map_eq_some_iff.1 h
    cases hqf
    exact Array.mem_of_find?_eq_some hq
  · cases h

/-- The frames of loaded programs at the given positions of the main coroutine, in order,
with their positions. -/
def programFramesAt (e : Engine) (ps : List Nat) : List (Nat × Program × LuaFrame) :=
  ps.filterMap fun pos ↦ (e.programFrame? pos).map fun pf ↦ (pos, pf)

/-- The views of program frames, up to and including the first at the main chunk. -/
def viewsToMain (e : Engine) (fs : List (Nat × Program × LuaFrame)) :
    List LuaDebugger.Frame :=
  (fs.take (fs.findIdx (·.1 = 0) + 1)).map fun x ↦ e.frameView x.2.1 x.1 x.2.2

/-- The statements of the function a frame at position `pos` runs, the main chunk's at `0`. -/
def frameStatements (p : Program) (pos : Nat) (f : LuaFrame) : List Statement :=
  p.statementsIn (if pos = 0 then 0 else f.closure.proto.lineDefined)
    f.closure.proto.lastLineDefined

theorem viewsToMain_cons (x : Nat × Program × LuaFrame) (xs : List (Nat × Program × LuaFrame)) :
    e.viewsToMain (x :: xs) =
      e.frameView x.2.1 x.1 x.2.2 :: if x.1 = 0 then [] else e.viewsToMain xs := by
  unfold viewsToMain
  rw [List.findIdx_cons]
  by_cases h : x.1 = 0 <;> simp [h]

/-- The walk puts the view of each program frame in front of what it has, innermost first,
and stops after the main chunk. -/
theorem scopeFrames_walk (ps : List Nat) (acc : List LuaDebugger.Frame) :
    scopeFrames.walk e ps acc = (e.viewsToMain (e.programFramesAt ps)).reverse ++ acc := by
  induction ps generalizing acc with
  | nil => rfl
  | cons pos rest ih =>
    unfold scopeFrames.walk
    cases hp : e.programFrame? pos with
    | none =>
      have hskip : e.programFramesAt (pos :: rest) = e.programFramesAt rest := by
        simp [programFramesAt, hp]
      rw [hskip, ih]
    | some pf =>
      obtain ⟨p, f⟩ := pf
      have hcons : e.programFramesAt (pos :: rest) = (pos, p, f) :: e.programFramesAt rest := by
        simp [programFramesAt, hp]
      rw [hcons, viewsToMain_cons]
      by_cases h0 : pos = 0
      · simp [h0]
      · simp [h0, ih]

/-- **The listing.** The global frame, then the views of the program frames at the levels of
the main coroutine, outermost first, from the main chunk in. -/
theorem scopeFrames_eq (e : Engine) :
    e.scopeFrames = { signature := "<global>" } ::
      (e.viewsToMain (e.programFramesAt e.levelPositions)).reverse := by
  rw [scopeFrames, scopeFrames_walk, List.append_nil]

theorem frameView_statements (e : Engine) (p : Program) (pos : Nat) (f : LuaFrame) :
    (e.frameView p pos f).statements.toList = frameStatements p pos f := by
  simp [frameView, frameStatements]

/-- A frame points at the first statement of its function at or after its current line, or at
the last. -/
theorem frameView_currentStatement? (e : Engine) (p : Program) (pos : Nat) (f : LuaFrame) :
    (e.frameView p pos f).currentStatement? =
      ((frameStatements p pos f).find? (·.line ≥ (Lua.Frame.lua f).currentLine)).or
        (frameStatements p pos f).getLast? :=
  Frame.currentStatement?_of_findIdx? _ _ _

theorem frameView_currentStatement?_eq_none_iff (e : Engine) (p : Program) (pos : Nat)
    (f : LuaFrame) :
    (e.frameView p pos f).currentStatement? = none ↔ frameStatements p pos f = [] := by
  rw [frameView_currentStatement?, Frame.find?_or_getLast?_eq_none_iff]

section Ascending

variable {e : Engine} {p : Program} {pos : Nat} {f : LuaFrame}
  (hasc : (frameStatements p pos f).Pairwise (·.line < ·.line))
include hasc

/-- On ascending statements, a frame points at the statement with the least line at or after
its current line, or at its last statement. -/
theorem frameView_pointsAt {s : Statement} (hs : (e.frameView p pos f).currentStatement? = some s) :
    Frame.PointsAt (frameStatements p pos f) (Lua.Frame.lua f).currentLine s := by
  rw [frameView_currentStatement?] at hs
  exact Frame.pointsAt_of_ascending hasc hs

/-- A frame whose current line is a statement of its function points at that statement. -/
theorem frameView_at_statement_line
    (hmem : ⟨p.id, (Lua.Frame.lua f).currentLine⟩ ∈ frameStatements p pos f) :
    (e.frameView p pos f).currentStatement? = some ⟨p.id, (Lua.Frame.lua f).currentLine⟩ := by
  -- the frame has statements, so it points at one, and that one is at the current line
  cases hcur : (e.frameView p pos f).currentStatement? with
  | none =>
    rw [frameView_currentStatement?_eq_none_iff] at hcur
    rw [hcur] at hmem
    cases hmem
  | some s =>
    have hs := frameView_pointsAt hasc hcur
    have hline := hs.line_eq hmem rfl
    have hfile := Program.file_of_mem_statementsIn hs.1
    cases s
    simp_all

end Ascending

/-- **Where the listed frames point.** For every engine whose programs came from the
instrumenter, the call stack lists the global frame and then the frames of loaded programs at
the levels of the main coroutine, outermost first, up to the main chunk. A frame shows its
function's statements. It has a current statement exactly when it has statements, and that is
the statement with the least line at or after the frame's current line, or the last one when
all lie before it; when the current line is itself a statement of the function, the frame
points at it. -/
theorem scope_listing_shows_main_coroutine (e : Engine)
    (hprogs : ∀ p ∈ e.programs, p.ScopesAscend) :
    e.scopeFrames = { signature := "<global>" } ::
        (e.viewsToMain (e.programFramesAt e.levelPositions)).reverse ∧
      ∀ pos p f, e.programFrame? pos = some (p, f) →
        (e.frameView p pos f).statements.toList = frameStatements p pos f ∧
        ((e.frameView p pos f).currentStatement? = none ↔ frameStatements p pos f = []) ∧
        (∀ s, (e.frameView p pos f).currentStatement? = some s →
          Frame.PointsAt (frameStatements p pos f) (Lua.Frame.lua f).currentLine s) ∧
        (⟨p.id, (Lua.Frame.lua f).currentLine⟩ ∈ frameStatements p pos f →
          (e.frameView p pos f).currentStatement? =
            some ⟨p.id, (Lua.Frame.lua f).currentLine⟩) := by
  refine ⟨scopeFrames_eq e, fun pos p f hpf ↦ ?_⟩
  -- the frame runs a program of the engine, so its function's statements ascend
  have hasc : (frameStatements p pos f).Pairwise (·.line < ·.line) :=
    Program.statementsIn_ascending (hprogs p (mem_programs_of_programFrame? hpf)) _ _
  exact ⟨frameView_statements e p pos f, frameView_currentStatement?_eq_none_iff e p pos f,
    fun _ ↦ frameView_pointsAt hasc, frameView_at_statement_line hasc⟩

/-- The paused program's stack: the step hook above the main chunk, whose statements are
lines 1 to 3, paused on line 3. -/
theorem printProgram_frames :
    pausedAtPrint.levelPositions = [1, 0] ∧
      (frameStatements printProgram 0 printMainFrame).map (·.line) = [1, 2, 3] ∧
      (Lua.Frame.lua printMainFrame).currentLine = 3 ∧ printProgram.path = "/main.lua" := by
  decide +kernel

theorem programFrame?_pausedAtPrint :
    pausedAtPrint.programFrame? 0 = some (printProgram, printMainFrame) ∧
      pausedAtPrint.programFrame? 1 = none := by
  refine ⟨?_, rfl⟩
  have hs : printMainFrame.closure.proto.source = "/main.lua" := printProgram_loads.2.2
  simp only [programFrame?]
  show (pausedAtPrint.programAtPath? printMainFrame.closure.proto.source).map _ = _
  rw [hs]
  simp [programAtPath?, pausedAtPrint, printProgram_frames.2.2.2]

/-- Paused on the last line of its main chunk, the program lists the global frame and the main
chunk, which points at the statement of line 3. -/
theorem listing_of_paused_print_program :
    (∀ p ∈ pausedAtPrint.programs, p.ScopesAscend) ∧
      pausedAtPrint.scopeFrames =
        [{ signature := "<global>" }, pausedAtPrint.frameView printProgram 0 printMainFrame] ∧
      (pausedAtPrint.frameView printProgram 0 printMainFrame).currentStatement? =
        some ⟨printProgram.id, 3⟩ := by
  have hprogs : ∀ p ∈ pausedAtPrint.programs, p.ScopesAscend := by
    intro p hp
    obtain rfl : p = printProgram := by simpa [pausedAtPrint] using hp
    exact Program.scopesAscend_of_instrument instrument_printProgramSource
  have hlist := scope_listing_shows_main_coroutine pausedAtPrint hprogs
  obtain ⟨hlevels, hlines, hline, -⟩ := printProgram_frames
  obtain ⟨h0, h1⟩ := programFrame?_pausedAtPrint
  -- line 3 is a statement of the main chunk, so the frame points at it exactly
  have hmem : (⟨printProgram.id, 3⟩ : Statement) ∈ frameStatements printProgram 0 printMainFrame := by
    obtain ⟨s, hs, hs3⟩ := List.mem_map.1 (hlines ▸ (by simp : (3 : Int) ∈ [1, 2, 3]))
    have hfile := Program.file_of_mem_statementsIn hs
    cases s
    simp_all
  refine ⟨hprogs, ?_, ?_⟩
  · rw [hlist.1, hlevels]
    simp [programFramesAt, h0, h1, viewsToMain_cons]
  · have hcur := (hlist.2 0 printProgram printMainFrame h0).2.2.2
    rw [hline] at hcur
    exact hcur (hline ▸ hmem)

end Engine

end Script

end LuaDebugger
