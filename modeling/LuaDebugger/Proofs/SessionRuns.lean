import LuaDebugger.Debug.Session
import Mathlib.Data.List.Basic
/-!
# Runs of the session state machine

Callers on any number of threads share one session. Each call reads the state, checks it and
writes the next one in a single critical section, and only the change callback runs outside
it, so whatever the interleaving, the session sees its calls one after another: a run is a
list of calls.

The rules of the state machine are stated here on their own, in the words of its
documentation: the moves it allows (`Moves`) and the fault each refusal carries (`Refuses`).
Everything else is proved over every list of calls:

* a call either takes a move or is refused with the fault the rules name, and a refused call
  leaves the session as it was (`call_moves_or_refuses`);
* the state after a run is where its last successful call landed (`state_applyAll`), so the
  program is parked at a breakpoint exactly when that call was a pause at a breakpoint;
* a launch succeeds at most once, and `terminated` is never left;
* after the launch, successful pauses and commands **alternate**, a pause first
  (`alternates_beats`). The invariant `Paced` carries it: the parity of the beats so far is
  fixed by the state, odd while stopped and even while executing;
* against one pause, commands with no pause or end among them are decided by the first: it
  succeeds and every other call is refused as busy (`successes_of_stopped`).
-/

namespace LuaDebugger

/-- A call on a session, as a client or the engine makes it. -/
inductive SessionCall where
  | launch (stopOnEntry : Bool)
  | begin (cmd : Command)
  | pause (atBreakpoint : Bool)
  | terminate
  deriving DecidableEq, Repr

namespace SessionCall

/-- Whether the call is a launch. -/
def isLaunch : SessionCall → Bool
  | .launch _ => true
  | _ => false

/-- Whether the call is a client command. -/
def isBegin : SessionCall → Bool
  | .begin _ => true
  | _ => false

/-- A successful pause or command as a beat of the run: `true` for a pause, `false` for a
command; launches and ends are no beats. -/
def beat : SessionCall → Option Bool
  | .pause _ => some true
  | .begin _ => some false
  | _ => none

/-- The state a successful call leaves the session in. -/
def landing : SessionCall → RunState
  | .launch stopOnEntry => if stopOnEntry then .steppingIn else .running
  | .begin cmd => cmd.target
  | .pause atBreakpoint => if atBreakpoint then .pausedAtBreakpoint else .paused
  | .terminate => .terminated

end SessionCall

/-- Whether a refusal is the busy one: a launch or a command while the program runs. -/
def SessionFault.isBusy : SessionFault → Bool
  | .launchBusy _ | .commandBusy .. => true
  | _ => false

/-! ### The rules -/

/-- The moves of the state machine: a launch from idle, running or stepping in; a command
from a stop to the state it asks for; a pause from execution, at a breakpoint or not; and an
end from anywhere. -/
inductive Moves : SessionCall → RunState → RunState → Prop
  | launch (stopOnEntry : Bool) :
      Moves (.launch stopOnEntry) .idle (if stopOnEntry then .steppingIn else .running)
  | begin (cmd : Command) {cur : RunState} (h : cur.stopped) : Moves (.begin cmd) cur cmd.target
  | pause (atBreakpoint : Bool) {cur : RunState} (h : cur.executing) :
      Moves (.pause atBreakpoint) cur (if atBreakpoint then .pausedAtBreakpoint else .paused)
  | terminate (cur : RunState) : Moves .terminate cur .terminated

/-- The refusals of the state machine: a launch when not idle is busy; a command is busy
while the program executes, not started while idle and refused after the end; a pause is an
invalid transition unless the program executes. -/
inductive Refuses : SessionCall → RunState → SessionFault → Prop
  | launch (stopOnEntry : Bool) {cur : RunState} (h : cur ≠ .idle) :
      Refuses (.launch stopOnEntry) cur (.launchBusy cur)
  | busy (cmd : Command) {cur : RunState} (h : cur.executing) :
      Refuses (.begin cmd) cur (.commandBusy cmd cur)
  | notStarted (cmd : Command) : Refuses (.begin cmd) .idle .notStarted
  | ended (cmd : Command) : Refuses (.begin cmd) .terminated .terminated
  | pause (atBreakpoint : Bool) {cur : RunState} (h : cur.executing = false) :
      Refuses (.pause atBreakpoint) cur (.invalidPause cur)

theorem Moves.state_eq {c : SessionCall} {cur next : RunState} (h : Moves c cur next) :
    next = c.landing := by
  cases h <;> rfl

theorem Moves.ne_idle {c : SessionCall} {cur next : RunState} (h : Moves c cur next) :
    next ≠ .idle := by
  cases h with
  | launch b => cases b <;> simp
  | begin cmd => cases cmd <;> simp [Command.target]
  | pause b => cases b <;> simp
  | terminate => simp

theorem Moves.idle_of_launch {b : Bool} {cur next : RunState} (h : Moves (.launch b) cur next) :
    cur = .idle := by
  cases h; rfl

/-- Nothing leaves `terminated` but another end. -/
theorem Moves.of_terminated {c : SessionCall} {next : RunState}
    (h : Moves c .terminated next) : next = .terminated := by
  cases h with
  | begin _ hs => simp [RunState.stopped] at hs
  | pause _ hx => simp [RunState.executing] at hx
  | terminate => rfl

/-- A launch or a command refused while the program executes is refused as busy. -/
theorem Refuses.isBusy {c : SessionCall} {st : RunState} {f : SessionFault}
    (hr : Refuses c st f) (hs : st.executing) (hc : c.isLaunch ∨ c.isBegin) : f.isBusy := by
  cases hr with
  | launch => rfl
  | busy => rfl
  | notStarted => simp [RunState.executing] at hs
  | ended => simp [RunState.executing] at hs
  | pause => simp [SessionCall.isLaunch, SessionCall.isBegin] at hc

theorem Command.target_executing (cmd : Command) : cmd.target.executing := by
  cases cmd <;> rfl

namespace Session

/-! ### Calls and runs -/

/-- Makes a call; an end is never refused. -/
def call (s : Session) : SessionCall → Except SessionFault Session
  | .launch stopOnEntry => s.launch stopOnEntry
  | .begin cmd => s.begin cmd
  | .pause atBreakpoint => s.pause atBreakpoint
  | .terminate => .ok s.terminate

/-- A call as the session serialises it: the session after it, a refused call leaving the
session as it was. -/
def apply (s : Session) (c : SessionCall) : Session :=
  match s.call c with
  | .ok s' => s'
  | .error _ => s

/-- The session after a run. -/
def applyAll (s : Session) (cs : List SessionCall) : Session :=
  cs.foldl apply s

/-- The calls of a run that succeeded, in order. -/
def successes : Session → List SessionCall → List SessionCall
  | _, [] => []
  | s, c :: cs =>
    match s.call c with
    | .ok s' => c :: successes s' cs
    | .error _ => successes s cs

/-- The faults of the refused calls of a run, in order. -/
def faults : Session → List SessionCall → List SessionFault
  | _, [] => []
  | s, c :: cs =>
    match s.call c with
    | .ok s' => faults s' cs
    | .error f => f :: faults s cs

/-- The successful pauses and commands of a run, in order: `true` for a pause. -/
def beats (s : Session) (cs : List SessionCall) : List Bool :=
  (s.successes cs).filterMap SessionCall.beat

@[simp] theorem moveTo_state (s : Session) (next : RunState) : (s.moveTo next).state = next := by
  unfold moveTo
  split <;> simp_all

@[simp] theorem applyAll_nil (s : Session) : s.applyAll [] = s := rfl

theorem applyAll_cons (s : Session) (c : SessionCall) (cs : List SessionCall) :
    s.applyAll (c :: cs) = (s.apply c).applyAll cs := rfl

theorem apply_of_ok {s s' : Session} {c : SessionCall} (h : s.call c = .ok s') :
    s.apply c = s' := by
  simp [apply, h]

theorem apply_of_error {s : Session} {c : SessionCall} {f : SessionFault}
    (h : s.call c = .error f) : s.apply c = s := by
  simp [apply, h]

theorem commandFault_eq_none {cmd : Command} {cur : RunState} :
    commandFault cmd cur = none ↔ cur.stopped := by
  cases cur <;> simp [commandFault, RunState.stopped, RunState.executing]

theorem refuses_of_commandFault {cmd : Command} {cur : RunState} {f : SessionFault}
    (h : commandFault cmd cur = some f) : Refuses (.begin cmd) cur f := by
  cases cur <;> simp [commandFault, RunState.stopped, RunState.executing] at h <;> subst h
  all_goals first
    | exact .notStarted cmd
    | exact .ended cmd
    | exact .busy cmd rfl

/-! ### One call -/

/-- **A successful call takes a move of the state machine.** -/
theorem moves_of_call_ok {s s' : Session} {c : SessionCall} (h : s.call c = .ok s') :
    Moves c s.state s'.state := by
  cases c with
  | launch b =>
    simp only [call, launch] at h
    split at h
    · cases h
      rename_i hidle
      rw [moveTo_state, hidle]
      exact .launch b
    · cases h
  | begin cmd =>
    simp only [call, begin] at h
    split at h
    · cases h
    · rename_i hf
      cases h
      rw [moveTo_state]
      exact .begin cmd (commandFault_eq_none.1 hf)
  | pause b =>
    simp only [call, pause] at h
    split at h
    · rename_i hx
      cases h
      rw [moveTo_state]
      exact .pause b hx
    · cases h
  | terminate =>
    cases h
    simpa [terminate] using Moves.terminate s.state

/-- **A refused call carries the fault the rules name for the state it was made in.** -/
theorem refuses_of_call_error {s : Session} {c : SessionCall} {f : SessionFault}
    (h : s.call c = .error f) : Refuses c s.state f := by
  cases c with
  | launch b =>
    simp only [call, launch] at h
    split at h
    · cases h
    · rename_i hidle
      cases h
      exact .launch b hidle
  | begin cmd =>
    simp only [call, begin] at h
    split at h
    · rename_i f' hf
      cases h
      exact refuses_of_commandFault hf
    · cases h
  | pause b =>
    simp only [call, pause] at h
    split at h
    · cases h
    · rename_i hx
      cases h
      exact .pause b (by simpa using hx)
  | terminate => cases h

/-- Every call either moves the state machine or is refused as the rules say. -/
theorem call_moves_or_refuses (s : Session) (c : SessionCall) :
    (∃ s', s.call c = .ok s' ∧ Moves c s.state s'.state) ∨
      ∃ f, s.call c = .error f ∧ Refuses c s.state f := by
  rcases hc : s.call c with f | s'
  · exact .inr ⟨f, rfl, refuses_of_call_error hc⟩
  · exact .inl ⟨s', rfl, moves_of_call_ok hc⟩

/-- The state after a call: where the call landed when it succeeded, else the same. -/
theorem state_apply (s : Session) (c : SessionCall) :
    (s.apply c).state = if (s.call c).isOk then c.landing else s.state := by
  rcases hc : s.call c with f | s'
  · simp [apply_of_error hc, Except.isOk, Except.toBool]
  · simp [apply_of_ok hc, Except.isOk, Except.toBool, (moves_of_call_ok hc).state_eq]

/-! ### Runs -/

theorem successes_cons_of_ok {s s' : Session} {c : SessionCall} (h : s.call c = .ok s')
    (cs : List SessionCall) : s.successes (c :: cs) = c :: s'.successes cs := by
  simp [successes, h]

theorem successes_cons_of_error {s : Session} {c : SessionCall} {f : SessionFault}
    (h : s.call c = .error f) (cs : List SessionCall) :
    s.successes (c :: cs) = s.successes cs := by
  simp [successes, h]

theorem faults_cons_of_ok {s s' : Session} {c : SessionCall} (h : s.call c = .ok s')
    (cs : List SessionCall) : s.faults (c :: cs) = s'.faults cs := by
  simp [faults, h]

theorem faults_cons_of_error {s : Session} {c : SessionCall} {f : SessionFault}
    (h : s.call c = .error f) (cs : List SessionCall) :
    s.faults (c :: cs) = f :: s.faults cs := by
  simp [faults, h]

theorem beats_cons_of_ok {s s' : Session} {c : SessionCall} (h : s.call c = .ok s')
    (cs : List SessionCall) : s.beats (c :: cs) = c.beat.toList ++ s'.beats cs := by
  rw [beats, successes_cons_of_ok h, List.filterMap_cons]
  cases c.beat <;> rfl

theorem beats_cons_of_error {s : Session} {c : SessionCall} {f : SessionFault}
    (h : s.call c = .error f) (cs : List SessionCall) : s.beats (c :: cs) = s.beats cs := by
  rw [beats, successes_cons_of_error h, beats]

/-- **The state after a run is where its last successful call landed**, or the state it
started in when every call was refused. -/
theorem state_applyAll (s : Session) (cs : List SessionCall) :
    (s.applyAll cs).state = ((s.successes cs).getLast?.map SessionCall.landing).getD s.state := by
  induction cs generalizing s with
  | nil => rfl
  | cons c cs ih =>
    rw [applyAll_cons, ih]
    rcases hc : s.call c with f | s'
    · rw [apply_of_error hc, successes_cons_of_error hc]
    · rw [apply_of_ok hc, successes_cons_of_ok hc, (moves_of_call_ok hc).state_eq,
        List.getLast?_cons]
      cases (s'.successes cs).getLast? <;> simp

/-- **A launch succeeds at most once**: only from idle, and no move goes back to idle. -/
theorem launches_le (s : Session) (cs : List SessionCall) :
    ((s.successes cs).filter SessionCall.isLaunch).length ≤
      if s.state = .idle then 1 else 0 := by
  induction cs generalizing s with
  | nil => simp [successes]
  | cons c cs ih =>
    rcases hc : s.call c with f | s'
    · rw [successes_cons_of_error hc]
      exact ih s
    · have hm := moves_of_call_ok hc
      have hrest := ih s'
      rw [if_neg hm.ne_idle] at hrest
      rw [successes_cons_of_ok hc]
      cases c with
      | launch b =>
        rw [if_pos hm.idle_of_launch, List.filter_cons_of_pos rfl, List.length_cons]
        omega
      | _ =>
        rw [List.filter_cons_of_neg (by simp [SessionCall.isLaunch])]
        split <;> omega

/-- **`terminated` is never left.** -/
theorem applyAll_terminated (s : Session) (cs : List SessionCall)
    (h : s.state = .terminated) : (s.applyAll cs).state = .terminated := by
  induction cs generalizing s with
  | nil => exact h
  | cons c cs ih =>
    rw [applyAll_cons]
    apply ih
    rcases hc : s.call c with f | s'
    · rwa [apply_of_error hc]
    · rw [apply_of_ok hc]
      have hm := moves_of_call_ok hc
      rw [h] at hm
      exact hm.of_terminated

/-! ### Pauses and commands alternate -/

/-- A list of beats alternates, a pause first: the beat at an even position is a pause. -/
def Alternates (l : List Bool) : Prop :=
  ∀ i (h : i < l.length), l[i] = decide (i % 2 = 0)

theorem Alternates.nil : Alternates [] := fun _ h ↦ absurd h (Nat.not_lt_zero _)

/-- A beat that keeps the alternation may be appended. -/
theorem Alternates.append {l : List Bool} (h : Alternates l) {b : Bool}
    (hb : b = decide (l.length % 2 = 0)) : Alternates (l ++ [b]) := by
  intro i hi
  rw [List.length_append, List.length_singleton] at hi
  rcases Nat.lt_or_ge i l.length with hlt | hge
  · rw [List.getElem_append_left hlt]
    exact h i hlt
  · have hi' : i = l.length := by omega
    subst hi'
    simpa using hb

/-- **The invariant behind alternation**: the beats so far alternate; there are none before
the launch, an even number while the program executes and an odd number while it is
stopped. -/
structure Paced (st : RunState) (l : List Bool) : Prop where
  alternates : Alternates l
  idle : st = .idle → l = []
  executing : st.executing → l.length % 2 = 0
  stopped : st.stopped → l.length % 2 = 1

theorem paced_init : Paced .idle [] :=
  ⟨Alternates.nil, fun _ ↦ rfl, fun _ ↦ rfl, fun h ↦ absurd h (by decide)⟩

/-- After the end the beats are bounded by nothing but their alternation. -/
theorem paced_terminated {l : List Bool} (h : Alternates l) : Paced .terminated l :=
  ⟨h, fun h ↦ absurd h (by decide), fun h ↦ absurd h (by decide), fun h ↦ absurd h (by decide)⟩

/-- **One move keeps the invariant**, with the move's beat appended: a pause comes from an
even count and a command from an odd one. -/
theorem Paced.step {st st' : RunState} {l : List Bool} {c : SessionCall} (h : Paced st l)
    (hm : Moves c st st') : Paced st' (l ++ c.beat.toList) := by
  cases hm with
  | launch b =>
    have hl := h.idle rfl
    subst hl
    refine ⟨Alternates.nil, ?_, fun _ ↦ rfl, ?_⟩ <;> cases b <;> decide
  | begin cmd hs =>
    have hodd := h.stopped hs
    have hx := cmd.target_executing
    refine ⟨h.alternates.append (by simp [hodd]), fun hi ↦ ?_, fun _ ↦ ?_, fun hp ↦ ?_⟩
    · rw [hi] at hx
      exact absurd hx (by decide)
    · simp [SessionCall.beat]
      omega
    · cases cmd <;> simp [Command.target, RunState.stopped] at hp
  | pause b hx =>
    have heven := h.executing hx
    refine ⟨h.alternates.append (by simp [heven]), ?_, ?_, fun _ ↦ ?_⟩
    · cases b <;> simp
    · cases b <;> simp [RunState.executing]
    · simp [SessionCall.beat]
      omega
  | terminate cur => exact paced_terminated (by simpa [SessionCall.beat] using h.alternates)

/-- **A run keeps the invariant**, with its beats appended. -/
theorem paced_applyAll (s : Session) (cs : List SessionCall) {l : List Bool}
    (h : Paced s.state l) : Paced (s.applyAll cs).state (l ++ s.beats cs) := by
  induction cs generalizing s l with
  | nil => simpa [beats, successes] using h
  | cons c cs ih =>
    rw [applyAll_cons]
    rcases hc : s.call c with f | s'
    · rw [apply_of_error hc, beats_cons_of_error hc]
      exact ih s h
    · rw [apply_of_ok hc, beats_cons_of_ok hc, ← List.append_assoc]
      exact ih s' (h.step (moves_of_call_ok hc))

/-- **After the launch, successful pauses and commands alternate, a pause first.** -/
theorem alternates_beats (cs : List SessionCall) : Alternates (({} : Session).beats cs) := by
  simpa using (paced_applyAll {} cs paced_init).alternates

/-! ### Commands against one pause -/

/-- Neither a launch nor a command moves an executing program. -/
theorem not_executing_of_moves {c : SessionCall} {st st' : RunState} (hm : Moves c st st')
    (hc : c.isLaunch ∨ c.isBegin) : st.executing = false := by
  cases hm with
  | launch => rfl
  | begin _ hs => revert hs; cases st <;> decide
  | pause => simp [SessionCall.isLaunch, SessionCall.isBegin] at hc
  | terminate => simp [SessionCall.isLaunch, SessionCall.isBegin] at hc

/-- While the program executes, launches and commands are refused as busy. -/
theorem busy_of_executing (s : Session) (hs : s.state.executing) (cs : List SessionCall)
    (hcs : ∀ c ∈ cs, c.isLaunch ∨ c.isBegin) :
    s.successes cs = [] ∧ ∀ f ∈ s.faults cs, f.isBusy := by
  induction cs with
  | nil => simp [successes, faults]
  | cons c cs ih =>
    have hrest := ih fun c' hc' ↦ hcs c' (List.mem_cons_of_mem c hc')
    rcases call_moves_or_refuses s c with ⟨s', hc, hm⟩ | ⟨f, hc, hr⟩
    · have hx := not_executing_of_moves hm (hcs c List.mem_cons_self)
      rw [hs] at hx
      exact absurd hx (by decide)
    · rw [successes_cons_of_error hc, faults_cons_of_error hc]
      refine ⟨hrest.1, fun f' hf' ↦ ?_⟩
      rcases List.mem_cons.1 hf' with rfl | hin
      · exact hr.isBusy hs (hcs c List.mem_cons_self)
      · exact hrest.2 f' hin

/-- **Commands against one pause**: from a stop, with no pause or end among the calls, the
first command succeeds, nothing else does, and every refused call is refused as busy. -/
theorem successes_of_stopped (s : Session) (cs : List SessionCall) (hs : s.state.stopped)
    (hcs : ∀ c ∈ cs, c.isLaunch ∨ c.isBegin) :
    s.successes cs = (cs.find? SessionCall.isBegin).toList ∧ ∀ f ∈ s.faults cs, f.isBusy := by
  induction cs with
  | nil => simp [successes, faults]
  | cons c cs ih =>
    have hrest := ih fun c' hc' ↦ hcs c' (List.mem_cons_of_mem c hc')
    cases c with
    | launch b =>
      -- a launch is refused as busy and changes nothing
      have hne : s.state ≠ .idle := by
        intro h
        rw [h] at hs
        exact absurd hs (by decide)
      have hc : s.call (.launch b) = .error (.launchBusy s.state) := by
        simp [call, launch, hne]
      rw [successes_cons_of_error hc, faults_cons_of_error hc]
      rw [List.find?_cons_of_neg (by simp [SessionCall.isBegin])]
      refine ⟨hrest.1, fun f hf ↦ ?_⟩
      rcases List.mem_cons.1 hf with rfl | hin
      · rfl
      · exact hrest.2 f hin
    | begin cmd =>
      -- the first command succeeds; the program then executes and all else is busy
      have hc : s.call (.begin cmd) = .ok (s.moveTo cmd.target) := by
        simp [call, begin, commandFault_eq_none.2 hs]
      have hbusy := busy_of_executing (s.moveTo cmd.target)
        (by simpa using cmd.target_executing) cs
        fun c' hc' ↦ hcs c' (List.mem_cons_of_mem _ hc')
      rw [successes_cons_of_ok hc, faults_cons_of_ok hc, hbusy.1]
      exact ⟨by rw [List.find?_cons_of_pos rfl]; rfl, hbusy.2⟩
    | pause b => simpa [SessionCall.isLaunch, SessionCall.isBegin] using hcs _ List.mem_cons_self
    | terminate => simpa [SessionCall.isLaunch, SessionCall.isBegin] using hcs _ List.mem_cons_self

/-! ### Parked at a breakpoint -/

/-- Only a pause at a breakpoint lands there. -/
theorem landing_eq_pausedAtBreakpoint {c : SessionCall} :
    c.landing = .pausedAtBreakpoint ↔ c = .pause true := by
  cases c with
  | launch b => cases b <;> simp [SessionCall.landing]
  | begin cmd => cases cmd <;> simp [SessionCall.landing, Command.target]
  | pause b => cases b <;> simp [SessionCall.landing]
  | terminate => simp [SessionCall.landing]

/-- **Over a run from a new session, the program is parked at a breakpoint exactly when the
last successful call was a pause at a breakpoint.** -/
theorem breakpointActive_applyAll (cs : List SessionCall) :
    (({} : Session).applyAll cs).breakpointActive = true ↔
      (({} : Session).successes cs).getLast? = some (.pause true) := by
  rw [breakpointActive, decide_eq_true_iff, state_applyAll]
  cases (({} : Session).successes cs).getLast? with
  | none => simp
  | some c => simpa using landing_eq_pausedAtBreakpoint

end Session

open Session in
/-- **The session serialises its calls.** Whatever the interleaving of launches, commands,
pauses and ends: every call moves the state machine or is refused with the fault its rules
name. Over every run from a new session a launch succeeds at most once, successful pauses
and commands alternate, a pause first, and the program is parked at a breakpoint exactly
when the last successful call was a pause at a breakpoint. `terminated` is never left. And
from a stop, commands with no pause or end among them are decided by the first: it alone
succeeds, and every other call is refused as busy. -/
theorem session_serialises_calls :
    (∀ (s : Session) (c : SessionCall),
      (∃ s', s.call c = .ok s' ∧ Moves c s.state s'.state) ∨
        ∃ f, s.call c = .error f ∧ Refuses c s.state f) ∧
    (∀ cs : List SessionCall,
      ((({} : Session).successes cs).filter SessionCall.isLaunch).length ≤ 1 ∧
        Alternates (({} : Session).beats cs) ∧
        ((({} : Session).applyAll cs).breakpointActive = true ↔
          (({} : Session).successes cs).getLast? = some (.pause true))) ∧
    (∀ (s : Session) (cs : List SessionCall),
      s.state = .terminated → (s.applyAll cs).state = .terminated) ∧
    (∀ (s : Session) (cs : List SessionCall), s.state.stopped →
      (∀ c ∈ cs, c.isLaunch ∨ c.isBegin) →
        s.successes cs = (cs.find? SessionCall.isBegin).toList ∧
          ∀ f ∈ s.faults cs, f.isBusy) :=
  ⟨call_moves_or_refuses,
    fun cs ↦ ⟨by simpa using launches_le {} cs, alternates_beats cs,
      breakpointActive_applyAll cs⟩,
    applyAll_terminated, successes_of_stopped⟩

/-- Two commands and a launch against one pause: the first command alone succeeds. -/
theorem first_command_wins :
    ({ state := .paused } : Session).state.stopped ∧
      (∀ c ∈ [SessionCall.begin .stepOver, .launch true, .begin .resume],
        c.isLaunch ∨ c.isBegin) ∧
      ({ state := .paused } : Session).successes
        [.begin .stepOver, .launch true, .begin .resume] = [.begin .stepOver] := by
  have h := (session_serialises_calls.2.2.2 { state := .paused }
    [.begin .stepOver, .launch true, .begin .resume] rfl (by decide)).1
  exact ⟨rfl, by decide, h.trans rfl⟩

end LuaDebugger
