import LuaDebugger.Proofs.EngineSteps
import Mathlib.Data.List.Nodup
/-!
# The hand-off between the program and its clients

The program and the clients of the engine hand control to each other over channels, each
closed at most once. A pause makes a fresh resume channel that the paused program waits on,
and closes the stopped channel that the launch or the last command waits on; a command that
passes its session check makes a fresh stopped channel to wait on, and closes the resume
channel so that the program goes on; the end of the program closes the stopped channel too.
The resume channel is closed without looking, the stopped channel only when it is open.

Whatever order the program, the clients and the closing of the engine take their steps in,
`Handoff` holds: no channel has been closed twice and none was nil; while the program is idle
or executing the stopped channel is open, and while it is stopped the stopped channel is
closed and the resume channel open. From it, `channel_handoff_is_sound` reads off what each
step closes and when a client that started the program is released.
-/

namespace LuaDebugger

namespace Script

namespace Channels

theorem closes_close (c : Channels) (ch : Option Nat) : (c.close ch).closes = c.closes ++ [ch] :=
  rfl

theorem closes_closeOpen (c : Channels) (ch : Nat) :
    (c.closeOpen ch).closes =
      if some ch ∈ c.closes then c.closes else c.closes ++ [some ch] := by
  unfold closeOpen isClosed
  by_cases h : some ch ∈ c.closes
  · simp [h]
  · simp [h, closes_close]

@[simp] theorem next_closeOpen (c : Channels) (ch : Nat) : (c.closeOpen ch).next = c.next := by
  unfold closeOpen
  split <;> rfl

theorem mem_closeOpen {c : Channels} {ch : Nat} {x : Option Nat} :
    x ∈ (c.closeOpen ch).closes ↔ x ∈ c.closes ∨ x = some ch := by
  rw [closes_closeOpen]
  split
  · rename_i h
    constructor
    · exact Or.inl
    · rintro (hx | rfl)
      · exact hx
      · exact h
  · simp

/-- Closing a channel only when it is open never closes it twice. -/
theorem nodup_closeOpen {c : Channels} (h : c.closes.Nodup) (ch : Nat) :
    (c.closeOpen ch).closes.Nodup := by
  rw [closes_closeOpen]
  split
  · exact h
  · rename_i hch
    rw [← List.concat_eq_append]
    exact h.concat hch

end Channels

namespace Engine

/-! ### The invariant -/

/-- **The channel hand-off is sound.** Every channel closed was made before and is closed once,
the nil channel never; the stopped channel is open while the program is idle or executing,
and while it is stopped the stopped channel is closed and the resume channel is one the last
pause made, still open. -/
structure Handoff (e : Engine) : Prop where
  /-- No channel has been closed twice. -/
  nodup : e.channels.closes.Nodup
  /-- The nil channel has never been closed. -/
  no_nil : none ∉ e.channels.closes
  closed_made : ∀ ch, some ch ∈ e.channels.closes → ch < e.channels.next
  stopped_made : e.stopped < e.channels.next
  resume_made : ∀ r, e.resumeChannel = some r → r < e.channels.next
  /-- Before the program stops, whoever waits for it waits on an open channel. -/
  waiting : e.session.state = .idle ∨ e.session.state.executing →
    some e.stopped ∉ e.channels.closes
  /-- A stopped program has released its waiter and waits on an open channel itself. -/
  parked : e.session.state.stopped →
    some e.stopped ∈ e.channels.closes ∧
      ∃ r, e.resumeChannel = some r ∧ some r ∉ e.channels.closes

/-- The channel numbered `next` is made by no step before, so it is not closed. -/
theorem Handoff.next_open {e : Engine} (h : e.Handoff) : some e.channels.next ∉ e.channels.closes :=
  fun hc ↦ Nat.lt_irrefl _ (h.closed_made _ hc)

theorem handoff_new (files : FileSystem) (cwd : String) (journal : Journal) (logger : Logger)
    (stopOnEntry system : Bool) : (new files cwd journal logger stopOnEntry system).Handoff where
  nodup := List.nodup_nil
  no_nil := List.not_mem_nil
  closed_made := fun _ h ↦ absurd h List.not_mem_nil
  stopped_made := Nat.zero_lt_one
  resume_made := fun _ h ↦ by cases h
  waiting := fun _ ↦ List.not_mem_nil
  parked := fun h ↦ by cases h

/-! ### What each step does to the channels -/

/-- A pause, taken only while the program executes, closes the stopped channel, which is open
then, makes one channel and installs it as the resume channel. -/
theorem Handoff.pause_eq {e e' : Engine} {depth : Nat} {atBreakpoint : Bool} (h : e.Handoff)
    (hp : e.pause depth atBreakpoint = .ok e') :
    e.session.state.executing ∧
      e'.session.state = (if atBreakpoint then .pausedAtBreakpoint else .paused) ∧
      e'.channels.closes = e.channels.closes ++ [some e.stopped] ∧
      e'.channels.next = e.channels.next + 1 ∧ e'.stopped = e.stopped ∧
      e'.resumeChannel = some e.channels.next ∧ e'.done = e.done := by
  obtain ⟨hx, j, rfl⟩ := pause_eq_ok hp
  have hopen := h.waiting (Or.inr hx)
  refine ⟨hx, by simp, ?_, Channels.next_closeOpen _ _, rfl, rfl, rfl⟩
  rw [Channels.closes_closeOpen, if_neg hopen]

/-- A command, taken only while the program is stopped, closes the resume channel, which is
open then, makes one channel and installs it as the stopped channel. -/
theorem Handoff.begin_eq {e e' : Engine} {cmd : Command} (h : e.Handoff)
    (hb : e.beginCommand cmd = .ok e') :
    e.session.state.stopped ∧ e'.session.state = cmd.target ∧
      ∃ r, e.resumeChannel = some r ∧ some r ∉ e.channels.closes ∧
        e'.channels.closes = e.channels.closes ++ [some r] ∧
        e'.channels.next = e.channels.next + 1 ∧ e'.stopped = e.channels.next ∧
        e'.resumeChannel = e.resumeChannel ∧ e'.done = e.done := by
  obtain ⟨hs, j, rfl⟩ := beginCommand_eq_ok hb
  obtain ⟨-, r, hr, hro⟩ := h.parked hs
  refine ⟨hs, by simp, r, hr, hro, ?_, rfl, rfl, rfl, rfl⟩
  rw [Channels.closes_close, hr]

/-- The first end closes the stopped channel if it is open; a later one does nothing. -/
theorem finish_eq {e : Engine} (hd : e.done = false) (fault : Option RunFault) :
    (e.finish fault).session.state = .terminated ∧ (e.finish fault).done = true ∧
      (e.finish fault).channels.closes = (e.channels.closeOpen e.stopped).closes ∧
      (e.finish fault).channels.next = e.channels.next ∧ (e.finish fault).stopped = e.stopped ∧
      (e.finish fault).resumeChannel = e.resumeChannel := by
  obtain ⟨j, hf⟩ := finish_of_not_done hd fault
  rw [hf]
  exact ⟨by simp [Session.terminate], rfl, rfl, Channels.next_closeOpen _ _, rfl, rfl⟩

/-! ### Each step keeps the hand-off sound -/

/-- A pause closes the stopped channel, which was open, and makes the fresh resume channel the
program waits on. -/
theorem Handoff.pause {e e' : Engine} {depth : Nat} {atBreakpoint : Bool} (h : e.Handoff)
    (hp : e.pause depth atBreakpoint = .ok e') : e'.Handoff := by
  obtain ⟨hx, hs, hc, hn, hst, hr, -⟩ := h.pause_eq hp
  have hlt := h.stopped_made
  have hnext := h.next_open
  refine ⟨?_, ?_, fun ch hch ↦ ?_, ?_, ?_, fun hw ↦ ?_, fun _ ↦ ?_⟩
  · rw [hc]
    rw [← List.concat_eq_append]
    exact h.nodup.concat (h.waiting (Or.inr hx))
  · rw [hc]
    simpa using h.no_nil
  · rw [hc, List.mem_append, List.mem_singleton, Option.some.injEq] at hch
    rw [hn]
    rcases hch with hch | rfl
    · exact Nat.lt_succ_of_lt (h.closed_made ch hch)
    · exact Nat.lt_succ_of_lt hlt
  · rw [hn, hst]
    exact Nat.lt_succ_of_lt hlt
  · rw [hr, hn]
    rintro r ⟨⟩
    exact Nat.lt_succ_self _
  · rw [hs] at hw
    cases atBreakpoint <;> simp [RunState.executing] at hw
  · rw [hc, hst, hr]
    refine ⟨List.mem_append_right _ (List.mem_singleton_self _), _, rfl, ?_⟩
    rw [List.mem_append, List.mem_singleton, Option.some.injEq]
    rintro (hc' | hc')
    · exact hnext hc'
    · exact Nat.lt_irrefl _ (hc' ▸ hlt)

/-- A command that passes its session check closes the resume channel the last pause made,
and makes the fresh stopped channel it waits on. -/
theorem Handoff.begin {e e' : Engine} {cmd : Command} (h : e.Handoff)
    (hb : e.beginCommand cmd = .ok e') : e'.Handoff := by
  obtain ⟨-, hs, r, hr, hro, hc, hn, hst, hr', -⟩ := h.begin_eq hb
  have hrl := h.resume_made r hr
  have hnext := h.next_open
  refine ⟨?_, ?_, fun ch hch ↦ ?_, ?_, fun r' h' ↦ ?_, fun _ ↦ ?_, fun hs' ↦ ?_⟩
  · rw [hc]
    rw [← List.concat_eq_append]
    exact h.nodup.concat hro
  · rw [hc]
    simpa using h.no_nil
  · rw [hc, List.mem_append, List.mem_singleton, Option.some.injEq] at hch
    rw [hn]
    rcases hch with hch | rfl
    · exact Nat.lt_succ_of_lt (h.closed_made ch hch)
    · exact Nat.lt_succ_of_lt hrl
  · rw [hn, hst]
    exact Nat.lt_succ_self _
  · rw [hr'] at h'
    rw [hn]
    exact Nat.lt_succ_of_lt (h.resume_made r' h')
  · rw [hc, hst, List.mem_append, List.mem_singleton, Option.some.injEq]
    rintro (hc' | hc')
    · exact hnext hc'
    · exact Nat.lt_irrefl _ (hc' ▸ hrl)
  · rw [hs] at hs'
    cases cmd <;> simp [Command.target, RunState.stopped] at hs'

/-- The session's launch moves an idle program, whose stopped channel is open, to executing. -/
theorem Handoff.launch {e e' : Engine} (h : e.Handoff) (hl : e.launchSession = .ok e') :
    e'.Handoff := by
  obtain ⟨hi, j, rfl⟩ := launchSession_eq_ok hl
  refine ⟨h.nodup, h.no_nil, h.closed_made, h.stopped_made, h.resume_made,
    fun _ ↦ h.waiting (Or.inl hi), fun hs ↦ ?_⟩
  cases hso : e.stopOnEntry <;> simp [hso, RunState.stopped] at hs

/-- The end closes the stopped channel if it is open, and takes effect once. -/
theorem Handoff.finish {e : Engine} (h : e.Handoff) (fault : Option RunFault) :
    (e.finish fault).Handoff := by
  cases hd : e.done with
  | true => rwa [finish_of_done hd]
  | false =>
    obtain ⟨hs, -, hc, hn, hst, hr⟩ := finish_eq hd fault
    refine ⟨?_, ?_, fun ch hch ↦ ?_, ?_, ?_, fun hw ↦ ?_, fun hw ↦ ?_⟩
    · rw [hc]
      exact Channels.nodup_closeOpen h.nodup _
    · rw [hc, Channels.mem_closeOpen]
      simpa using h.no_nil
    · rw [hc, Channels.mem_closeOpen, Option.some.injEq] at hch
      rw [hn]
      rcases hch with hch | rfl
      · exact h.closed_made ch hch
      · exact h.stopped_made
    · rw [hn, hst]
      exact h.stopped_made
    · rw [hn, hr]
      exact h.resume_made
    · rw [hs] at hw
      simp [RunState.executing] at hw
    · rw [hs] at hw
      cases hw

/-- **Every step keeps the hand-off sound.** -/
theorem Step.handoff {e e' : Engine} (hs : Step e e') (h : e.Handoff) : e'.Handoff := by
  cases hs with
  | pause depth atBreakpoint hp => exact h.pause hp
  | begin cmd hb => exact h.begin hb
  | launch hl => exact h.launch hl
  | finish fault => exact h.finish fault
  | frame hs hd hc hst hr =>
    refine ⟨?_, ?_, ?_, ?_, ?_, ?_, ?_⟩ <;> simp only [hs, hc, hst, hr]
    · exact h.nodup
    · exact h.no_nil
    · exact h.closed_made
    · exact h.stopped_made
    · exact h.resume_made
    · exact h.waiting
    · exact h.parked

theorem Steps.handoff {e e' : Engine} (hs : Steps e e') (h : e.Handoff) : e'.Handoff := by
  induction hs with
  | refl => exact h
  | tail _ hstep ih => exact hstep.handoff ih

/-! ### Who closes what -/

theorem RunState.executing_eq_false_of_stopped {st : RunState} (h : st.stopped) :
    st.executing = false := by
  cases st <;> simp_all [RunState.stopped, RunState.executing]

/-- **What a step can do to the channels.** A step is a pause, a command that passed its
session check, or the first end; any other step leaves the channels and the stopped and resume
channels as they are, and the session too unless it launches an idle program. -/
theorem Step.cases_channels {e e' : Engine} (hs : Step e e') :
    (∃ depth atBreakpoint, e.pause depth atBreakpoint = .ok e') ∨
    (∃ cmd, e.beginCommand cmd = .ok e') ∨
    (e.done = false ∧ ∃ fault, e' = e.finish fault) ∨
    (e'.channels = e.channels ∧ e'.stopped = e.stopped ∧ e'.resumeChannel = e.resumeChannel ∧
      (e.session.state = .idle ∨ e'.session = e.session)) := by
  cases hs with
  | pause depth atBreakpoint hp => exact .inl ⟨depth, atBreakpoint, hp⟩
  | begin cmd hb => exact .inr (.inl ⟨cmd, hb⟩)
  | launch hl =>
    obtain ⟨hi, j, rfl⟩ := launchSession_eq_ok hl
    exact .inr (.inr (.inr ⟨rfl, rfl, rfl, .inl hi⟩))
  | finish fault =>
    cases hd : e.done with
    | true =>
      rw [finish_of_done hd]
      exact .inr (.inr (.inr ⟨rfl, rfl, rfl, .inr rfl⟩))
    | false => exact .inr (.inr (.inl ⟨rfl, fault, rfl⟩))
  | frame hs _ hc hst hr => exact .inr (.inr (.inr ⟨hc, hst, hr, .inr hs⟩))

/-- **What one step closes.** The log of closes only grows. A channel other than the stopped
one is closed only by a command that passed its session check, and it is the resume channel.
The stopped channel is closed only by a pause or by the first end. The resume channel changes
only at a pause, to the channel made there. -/
theorem Step.closes {e e' : Engine} (hs : Step e e') (h : e.Handoff) :
    (∃ added, e'.channels.closes = e.channels.closes ++ added) ∧
    (∀ ch, some ch ∈ e'.channels.closes → some ch ∉ e.channels.closes → ch ≠ e.stopped →
      (∃ cmd, e.beginCommand cmd = .ok e') ∧ e.resumeChannel = some ch) ∧
    (some e.stopped ∈ e'.channels.closes → some e.stopped ∉ e.channels.closes →
      (∃ depth atBreakpoint, e.pause depth atBreakpoint = .ok e') ∨
        (e.done = false ∧ ∃ fault, e' = e.finish fault)) ∧
    (e'.resumeChannel ≠ e.resumeChannel →
      (∃ depth atBreakpoint, e.pause depth atBreakpoint = .ok e') ∧
        e'.resumeChannel = some e.channels.next) := by
  rcases hs.cases_channels with
    ⟨depth, atBreakpoint, hp⟩ | ⟨cmd, hb⟩ | ⟨hd, fault, rfl⟩ | ⟨hc, -, hr, -⟩
  · -- a pause closes the stopped channel alone
    obtain ⟨-, -, hc, -, -, hr, -⟩ := h.pause_eq hp
    refine ⟨⟨_, hc⟩, fun ch hch hno hne ↦ ?_, fun _ _ ↦ .inl ⟨depth, atBreakpoint, hp⟩,
      fun _ ↦ ⟨⟨depth, atBreakpoint, hp⟩, hr⟩⟩
    rw [hc, List.mem_append, List.mem_singleton, Option.some.injEq] at hch
    rcases hch with hch | hch
    · exact absurd hch hno
    · exact absurd hch hne
  · -- a command closes the resume channel alone
    obtain ⟨hs, -, r, hr, -, hc, -, -, hr', -⟩ := h.begin_eq hb
    refine ⟨⟨_, hc⟩, fun ch hch hno _ ↦ ?_, fun hin hno ↦ ?_, fun hne ↦ absurd hr' hne⟩
    · rw [hc, List.mem_append, List.mem_singleton, Option.some.injEq] at hch
      rcases hch with hch | rfl
      · exact absurd hch hno
      · exact ⟨⟨cmd, hb⟩, hr⟩
    · -- the stopped channel of a stopped program is closed already
      exact absurd (h.parked hs).1 hno
  · -- the first end closes the stopped channel if it is open
    obtain ⟨-, -, hc, -, -, hr⟩ := finish_eq hd fault
    refine ⟨?_, fun ch hch hno hne ↦ ?_, fun _ _ ↦ .inr ⟨hd, fault, rfl⟩,
      fun hne ↦ absurd hr hne⟩
    · rw [hc, Channels.closes_closeOpen]
      split
      · exact ⟨[], (List.append_nil _).symm⟩
      · exact ⟨_, rfl⟩
    · rw [hc, Channels.mem_closeOpen, Option.some.injEq] at hch
      rcases hch with hch | hch
      · exact absurd hch hno
      · exact absurd hch hne
  · rw [hc, hr]
    exact ⟨⟨[], (List.append_nil _).symm⟩, fun _ hch hno _ ↦ absurd hch hno,
      fun hin hno ↦ absurd hin hno, fun hne ↦ absurd rfl hne⟩

/-- A step that keeps the program executing closes nothing and keeps its stopped channel. -/
theorem Step.of_executing {e e' : Engine} (hs : Step e e') (hx : e.session.state.executing)
    (hx' : e'.session.state.executing) :
    e'.stopped = e.stopped ∧ e'.channels.closes = e.channels.closes := by
  rcases hs.cases_channels with
    ⟨depth, atBreakpoint, hp⟩ | ⟨cmd, hb⟩ | ⟨hd, fault, rfl⟩ | ⟨hc, hst, -, -⟩
  · -- a pause stops the program
    obtain ⟨-, j, rfl⟩ := pause_eq_ok hp
    cases atBreakpoint <;> simp [RunState.executing] at hx'
  · -- a command starts a stopped program only
    rw [RunState.executing_eq_false_of_stopped (beginCommand_eq_ok hb).1] at hx
    cases hx
  · rw [(finish_eq hd fault).1] at hx'
    cases hx'
  · exact ⟨hst, by rw [hc]⟩

/-- A step that ends the executing state is a pause or the end, and closes the stopped
channel. -/
theorem Step.of_executing_of_not {e e' : Engine} (hs : Step e e') (h : e.Handoff)
    (hx : e.session.state.executing) (hx' : e'.session.state.executing = false) :
    some e.stopped ∈ e'.channels.closes ∧
      ((∃ depth atBreakpoint, e.pause depth atBreakpoint = .ok e') ∨
        ∃ fault, e' = e.finish fault) := by
  rcases hs.cases_channels with
    ⟨depth, atBreakpoint, hp⟩ | ⟨cmd, hb⟩ | ⟨hd, fault, rfl⟩ | ⟨-, -, -, hi | hs'⟩
  · obtain ⟨-, -, hc, -⟩ := h.pause_eq hp
    rw [hc]
    exact ⟨List.mem_append_right _ (List.mem_singleton_self _), .inl ⟨depth, atBreakpoint, hp⟩⟩
  · rw [RunState.executing_eq_false_of_stopped (beginCommand_eq_ok hb).1] at hx
    cases hx
  · rw [(finish_eq hd fault).2.2.1]
    exact ⟨Channels.mem_closeOpen.2 (.inr rfl), .inr ⟨fault, rfl⟩⟩
  · rw [hi] at hx
    cases hx
  · rw [hs', hx] at hx'
    cases hx'

/-- Along a run in which the program keeps executing, the hand-off stays sound and the stopped
channel stays the same. -/
theorem executing_run {e₁ e₂ : Engine} (h : e₁.Handoff) (hx : e₁.session.state.executing)
    (hrun : Relation.ReflTransGen (fun a b ↦ Step a b ∧ b.session.state.executing) e₁ e₂) :
    e₂.Handoff ∧ e₂.session.state.executing ∧ e₂.stopped = e₁.stopped := by
  induction hrun with
  | refl => exact ⟨h, hx, rfl⟩
  | tail _ hab ih =>
    obtain ⟨hinv, hx, hsame⟩ := ih
    obtain ⟨hab, hx'⟩ := hab
    exact ⟨hab.handoff hinv, hx', (hab.of_executing hx hx').1.trans hsame⟩

/-- **A client that started the program is released at the next stop.** The command makes a
fresh stopped channel; while the program keeps executing the channel stays the stopped one and
open, and the step that ends the executing state closes it. -/
theorem released_at_next_stop {e₀ e₁ e₂ e₃ : Engine} {cmd : Command} (h : e₀.Handoff)
    (hb : e₀.beginCommand cmd = .ok e₁)
    (hrun : Relation.ReflTransGen (fun a b ↦ Step a b ∧ b.session.state.executing) e₁ e₂)
    (hstep : Step e₂ e₃) :
    e₁.stopped = e₀.channels.next ∧ e₂.stopped = e₁.stopped ∧
      some e₁.stopped ∉ e₂.channels.closes ∧
      (some e₁.stopped ∈ e₃.channels.closes ↔ e₃.session.state.executing = false) := by
  obtain ⟨-, htarget, -, -, -, -, -, hst, -⟩ := h.begin_eq hb
  have hx₁ : e₁.session.state.executing := by
    rw [htarget]
    exact cmd.target_executing
  obtain ⟨h₂, hx₂, hsame⟩ := executing_run (h.begin hb) hx₁ hrun
  have hopen : some e₂.stopped ∉ e₂.channels.closes := h₂.waiting (.inr hx₂)
  refine ⟨hst, hsame, hsame ▸ hopen, ?_⟩
  rw [← hsame]
  constructor
  · intro hin
    cases hx₃ : e₃.session.state.executing with
    | false => rfl
    | true =>
      rw [(hstep.of_executing hx₂ hx₃).2] at hin
      exact absurd hin hopen
  · intro hx₃
    exact (hstep.of_executing_of_not h₂ hx₂ hx₃).1

/-! ### The end, once -/

theorem finish_done (e : Engine) (fault : Option RunFault) : (e.finish fault).done = true := by
  cases hd : e.done with
  | true => rwa [finish_of_done hd]
  | false => exact (finish_eq hd fault).2.1

/-- Once the program has ended, every step keeps it ended. -/
theorem Step.done_of_done {e e' : Engine} (hs : Step e e') (hd : e.done = true) :
    e'.done = true := by
  cases hs with
  | pause depth atBreakpoint hp =>
    obtain ⟨-, j, rfl⟩ := pause_eq_ok hp
    exact hd
  | begin cmd hb =>
    obtain ⟨-, j, rfl⟩ := beginCommand_eq_ok hb
    exact hd
  | launch hl =>
    obtain ⟨-, j, rfl⟩ := launchSession_eq_ok hl
    exact hd
  | finish fault => exact finish_done e fault
  | frame _ hd' _ _ _ => rw [hd', hd]

theorem Steps.done_of_done {e e' : Engine} (hs : Steps e e') (hd : e.done = true) :
    e'.done = true := by
  induction hs with
  | refl => exact hd
  | tail _ hstep ih => exact hstep.done_of_done ih

/-! ### The hand-off under every interleaving -/

/-- **The channel hand-off is sound, whatever order the program, the clients and the closing
of the engine take their steps in.**

* Every engine reached by steps from a new one has closed no channel twice and never the nil
  one, and keeps the whole `Handoff`; launching, resuming and closing the engine keep it.
* In one step, the closes only grow. A channel other than the stopped one is closed only by a
  command that passed its session check, and it is the resume channel, which only a pause
  installs, fresh. The stopped channel is closed only by a pause or by the first end.
* A command that passed its session check waits on the fresh channel it installed as the
  stopped one; the channel stays installed and open while the program executes, and the step
  that ends the executing state, a pause or the end, is the one that closes it.
* The first end records the fault, terminates the session and marks the engine done; once
  done, an engine stays done along every run and every later end leaves it as it is. -/
theorem channel_handoff_is_sound :
    (∀ files cwd journal logger stopOnEntry system e,
      Steps (new files cwd journal logger stopOnEntry system) e →
        e.channels.closes.Nodup ∧ none ∉ e.channels.closes ∧ e.Handoff) ∧
    (∀ (e : Engine) path cmd, e.Handoff →
      (e.launch path).1.Handoff ∧ (e.resume cmd).1.Handoff ∧ e.close.Handoff) ∧
    (∀ e e' : Engine, e.Handoff → Step e e' →
      (∃ added, e'.channels.closes = e.channels.closes ++ added) ∧
      (∀ ch, some ch ∈ e'.channels.closes → some ch ∉ e.channels.closes → ch ≠ e.stopped →
        (∃ cmd, e.beginCommand cmd = .ok e') ∧ e.resumeChannel = some ch) ∧
      (some e.stopped ∈ e'.channels.closes → some e.stopped ∉ e.channels.closes →
        (∃ depth atBreakpoint, e.pause depth atBreakpoint = .ok e') ∨
          (e.done = false ∧ ∃ fault, e' = e.finish fault)) ∧
      (e'.resumeChannel ≠ e.resumeChannel →
        (∃ depth atBreakpoint, e.pause depth atBreakpoint = .ok e') ∧
          e'.resumeChannel = some e.channels.next)) ∧
    (∀ (e₀ e₁ e₂ e₃ : Engine) cmd, e₀.Handoff → e₀.beginCommand cmd = .ok e₁ →
      Relation.ReflTransGen (fun a b ↦ Step a b ∧ b.session.state.executing) e₁ e₂ →
      Step e₂ e₃ →
      e₁.stopped = e₀.channels.next ∧ e₂.stopped = e₁.stopped ∧
        some e₁.stopped ∉ e₂.channels.closes ∧
        (some e₁.stopped ∈ e₃.channels.closes ↔ e₃.session.state.executing = false)) ∧
    (∀ (e : Engine) fault, e.done = false →
      (e.finish fault).runFault = fault ∧ (e.finish fault).session.state = .terminated ∧
        (e.finish fault).done = true) ∧
    (∀ e e', Steps e e' → e.done = true → ∀ fault, e'.finish fault = e') := by
  refine ⟨fun files cwd journal logger stopOnEntry system e hs ↦ ?_,
    fun e path cmd h ↦ ?_, fun e e' h hs ↦ hs.closes h,
    fun e₀ e₁ e₂ e₃ cmd h hb hrun hstep ↦ released_at_next_stop h hb hrun hstep,
    fun e fault hd ↦ ?_, fun e e' hs hd fault ↦ finish_of_done (hs.done_of_done hd) fault⟩
  · have h := hs.handoff (handoff_new files cwd journal logger stopOnEntry system)
    exact ⟨h.nodup, h.no_nil, h⟩
  · exact ⟨(launch_steps e path).handoff h, (resume_steps e cmd).handoff h,
      (close_steps e).handoff h⟩
  · obtain ⟨j, hf⟩ := finish_of_not_done hd fault
    rw [hf]
    exact ⟨rfl, by simp [Session.terminate], rfl⟩

/-- An engine whose program has paused once: the channel 0 the launch waited on is closed, and
the program waits on the resume channel 1. -/
def pausedOnce : Engine :=
  { machine := default, files := {}, cwd := "/", session := { state := .paused },
    channels := { next := 2, closes := [some 0] }, resumeChannel := some 1 }

theorem handoff_pausedOnce : pausedOnce.Handoff where
  nodup := by decide
  no_nil := by decide
  closed_made := by simp [pausedOnce]
  stopped_made := by decide
  resume_made := by simp [pausedOnce]
  waiting := by simp [pausedOnce, RunState.executing]
  parked := fun _ ↦ ⟨by decide, 1, rfl, by decide⟩

/-- From a new engine, from the engine paused once and across a step in of it, the hand-off
reads as the theorem says. -/
theorem handoff_across_a_step_in :
    (new {} "/" {} {}).channels.closes.Nodup ∧
    (pausedOnce.resume .stepIn).1.Handoff ∧
    (∃ added, (pausedOnce.finish none).channels.closes = pausedOnce.channels.closes ++ added) ∧
    (match pausedOnce.beginCommand .stepIn with
      | .ok e₁ => some e₁.stopped ∈ (e₁.finish none).channels.closes ↔
          (e₁.finish none).session.state.executing = false
      | .error _ => False) ∧
    (pausedOnce.finish none).runFault = none ∧
    (pausedOnce.finish none).finish (some .cancelled) = pausedOnce.finish none := by
  obtain ⟨hnew, hops, hstep, hrel, hfin, honce⟩ := channel_handoff_is_sound
  refine ⟨(hnew {} "/" {} {} true false _ .refl).1, (hops _ "main.lua" .stepIn handoff_pausedOnce).2.1,
    (hstep _ _ handoff_pausedOnce (.finish _ none)).1, ?_,
    (hfin _ none rfl).1, honce _ _ .refl (finish_done _ none) _⟩
  obtain ⟨j, hb⟩ := beginCommand_of_stopped (e := pausedOnce) rfl .stepIn
  rw [hb]
  exact (hrel _ _ _ _ .stepIn handoff_pausedOnce hb .refl (.finish _ none)).2.2.2

end Engine

end Script

end LuaDebugger
