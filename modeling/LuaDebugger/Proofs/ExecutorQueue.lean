import LuaDebugger.Script.CallQueue
import Mathlib.Logic.Relation
/-!
# What becomes of a queued call

Over every interleaving of the executor's goroutines (`CallQueue.act`), a call leaves its
caller once, for the queue, and from there goes to the runner and to an answer, or straight
to an answer when the runner drains the queue. So no call is answered twice, and a call on
the queue or running has no answer yet (`Inv`, kept by every action: `Inv.act`).

Answers come only from the runner: when a running call returns, or while the runner drains
the queue before it returns. Once `Run` has returned, no action answers a call again
(`answers_after_return`). But a caller that read the closed flag before the executor was
closed can still put its call on the queue after the runner drained it and returned
(`closeRace`), and after a cancelled runner any caller can: that call is never answered, and a
caller that waits for it, with no deadline, waits forever.
`calls_answered_once_never_after_run_returns` gathers what holds of every interleaving.
-/

namespace LuaDebugger.Script

/-- A caller that has not yet put its call anywhere. -/
def CallerStage.holding : CallerStage → Bool
  | .checking | .offering => true
  | _ => false

namespace CallQueue

/-- The executors reachable by actions of the goroutines. -/
abbrev Reachable : CallQueue → CallQueue → Prop := Relation.ReflTransGen Step

theorem reachable_of_actAll {s s' : CallQueue} {as : List QueueAction}
    (h : s.actAll as = some s') : Reachable s s' := by
  induction as generalizing s with
  | nil =>
    cases h
    exact .refl
  | cons a as ih =>
    obtain ⟨t, ht, hrest⟩ := Option.bind_eq_some_iff.1 h
    exact Relation.ReflTransGen.head ⟨a, ht⟩ (ih hrest)

/-- The calls that have left their callers: queued, running, or answered. -/
def placed (s : CallQueue) : List Nat := s.queue ++ s.running ++ s.answers.map (·.1)

/-- An answer a call may receive: its function's result, or the error of a closed executor or
of a cancelled runner, when the runner drained it. -/
def AnswerSent : CallAnswer → Prop
  | .ran _ => True
  | .drained error => error = Executor.closedMessage ∨ error = Executor.cancelledMessage

/-- **Each call is in one place.** A call is on the queue, running or answered, at most one of
them and once; only calls that callers made are; a caller still deciding holds its call; the
answers are those a call may receive; the runner runs calls only while it serves the queue,
and drains with the error of a closed executor or a cancelled context. -/
structure Inv (s : CallQueue) : Prop where
  nodup : s.placed.Nodup
  made : ∀ id ∈ s.placed, id < s.callers.size
  held : ∀ id c, s.callers[id]? = some c → c.stage.holding → id ∉ s.placed
  sent : ∀ p ∈ s.answers, AnswerSent p.2
  idle : s.runner ≠ .serving → s.running = []
  stopping : ∀ error, s.runner = .draining error →
    error = Executor.closedMessage ∨ error = Executor.cancelledMessage

theorem inv_new (capacity : Nat) : (new capacity).Inv :=
  ⟨List.nodup_nil, by simp [placed, new], by simp [new], by simp [new], by simp [new],
    by simp [new]⟩

/-! ### The callers' actions -/

section Callers

variable {s : CallQueue} {id : Nat} {c : Caller} {stage : CallerStage}

@[simp] theorem moveCaller_queue : (s.moveCaller id c stage).queue = s.queue := rfl
@[simp] theorem moveCaller_running : (s.moveCaller id c stage).running = s.running := rfl
@[simp] theorem moveCaller_answers : (s.moveCaller id c stage).answers = s.answers := rfl
@[simp] theorem moveCaller_runner : (s.moveCaller id c stage).runner = s.runner := rfl
@[simp] theorem moveCaller_size : (s.moveCaller id c stage).callers.size = s.callers.size := by
  simp [moveCaller]

theorem placed_moveCaller : (s.moveCaller id c stage).placed = s.placed := rfl

theorem moveCaller_get_self (hc : s.callers[id]? = some c) :
    (s.moveCaller id c stage).callers[id]? = some { c with stage } := by
  have hlt : id < s.callers.size := (Array.getElem?_eq_some_iff.1 hc).1
  simp [moveCaller, Array.getElem?_setIfInBounds_self_of_lt hlt]

theorem moveCaller_get_ne {j : Nat} (hne : j ≠ id) :
    (s.moveCaller id c stage).callers[j]? = s.callers[j]? := by
  simp [moveCaller, Array.getElem?_setIfInBounds_ne (Ne.symm hne)]

/-- Moving a caller to a stage where it no longer holds its call, or from one where it held it,
leaves every caller that holds its call one that held it before. -/
theorem held_moveCaller (h : s.Inv) (hc : s.callers[id]? = some c)
    (hmove : stage.holding → c.stage.holding) :
    ∀ j c', (s.moveCaller id c stage).callers[j]? = some c' → c'.stage.holding →
      j ∉ (s.moveCaller id c stage).placed := by
  intro j c' hj hhold
  rw [placed_moveCaller]
  by_cases hji : j = id
  · subst hji
    rw [moveCaller_get_self hc, Option.some.injEq] at hj
    subst hj
    exact h.held j c hc (hmove hhold)
  · rw [moveCaller_get_ne hji] at hj
    exact h.held j c' hj hhold

/-- A caller's action moves only that caller, keeping the invariant when the caller does not
take its call back into its hands. -/
theorem Inv.moveCaller (h : s.Inv) (hc : s.callers[id]? = some c)
    (hmove : stage.holding → c.stage.holding) : (s.moveCaller id c stage).Inv :=
  ⟨h.nodup, fun j hj ↦ by simpa using h.made j hj, held_moveCaller h hc hmove, h.sent, h.idle,
    h.stopping⟩

/-- A new caller holds its call, which is in no place yet. -/
theorem Inv.push (h : s.Inv) (kind : CallKind) :
    ({ s with callers := s.callers.push ⟨kind, .checking⟩ } : CallQueue).Inv := by
  refine ⟨h.nodup, fun j hj ↦ by simpa using Nat.lt_succ_of_lt (h.made j hj), ?_, h.sent, h.idle,
    h.stopping⟩
  intro j c' hj hhold
  rw [Array.getElem?_push] at hj
  split at hj
  · -- the new call's number is past every call placed so far
    rename_i hjs
    subst hjs
    exact fun hp ↦ Nat.lt_irrefl _ (h.made _ hp)
  · exact h.held j c' hj hhold

/-- Putting a call on the queue takes it from a caller that held it, into no other place. -/
theorem Inv.enqueue (h : s.Inv) (hc : s.callers[id]? = some c) (hoff : c.stage = .offering)
    (stage : CallerStage) (hstage : stage.holding = false) :
    ({ s.moveCaller id c stage with queue := s.queue ++ [id] } : CallQueue).Inv := by
  have hnot : id ∉ s.placed := h.held id c hc (by rw [hoff]; rfl)
  have hlt : id < s.callers.size := (Array.getElem?_eq_some_iff.1 hc).1
  have hperm : (({ s.moveCaller id c stage with queue := s.queue ++ [id] } : CallQueue).placed).Perm
      (id :: s.placed) := by
    simp [placed, List.perm_middle]
  refine ⟨(hperm.nodup_iff).2 (List.nodup_cons.2 ⟨hnot, h.nodup⟩), fun j hj ↦ ?_, ?_, h.sent,
    h.idle, h.stopping⟩
  · rcases List.mem_cons.1 (hperm.mem_iff.1 hj) with rfl | hj
    · simpa using hlt
    · simpa using h.made j hj
  · intro j c' hj hhold hp
    rcases List.mem_cons.1 (hperm.mem_iff.1 hp) with rfl | hp
    · -- the caller gave its call away
      have hj' : (s.moveCaller j c stage).callers[j]? = some c' := hj
      rw [moveCaller_get_self hc, Option.some.injEq] at hj'
      rw [← hj'] at hhold
      simp [hstage] at hhold
    · exact held_moveCaller h hc (by simp [hstage]) j c' hj hhold hp

theorem withCaller_eq_some {enabled : Caller → Bool} {next : Caller → CallQueue}
    {s' : CallQueue} (h : s.withCaller id enabled next = some s') :
    ∃ c, s.callers[id]? = some c ∧ enabled c = true ∧ s' = next c := by
  unfold withCaller at h
  split at h
  · rename_i c hc
    split at h
    · exact ⟨c, hc, ‹_›, (Option.some.inj h).symm⟩
    · cases h
  · cases h

end Callers

/-! ### The runner's actions -/

section Runner

variable {s : CallQueue}

/-- A call moved from the middle of the places to the answers, which come last. -/
theorem perm_answer (l₁ l₂ l₃ : List Nat) (a : Nat) :
    (l₁ ++ l₂ ++ (l₃ ++ [a])).Perm (l₁ ++ (a :: l₂) ++ l₃) := by
  have hlast : (l₁ ++ l₂ ++ l₃ ++ [a]).Perm (a :: (l₁ ++ l₂ ++ l₃)) :=
    List.perm_append_singleton a _
  have hmid : (l₁ ++ (a :: l₂) ++ l₃).Perm (a :: (l₁ ++ l₂ ++ l₃)) := by simp
  simpa using hlast.trans hmid.symm

/-- An action that moves calls between the queue, the runner and the answers, without losing
or copying one, keeps the invariant when the answers, the runner and its calls stay as the
invariant wants them. -/
theorem Inv.of_perm {s' : CallQueue} (h : s.Inv) (hp : s'.placed.Perm s.placed)
    (hc : s'.callers = s.callers) (hsent : ∀ p ∈ s'.answers, AnswerSent p.2)
    (hidle : s'.runner ≠ .serving → s'.running = [])
    (hstop : ∀ error, s'.runner = .draining error →
      error = Executor.closedMessage ∨ error = Executor.cancelledMessage) : s'.Inv :=
  ⟨hp.nodup_iff.2 h.nodup, fun j hj ↦ hc ▸ h.made j (hp.mem_iff.1 hj),
    fun j c hj hhold hp' ↦ h.held j c (hc ▸ hj) hhold (hp.mem_iff.1 hp'), hsent, hidle, hstop⟩

theorem Inv.take (h : s.Inv) {id : Nat} {rest : List Nat} (hr : s.runner = .serving)
    (hq : s.queue = id :: rest) :
    ({ s with queue := rest, running := id :: s.running } : CallQueue).Inv :=
  h.of_perm (by simp [placed, hq, List.perm_middle]) rfl h.sent (fun hs ↦ absurd hr hs)
    (fun _ hd ↦ by simp [hr] at hd)

theorem Inv.finish (h : s.Inv) {id : Nat} {rest : List Nat} (hrun : s.running = id :: rest)
    (error : Option String) :
    ({ s with running := rest, answers := s.answers ++ [(id, .ran error)] } : CallQueue).Inv := by
  -- a call runs, so the runner serves the queue
  have hr : s.runner = .serving := by
    cases hs : s.runner with
    | serving => rfl
    | _ => simp [h.idle (by simp [hs])] at hrun
  refine h.of_perm ?_ rfl ?_ (fun hs ↦ absurd hr hs) (fun _ hd ↦ by simp [hr] at hd)
  · simp only [placed, hrun, List.map_append, List.map_cons, List.map_nil]
    exact perm_answer _ _ _ _
  · intro p hp
    rcases List.mem_append.1 hp with hp | hp
    · exact h.sent p hp
    · simp only [List.mem_singleton] at hp
      subst hp
      trivial

theorem Inv.drain (h : s.Inv) {error : String} {id : Nat} {rest : List Nat}
    (hr : s.runner = .draining error) (hq : s.queue = id :: rest) :
    ({ s with queue := rest, answers := s.answers ++ [(id, .drained error)] } : CallQueue).Inv := by
  refine h.of_perm ?_ rfl ?_ h.idle h.stopping
  · simp only [placed, hq, List.map_append, List.map_cons, List.map_nil]
    simpa using perm_answer [] rest (s.running ++ s.answers.map (·.1)) id
  · intro p hp
    rcases List.mem_append.1 hp with hp | hp
    · exact h.sent p hp
    · simp only [List.mem_singleton] at hp
      subst hp
      exact h.stopping error hr

/-- An action on the runner's stage alone keeps the invariant when the runner runs no call
past serving and drains with one of the two errors. -/
theorem Inv.runner (h : s.Inv) (stage : RunnerStage) (hidle : stage ≠ .serving → s.running = [])
    (hstop : ∀ error, stage = .draining error →
      error = Executor.closedMessage ∨ error = Executor.cancelledMessage) :
    ({ s with runner := stage } : CallQueue).Inv :=
  h.of_perm (List.Perm.refl _) rfl h.sent hidle hstop

end Runner

/-! ### Every action -/

section Actions

variable {s s' : CallQueue}

/-- A caller's action on a caller that is where `enabled` says, moving it to a stage where it
holds its call only if it held it before. -/
theorem Inv.withCaller (h : s.Inv) {id : Nat} {enabled : Caller → Bool}
    {stage : Caller → CallerStage} (hmove : ∀ c, enabled c → (stage c).holding → c.stage.holding)
    (ha : s.withCaller id enabled (fun c ↦ s.moveCaller id c (stage c)) = some s') : s'.Inv := by
  obtain ⟨c, hc, hen, rfl⟩ := withCaller_eq_some ha
  exact h.moveCaller hc (hmove c hen)

/-- **Every action keeps the invariant.** -/
theorem Inv.act (h : s.Inv) {a : QueueAction} (ha : s.act a = some s') : s'.Inv := by
  cases a with
  | call kind =>
    cases ha
    exact h.push kind
  | check id =>
    -- the caller stops holding its call, or goes on to offer it
    refine h.withCaller (fun c hen _ ↦ ?_) ha
    simp only [decide_eq_true_eq] at hen
    simp [hen, CallerStage.holding]
  | enqueue id =>
    obtain ⟨c, hc, hen, rfl⟩ := withCaller_eq_some ha
    simp only [decide_eq_true_eq] at hen
    exact h.enqueue hc hen.1 _ (by split <;> rfl)
  | seeDone id | seeFull id | seeCancel id | giveUp id =>
    exact h.withCaller (fun _ _ hhold ↦ by simp [CallerStage.holding] at hhold) ha
  | receive id =>
    simp only [CallQueue.act] at ha
    split at ha
    · exact h.withCaller (fun _ _ hhold ↦ by simp [CallerStage.holding] at hhold) ha
    · cases ha
  | take =>
    simp only [CallQueue.act] at ha
    split at ha
    · rename_i id rest hr hq
      cases ha
      exact h.take hr hq
    · cases ha
  | finish error =>
    simp only [CallQueue.act] at ha
    split at ha
    · rename_i id rest hrun
      cases ha
      exact h.finish hrun error
    · cases ha
  | stopRun | stopClosed =>
    simp only [CallQueue.act] at ha
    split at ha
    · rename_i hen
      cases ha
      exact h.runner _ (fun _ ↦ hen.2.1) (fun error he ↦ by cases he; simp)
    · cases ha
  | drain =>
    simp only [CallQueue.act] at ha
    split at ha
    · rename_i error id rest hr hq
      cases ha
      exact h.drain hr hq
    · cases ha
  | drainEnd =>
    simp only [CallQueue.act] at ha
    split at ha
    · rename_i error hr hq
      cases ha
      exact h.runner _ (fun _ ↦ h.idle (by simp [hr])) (fun _ he ↦ by cases he)
    · cases ha
  | cancelRun | closeFlag =>
    cases ha
    exact h.of_perm (List.Perm.refl _) rfl h.sent h.idle h.stopping
  | closeDone =>
    simp only [CallQueue.act] at ha
    split at ha
    · cases ha
      exact h.of_perm (List.Perm.refl _) rfl h.sent h.idle h.stopping
    · cases ha

/-- The invariant holds along every run. -/
theorem Inv.reach (h : s.Inv) (hs : Reachable s s') : s'.Inv := by
  induction hs with
  | refl => exact h
  | tail _ hstep ih =>
    obtain ⟨a, ha⟩ := hstep
    exact ih.act ha

end Actions

/-! ### After `Run` has returned -/

section Returned

variable {s s' : CallQueue}

/-- Once `Run` has returned, no action answers a call or brings the runner back: only the
callers and the flags move. -/
theorem act_of_returned (h : s.Inv) (hr : s.runner = .returned) {a : QueueAction}
    (ha : s.act a = some s') : s'.answers = s.answers ∧ s'.runner = .returned := by
  cases a with
  | call _ | cancelRun | closeFlag =>
    cases ha
    exact ⟨rfl, hr⟩
  | check _ | enqueue _ | seeDone _ | seeFull _ | seeCancel _ | giveUp _ =>
    obtain ⟨c, -, -, rfl⟩ := withCaller_eq_some ha
    exact ⟨rfl, hr⟩
  | receive _ =>
    simp only [CallQueue.act] at ha
    split at ha
    · obtain ⟨c, -, -, rfl⟩ := withCaller_eq_some ha
      exact ⟨rfl, hr⟩
    · cases ha
  | finish _ =>
    -- the runner has returned, so no call runs
    simp [CallQueue.act, h.idle (by simp [hr])] at ha
  | take | stopRun | stopClosed | drain | drainEnd => simp [CallQueue.act, hr] at ha
  | closeDone =>
    simp only [CallQueue.act] at ha
    split at ha
    · cases ha
      exact ⟨rfl, hr⟩
    · cases ha

/-- `Run` returns only from its drain, once it finds the queue empty. -/
theorem queue_of_return {a : QueueAction} (ha : s.act a = some s') (hr : s.runner ≠ .returned)
    (hr' : s'.runner = .returned) : s'.queue = [] := by
  cases a with
  | call _ | cancelRun | closeFlag =>
    cases ha
    exact absurd hr' hr
  | check _ | enqueue _ | seeDone _ | seeFull _ | seeCancel _ | giveUp _ =>
    obtain ⟨c, -, -, rfl⟩ := withCaller_eq_some ha
    exact absurd hr' hr
  | receive _ =>
    simp only [CallQueue.act] at ha
    split at ha
    · obtain ⟨c, -, -, rfl⟩ := withCaller_eq_some ha
      exact absurd hr' hr
    · cases ha
  | drainEnd =>
    simp only [CallQueue.act] at ha
    split at ha
    · rename_i hq
      cases ha
      exact hq
    · cases ha
  | take | finish _ | stopRun | stopClosed | drain | closeDone =>
    simp only [CallQueue.act] at ha
    -- these leave the runner serving, or set it draining
    split at ha <;> cases ha <;> simp_all

/-- **Nothing is answered after `Run` returns**, whatever the goroutines do next. -/
theorem answers_after_return (h : s.Inv) (hr : s.runner = .returned) (hs : Reachable s s') :
    s'.answers = s.answers ∧ s'.runner = .returned := by
  induction hs with
  | refl => exact ⟨rfl, hr⟩
  | tail hmid hstep ih =>
    obtain ⟨a, ha⟩ := hstep
    obtain ⟨hans, hret⟩ := act_of_returned (h.reach hmid) ih.2 ha
    exact ⟨hans.trans ih.1, hret⟩

end Returned

/-! ### Queued calls -/

/-- **A queued call is answered at most once, and never once `Run` has returned.** Over every
interleaving of callers, the runner, its cancellation and closing, from a fresh executor: no
call is answered twice; each answer is the call's own result or, for a call the runner
drained, the error of a closed executor or of a cancelled runner; a call on the queue or
running has no answer yet; `Run` leaves the queue empty when it returns; and after that no
call is ever answered again, so a call that joins the queue later waits unanswered. -/
theorem calls_answered_once_never_after_run_returns (capacity : Nat) (s : CallQueue)
    (hs : Reachable (new capacity) s) :
    (s.answers.map (·.1)).Nodup ∧ (∀ p ∈ s.answers, AnswerSent p.2) ∧
    (∀ id ∈ s.queue ++ s.running, id ∉ s.answers.map (·.1)) ∧
    (∀ a s', s.runner ≠ .returned → s.act a = some s' → s'.runner = .returned →
      s'.queue = []) ∧
    (s.runner = .returned → ∀ s', Reachable s s' → s'.answers = s.answers) := by
  have h := (inv_new capacity).reach hs
  have hnodup : (s.queue ++ s.running ++ s.answers.map (·.1)).Nodup := h.nodup
  obtain ⟨-, hans, hdisj⟩ := List.nodup_append.1 hnodup
  exact ⟨hans, h.sent, fun id hid hanswered ↦ hdisj id hid id hanswered rfl,
    fun _ _ hr ha hr' ↦ queue_of_return ha hr hr', fun hr _ hs' ↦ (answers_after_return h hr hs').1⟩

/-- A caller reads the closed flag before the executor is closed; the runner sees `done`
closed, finds the queue empty and returns; then the caller's `select`, with both cases ready,
puts the call on the queue. -/
def closeRace : List QueueAction :=
  [.call .waited, .check 0, .closeFlag, .closeDone, .stopClosed, .drainEnd, .enqueue 0]

/-- Where `closeRace` leaves the executor: closed, `Run` returned, and the call queued, its
caller waiting. -/
def afterCloseRace : CallQueue :=
  { capacity := 1, queue := [0], closed := true, done := true, runner := .returned,
    callers := #[⟨.waited, .waiting⟩] }

/-- A call queued after the executor was closed and `Run` returned is never answered: its
caller, waiting with no deadline, waits forever. -/
theorem call_queued_after_close_waits_forever :
    Reachable (new 1) afterCloseRace ∧ afterCloseRace.closed = true ∧
      afterCloseRace.runner = .returned ∧ afterCloseRace.queue = [0] ∧
      afterCloseRace.callers[0]? = some ⟨.waited, .waiting⟩ ∧
      ∀ s', Reachable afterCloseRace s' → 0 ∉ s'.answers.map (·.1) := by
  have hrun : (new 1).actAll closeRace = some afterCloseRace := by decide
  have hreach := reachable_of_actAll hrun
  refine ⟨hreach, rfl, rfl, rfl, rfl, fun s' hs' ↦ ?_⟩
  rw [(calls_answered_once_never_after_run_returns 1 afterCloseRace hreach).2.2.2.2 rfl s' hs']
  simp [afterCloseRace]

/-- The runner's context is cancelled and `Run` returns; then two calls are made without
waiting on a queue of one. -/
def stopThenTwoCalls : List QueueAction :=
  [.cancelRun, .stopRun, .drainEnd, .call .async, .check 0, .enqueue 0, .call .async, .check 1,
    .seeFull 1]

/-- Where `stopThenTwoCalls` leaves the executor. -/
def afterStopThenTwoCalls : CallQueue :=
  { capacity := 1, queue := [0], runCancelled := true, runner := .returned,
    callers := #[⟨.async, .returned none⟩, ⟨.async, .returned (some Executor.fullMessage)⟩] }

/-- Once the runner's context is cancelled and `Run` has returned, a call made without waiting
joins the queue and is never answered, and the next finds the queue of one full. -/
theorem queued_call_after_stop_fills_queue :
    Reachable (new 1) afterStopThenTwoCalls ∧
      afterStopThenTwoCalls.callers[1]? = some ⟨.async, .returned (some Executor.fullMessage)⟩ ∧
      ∀ s', Reachable afterStopThenTwoCalls s' → 0 ∉ s'.answers.map (·.1) := by
  have hrun : (new 1).actAll stopThenTwoCalls = some afterStopThenTwoCalls := by decide
  have hreach := reachable_of_actAll hrun
  refine ⟨hreach, rfl, fun s' hs' ↦ ?_⟩
  rw [(answers_after_return ((inv_new 1).reach hreach) rfl hs').1]
  simp [afterStopThenTwoCalls]

end CallQueue

end LuaDebugger.Script
