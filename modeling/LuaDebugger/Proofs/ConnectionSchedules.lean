import LuaDebugger.Proofs.HangupDelivery
import Mathlib.Tactic.Set
/-!
# A connection run call by call is a schedule of the wire

`Connection` runs one call at a time and lets its writer go as far as it can after each call;
`Wire.Step` lets the calls, the hangup and the writer interleave in any order. Every run of
calls on a connection (`Calls`: sends, `trySend`s, the hangup and time passing, the calls the
manager makes) is one of the wire's schedules: `calls_are_wire_schedules`. So what
`HangupDelivery` proves of every schedule holds of the connection, and the far end has read
the messages of a prefix of the successful calls, in order (`received_begins_accepted`).

`Runs c w` ties the connection to a wire state between calls. Each call is matched by wire
steps that keep it and accept exactly the message the call reports as queued (`Runs.call`):
queueing is an offer and its acceptance (`Runs.enqueue`), the writer's catching up is taking
and writing messages and the clean close (`Runs.settle`), and a deadline that passes on a
stuck write is the write failing (`Runs.expire`). Closing from outside is left out, as in
`Wire.Step`.
-/

namespace LuaDebugger.Server

/-- Appending messages one after another appends their bytes in order. -/
theorem data_foldl_append (l : List ByteArray) (b : ByteArray) :
    (l.foldl (· ++ ·) b).data.toList = b.data.toList ++ l.flatMap (·.data.toList) := by
  induction l generalizing b with
  | nil => simp
  | cons m rest ih => simp [ih]

namespace Connection

/-- What the writer of an open connection is doing: writing the message it is stuck on, or
waiting. -/
def writerState (c : Connection) : WriterState :=
  match c.stuck with
  | some m => .writing m
  | none => .waiting

/-- The connection `c` is the wire `w` between calls: the same capacity and hangup, no offer
pending, the writer closed exactly when the connection is and otherwise holding the same
message and queue, and the far end having read what the writer wrote. A writer whose far end
reads is never stuck. -/
structure Runs (c : Connection) (w : Wire) : Prop where
  capacity : w.capacity = c.capacity
  hungUp : w.hungUp = c.hungUp
  offers : w.offers = []
  closed : w.writer.isClosed = c.closed
  queue : c.closed = false → w.queue = c.queue
  writer : c.closed = false → w.writer = c.writerState
  received : c.received.data.toList = w.written.flatMap (·.data.toList)
  reads : c.peerReads = true → c.stuck = none

variable {c : Connection} {w : Wire}

theorem Runs.refuses (h : Runs c w) : w.refuses = c.refuses := by
  rw [Wire.refuses, Connection.refuses, h.hungUp, h.closed, Bool.or_comm]

/-- The writer catching up after a call is a run of the wire's writer steps. -/
theorem Runs.settle (h : Runs c w) :
    ∃ w', Wire.Steps w w' ∧ Runs c.settle w' ∧ w'.accepted = w.accepted := by
  by_cases hc : c.closed = true
  · rw [Connection.settle, if_pos hc]
    exact ⟨w, .refl, h, rfl⟩
  have hc : c.closed = false := by simpa using hc
  have hw := h.writer hc
  have hq := h.queue hc
  by_cases hr : c.peerReads = true
  · -- a far end that reads takes the whole queue: the writer drains it
    have hwait : w.writer = .waiting := by rw [hw, writerState, h.reads hr]
    have hdrain := Wire.drain_steps w hwait
    set w1 : Wire := { w with queue := [], written := w.written ++ w.queue }
    have hrecv : (c.queue.foldl (· ++ ·) c.received).data.toList =
        w1.written.flatMap (·.data.toList) := by
      simp [w1, data_foldl_append, h.received, hq]
    rw [Connection.settle, if_neg (by simp [hc]), if_pos hr]
    by_cases hh : c.hungUp = true
    · have hfin : Wire.Step w1 { w1 with writer := .closed true } :=
        .finish w1 hwait (by simp [w1, h.hungUp, hh]) rfl
      dsimp only
      rw [if_pos hh]
      exact ⟨_, hdrain.tail hfin, ⟨h.capacity, h.hungUp, h.offers, rfl, by simp, by simp, hrecv,
        h.reads⟩, rfl⟩
    · dsimp only
      rw [if_neg hh]
      exact ⟨w1, hdrain, ⟨h.capacity, h.hungUp, h.offers, by simp [w1, hwait, hc, WriterState.isClosed],
        fun _ ↦ rfl, fun _ ↦ by simp [w1, hwait, writerState, h.reads hr], hrecv, h.reads⟩, rfl⟩
  · -- a far end that does not read leaves the writer on the first message it takes
    rw [Connection.settle, if_neg (by simp [hc]), if_neg hr]
    cases hs : c.stuck with
    | some m =>
      simp only [hs, Option.isNone_some, Bool.and_false, Bool.false_and]
      exact ⟨w, .refl, h, rfl⟩
    | none =>
      have hwait : w.writer = .waiting := by rw [hw, writerState, hs]
      cases hq' : c.queue with
      | cons m rest =>
        have htake : Wire.Step w { w with writer := .writing m, queue := rest } :=
          .take w m rest hwait (hq.trans hq')
        simp only [Option.isNone_some, Bool.and_false, Bool.false_and, Bool.false_eq_true, if_false]
        exact ⟨_, .single htake, ⟨h.capacity, h.hungUp, h.offers, by simp [hc, WriterState.isClosed],
          fun _ ↦ rfl, fun _ ↦ rfl, h.received, fun h' ↦ absurd h' hr⟩, rfl⟩
      | nil =>
        by_cases hh : c.hungUp = true
        · rw [if_pos (by simp [hh, hs, hq'])]
          have hfin : Wire.Step w { w with writer := .closed true } :=
            .finish w hwait (by rw [h.hungUp, hh]) (hq.trans hq')
          exact ⟨_, .single hfin, ⟨h.capacity, h.hungUp, h.offers, rfl, by simp, by simp, h.received,
            h.reads⟩, rfl⟩
        · rw [if_neg (by simp [hh])]
          exact ⟨w, .refl, h, rfl⟩

/-- A call that passes its look and finds room is an offer and its acceptance. -/
theorem Runs.enqueue (h : Runs c w) (hr : c.refuses = false)
    (hroom : c.queue.length < c.capacity) (o : Offer) :
    ∃ w', Wire.Steps w w' ∧ Runs { c with queue := c.queue ++ [o.msg] } w' ∧
      w'.accepted = w.accepted ++ [o.msg] := by
  have hc : c.closed = false := by
    simp only [Connection.refuses, Bool.or_eq_false_iff] at hr
    exact hr.1
  have hcall : Wire.Step w { w with offers := w.offers ++ [o] } :=
    .call w o (by rw [h.refuses, hr])
  have haccept := Wire.Step.accept { w with offers := w.offers ++ [o] } o (by simp)
    (by simpa [h.queue hc, h.capacity] using hroom)
  refine ⟨_, (Relation.ReflTransGen.single hcall).tail haccept,
    ⟨h.capacity, h.hungUp, by simp [h.offers], h.closed, fun _ ↦ by simp [h.queue hc],
      h.writer, h.received, h.reads⟩, rfl⟩

theorem Runs.send (h : Runs c w) (msg : ByteArray) :
    ∃ w', Wire.Steps w w' ∧ Runs (c.send msg).1 w' ∧
      w'.accepted = w.accepted ++ (if (c.send msg).2 = none then [msg] else []) := by
  by_cases hr : c.refuses = true
  · have hsend : c.send msg = (c, some closedMessage) := by simp [Connection.send, hr]
    rw [hsend]
    exact ⟨w, .refl, h, by simp⟩
  have hr : c.refuses = false := by simpa using hr
  by_cases hroom : c.queue.length < c.capacity
  · have hsend : c.send msg = ({ c with queue := c.queue ++ [msg] }.settle, none) := by
      simp [Connection.send, hr, hroom]
    obtain ⟨w1, hw1, h1, ha1⟩ := h.enqueue hr hroom ⟨msg, true⟩
    obtain ⟨w2, hw2, h2, ha2⟩ := h1.settle
    rw [hsend]
    exact ⟨w2, hw1.trans hw2, h2, by simp [ha2, ha1]⟩
  · have hsend : c.send msg = (c, some sendDeadlineMessage) := by
      simp [Connection.send, hr, hroom]
    rw [hsend]
    exact ⟨w, .refl, h, by simp⟩

theorem Runs.trySend (h : Runs c w) (msg : ByteArray) :
    ∃ w', Wire.Steps w w' ∧ Runs (c.trySend msg).1 w' ∧
      w'.accepted = w.accepted ++ (if (c.trySend msg).2 then [msg] else []) := by
  by_cases hfull : (c.refuses || c.queue.length ≥ c.capacity) = true
  · have hsend : c.trySend msg = (c, false) := by simp [Connection.trySend, hfull]
    rw [hsend]
    exact ⟨w, .refl, h, by simp⟩
  · have hsend : c.trySend msg = ({ c with queue := c.queue ++ [msg] }.settle, true) := by
      simp [Connection.trySend, hfull]
    simp only [Bool.or_eq_true, decide_eq_true_eq, not_or, Bool.not_eq_true, Nat.not_le] at hfull
    obtain ⟨w1, hw1, h1, ha1⟩ := h.enqueue hfull.1 hfull.2 ⟨msg, false⟩
    obtain ⟨w2, hw2, h2, ha2⟩ := h1.settle
    rw [hsend]
    exact ⟨w2, hw1.trans hw2, h2, by simp [ha2, ha1]⟩

theorem Runs.hangup (h : Runs c w) :
    ∃ w', Wire.Steps w w' ∧ Runs c.hangup w' ∧ w'.accepted = w.accepted := by
  have hh : Runs { c with hungUp := true } { w with hungUp := true } :=
    ⟨h.capacity, rfl, h.offers, h.closed, h.queue, h.writer, h.received, h.reads⟩
  obtain ⟨w', hw', h', ha'⟩ := hh.settle
  exact ⟨w', (Relation.ReflTransGen.single (.hangup w)).trans hw', h', ha'⟩

theorem Runs.expire (h : Runs c w) :
    ∃ w', Wire.Steps w w' ∧ Runs c.expire w' ∧ w'.accepted = w.accepted := by
  unfold Connection.expire
  by_cases ht : (c.timesOut && c.stuck.isSome) = true
  · rw [if_pos ht]
    by_cases hc : c.closed = true
    · exact ⟨w, .refl, ⟨h.capacity, h.hungUp, h.offers, h.closed.trans hc, nofun, nofun,
        h.received, fun _ ↦ rfl⟩, rfl⟩
    · -- the write the writer is stuck on fails at its deadline
      have hc : c.closed = false := by simpa using hc
      obtain ⟨m, hm⟩ := Option.isSome_iff_exists.1 (Bool.and_eq_true_iff.1 ht).2
      have hw : w.writer = .writing m := by rw [h.writer hc, writerState, hm]
      exact ⟨_, .single (.writeFails w m hw), ⟨h.capacity, h.hungUp, h.offers, rfl, nofun, nofun,
        h.received, fun _ ↦ rfl⟩, rfl⟩
  · rw [if_neg ht]
    exact ⟨w, .refl, h, rfl⟩

/-- One call on a connection, with the messages it queued: a send, a `trySend`, the hangup,
or time passing. -/
inductive Call : Connection → List ByteArray → Connection → Prop
  | send (c : Connection) (msg : ByteArray) :
      Call c (if (c.send msg).2 = none then [msg] else []) (c.send msg).1
  | trySend (c : Connection) (msg : ByteArray) :
      Call c (if (c.trySend msg).2 then [msg] else []) (c.trySend msg).1
  | hangup (c : Connection) : Call c [] c.hangup
  | expire (c : Connection) : Call c [] c.expire

/-- Calls one after another, with the messages they queued, in order. -/
inductive Calls : Connection → List ByteArray → Connection → Prop
  | refl (c : Connection) : Calls c [] c
  | tail {c c' c'' : Connection} {A B : List ByteArray} :
      Calls c A c' → Call c' B c'' → Calls c (A ++ B) c''

variable {c' : Connection} {B : List ByteArray}

theorem Runs.call (h : Runs c w) (hc : Call c B c') :
    ∃ w', Wire.Steps w w' ∧ Runs c' w' ∧ w'.accepted = w.accepted ++ B := by
  cases hc with
  | send msg => exact h.send msg
  | trySend msg => exact h.trySend msg
  | hangup =>
    obtain ⟨w', hw', h', ha'⟩ := h.hangup
    exact ⟨w', hw', h', by rw [ha', List.append_nil]⟩
  | expire =>
    obtain ⟨w', hw', h', ha'⟩ := h.expire
    exact ⟨w', hw', h', by rw [ha', List.append_nil]⟩

theorem Runs.calls (h : Runs c w) (hcs : Calls c B c') :
    ∃ w', Wire.Steps w w' ∧ Runs c' w' ∧ w'.accepted = w.accepted ++ B := by
  induction hcs with
  | refl => exact ⟨w, .refl, h, by rw [List.append_nil]⟩
  | tail _ hcall ih =>
    obtain ⟨w1, hw1, h1, ha1⟩ := ih
    obtain ⟨w2, hw2, h2, ha2⟩ := h1.call hcall
    exact ⟨w2, hw1.trans hw2, h2, by rw [ha2, ha1, List.append_assoc]⟩

/-- A connection as the manager makes it is a fresh wire. -/
theorem runs_fresh (id : Nat) (remote : String) (capacity : Nat) (peerReads timesOut : Bool) :
    Runs { id, remote, capacity, peerReads, timesOut } (Wire.new capacity) :=
  ⟨rfl, rfl, rfl, rfl, fun _ ↦ rfl, fun _ ↦ rfl, rfl, fun _ ↦ rfl⟩

/-- **Every run of calls on a fresh connection is a schedule of the wire**, whose accepted
messages are those the calls report as queued. -/
theorem calls_are_wire_schedules {id : Nat} {remote : String} {capacity : Nat}
    {peerReads timesOut : Bool} (h : Calls { id, remote, capacity, peerReads, timesOut } B c) :
    ∃ w, Wire.Steps (Wire.new capacity) w ∧ Runs c w ∧ w.accepted = B :=
  (runs_fresh id remote capacity peerReads timesOut).calls h

/-- The far end of a connection has read the messages of a prefix of the successful calls, in
the order they were queued, each once. -/
theorem received_begins_accepted {id : Nat} {remote : String} {capacity : Nat}
    {peerReads timesOut : Bool} (h : Calls { id, remote, capacity, peerReads, timesOut } B c) :
    ∃ W, W <+: B ∧ c.received.data.toList = W.flatMap (·.data.toList) := by
  obtain ⟨w, hw, hr, rfl⟩ := calls_are_wire_schedules h
  exact ⟨w.written, (Wire.Steps.ordered hw (Wire.ordered_new capacity)).written_begins, hr.received⟩

end Connection

end LuaDebugger.Server
