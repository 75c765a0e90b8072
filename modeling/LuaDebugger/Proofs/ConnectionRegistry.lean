import LuaDebugger.Proofs.ConnectionSchedules
import Mathlib.Data.List.Nodup
/-!
# The registry of connections

The manager hands out connection numbers, registers connections, refuses them once closed,
offers program output to the registered ones and, when it closes, says goodbye to each and
waits for its writer. This module follows the manager through any sequence of its calls and
of the calls on its connections (`Manager.Call`, `Manager.run`).

* `Connection.Settled` is what a connection looks like between calls, its writer having gone
  as far as it can: a far end that reads has taken everything, an open writer holds a message
  whenever one is queued, and an open hung-up writer is in the middle of a write, for with
  nothing left it would have closed the connection. Every call keeps it.
* `Manager.Invariant` adds the manager's side, with the connections whose offer has its
  number and waits for the lock: the numbers handed out are `1, 2, …`, each once, refused
  connections included, and the connections are kept in the order of their numbers; a closed
  manager registers none; and a connection no longer registered was closed, or hung up with
  writes that have no deadline. Every call keeps it (`Manager.Invariant.apply`), and so do
  the two halves of an offer (`Invariant.take`, `Invariant.register`). With no offer waiting
  the connections are numbered `1, 2, …` in order (`Invariant.numbered_eq`).
* `Connection.Blocked`: a writer in the middle of a write that the far end never takes and
  that has no deadline waits for good, and so does `closeAll`, which waits for every writer.
  After `closeAll` every connection that was registered has been unregistered, offered the
  goodbye and hung up, and its writer has finished unless it is blocked so
  (`closeAll_registered`).
* `broadcast_eq_offerEach`: a broadcast is a `trySend` of the frame on each registered
  connection, one after another by rising number, counting those that took it.

Main statement: `Manager.registry_runs_keep_numbers_and_close_cleanly`.
-/

namespace LuaDebugger.Server

namespace Connection

/-! ### A connection between calls -/

/-- A connection as its writer leaves it between calls. -/
structure Settled (c : Connection) : Prop where
  capacity : 1 ≤ c.capacity
  reads : c.peerReads = true → c.queue = [] ∧ c.stuck = none
  takes : c.closed = false → c.stuck = none → c.queue = []
  hung : c.closed = false → c.hungUp = true → c.stuck.isSome = true
  shut : c.closed = true → c.queue = [] ∧ c.stuck = none

variable {c : Connection}

/-- The writer catching up leaves an open connection settled, whatever was queued or hung up
since, provided the queue holds a message and a far end that reads left the writer idle. -/
theorem settle_settled (hc : c.closed = false) (cap : 1 ≤ c.capacity)
    (idle : c.peerReads = true → c.stuck = none) : c.settle.Settled := by
  rw [settle, if_neg (by simp [hc])]
  by_cases hr : c.peerReads = true
  · -- a far end that reads takes the whole queue, and a hung-up writer then closes
    rw [if_pos hr]
    have hs := idle hr
    dsimp only
    split
    · exact ⟨cap, fun _ ↦ ⟨rfl, hs⟩, (fun h ↦ by cases h), (fun h ↦ by cases h), fun _ ↦ ⟨rfl, hs⟩⟩
    · next hh => exact ⟨cap, fun _ ↦ ⟨rfl, hs⟩, fun _ _ ↦ rfl,
        fun _ h ↦ absurd h (by simpa using hh), fun h ↦ absurd h (by simp [hc])⟩
  · rw [if_neg hr]
    dsimp only
    cases hs : c.stuck with
    | some m =>
      -- the writer keeps the message it holds, and the connection stays open
      simp only [hs, Option.isNone_some, Bool.and_false, Bool.false_and, Bool.false_eq_true,
        if_false]
      exact ⟨cap, fun h ↦ absurd h hr, fun _ h ↦ by simp [hs] at h, fun _ _ ↦ by simp [hs],
        fun h ↦ absurd h (by simp [hc])⟩
    | none =>
      cases hq : c.queue with
      | cons m rest =>
        -- the writer takes the first message
        simp only [Option.isNone_some, Bool.and_false, Bool.false_and, Bool.false_eq_true,
          if_false]
        exact ⟨cap, fun h ↦ absurd h hr, (fun _ h ↦ by cases h), fun _ _ ↦ rfl,
          fun h ↦ absurd h (by simp [hc])⟩
      | nil =>
        -- with nothing to write, a hung-up writer closes the connection
        simp only [hs, hq, Option.isNone_none, Bool.and_true, List.isEmpty_nil]
        split
        · exact ⟨cap, fun h ↦ absurd h hr, (fun h ↦ by cases h), (fun h ↦ by cases h),
            fun _ ↦ ⟨rfl, rfl⟩⟩
        · next hh => exact ⟨cap, fun h ↦ absurd h hr, fun _ _ ↦ hq,
            fun _ h ↦ absurd h (by simpa using hh), fun h ↦ absurd h (by simp [hc])⟩

/-! ### What each call does to a connection -/

/-- What a call keeps of a connection: its number, registration, far end, deadline and
capacity; and a connection once closed, or hung up, stays so. -/
structure Keeps (c d : Connection) : Prop where
  id : d.id = c.id
  registered : d.registered = c.registered
  peerReads : d.peerReads = c.peerReads
  timesOut : d.timesOut = c.timesOut
  capacity : d.capacity = c.capacity
  closed : c.closed = true → d.closed = true
  hungUp : c.hungUp = true → d.hungUp = true

theorem Keeps.refl (c : Connection) : Keeps c c := ⟨rfl, rfl, rfl, rfl, rfl, fun h ↦ h, fun h ↦ h⟩

theorem Keeps.trans {d e : Connection} (h₁ : Keeps c d) (h₂ : Keeps d e) : Keeps c e :=
  ⟨h₂.id.trans h₁.id, h₂.registered.trans h₁.registered, h₂.peerReads.trans h₁.peerReads,
    h₂.timesOut.trans h₁.timesOut, h₂.capacity.trans h₁.capacity,
    fun h ↦ h₂.closed (h₁.closed h), fun h ↦ h₂.hungUp (h₁.hungUp h)⟩

theorem keeps_settle (c : Connection) : Keeps c c.settle := by
  unfold settle
  split
  · exact Keeps.refl c
  · split
    · dsimp only
      split <;> exact ⟨rfl, rfl, rfl, rfl, rfl, fun h ↦ by simp_all, fun h ↦ h⟩
    · dsimp only
      split <;> split <;> exact ⟨rfl, rfl, rfl, rfl, rfl, fun h ↦ by simp_all, fun h ↦ h⟩

/-- A message queued on an open connection, the writer catching up. -/
theorem enqueue_settled (h : c.Settled) (hc : c.closed = false) (msg : ByteArray) :
    { c with queue := c.queue ++ [msg] }.settle.Settled :=
  settle_settled hc h.capacity fun hr ↦ (h.reads hr).2

theorem keeps_enqueue (c : Connection) (msg : ByteArray) :
    Keeps c { c with queue := c.queue ++ [msg] }.settle :=
  (⟨rfl, rfl, rfl, rfl, rfl, fun h ↦ h, fun h ↦ h⟩ : Keeps c { c with queue := c.queue ++ [msg] }).trans
    (keeps_settle _)

theorem closed_eq_false_of_refuses {c : Connection} (h : c.refuses = false) : c.closed = false := by
  simp only [refuses, Bool.or_eq_false_iff] at h
  exact h.1

theorem send_settled (h : c.Settled) (msg : ByteArray) : (c.send msg).1.Settled := by
  unfold send
  split
  · exact h
  · next hr =>
    split
    · exact enqueue_settled h (closed_eq_false_of_refuses (by simpa using hr)) msg
    · exact h

theorem keeps_send (c : Connection) (msg : ByteArray) : Keeps c (c.send msg).1 := by
  unfold send
  split
  · exact Keeps.refl c
  · split
    · exact keeps_enqueue c msg
    · exact Keeps.refl c

theorem trySend_settled (h : c.Settled) (msg : ByteArray) : (c.trySend msg).1.Settled := by
  unfold trySend
  split
  · exact h
  · next hr =>
    simp only [Bool.or_eq_true, not_or, Bool.not_eq_true] at hr
    exact enqueue_settled h (closed_eq_false_of_refuses hr.1) msg

theorem keeps_trySend (c : Connection) (msg : ByteArray) : Keeps c (c.trySend msg).1 := by
  unfold trySend
  split
  · exact Keeps.refl c
  · exact keeps_enqueue c msg

theorem hangup_settled (h : c.Settled) : c.hangup.Settled := by
  unfold hangup
  cases hc : c.closed with
  | true =>
    -- a closed connection stays as it is, hung up
    rw [settle, if_pos rfl]
    exact ⟨h.capacity, h.reads, (fun h ↦ by cases h), (fun h ↦ by cases h), fun _ ↦ h.shut hc⟩
  | false => exact settle_settled rfl h.capacity fun hr ↦ (h.reads hr).2

theorem keeps_hangup (c : Connection) : Keeps c c.hangup :=
  (⟨rfl, rfl, rfl, rfl, rfl, fun h ↦ h, fun _ ↦ rfl⟩ : Keeps c { c with hungUp := true }).trans
    (keeps_settle _)

theorem hungUp_hangup (c : Connection) : c.hangup.hungUp = true :=
  (keeps_settle { c with hungUp := true }).hungUp rfl

theorem close_settled (h : c.Settled) : c.close.Settled :=
  ⟨h.capacity, fun _ ↦ ⟨rfl, rfl⟩, nofun, nofun, fun _ ↦ ⟨rfl, rfl⟩⟩

theorem keeps_close (c : Connection) : Keeps c c.close :=
  ⟨rfl, rfl, rfl, rfl, rfl, fun _ ↦ rfl, fun h ↦ h⟩

theorem closed_close (c : Connection) : c.close.closed = true := rfl

theorem expire_settled (h : c.Settled) : c.expire.Settled := by
  unfold expire
  split
  · exact close_settled h
  · exact h

theorem keeps_expire (c : Connection) : Keeps c c.expire := by
  unfold expire
  split
  · exact keeps_close c
  · exact Keeps.refl c

/-! ### The writer catching up -/

/-- For a far end that does not read, the writer catching up keeps what waits to be written,
the message it holds first. -/
theorem pending_settle (hr : c.peerReads = false) :
    c.settle.stuck.toList ++ c.settle.queue = c.stuck.toList ++ c.queue := by
  unfold settle
  split
  · rfl
  · rw [if_neg (by simp [hr])]
    dsimp only
    cases hs : c.stuck <;> cases hq : c.queue <;> simp only [hs, hq] <;> split <;> simp [hs, hq]

/-- A writer catching up closes a connection only once it is hung up. -/
theorem closed_settle (hh : c.hungUp = false) : c.settle.closed = c.closed := by
  unfold settle
  split
  · rfl
  · dsimp only
    split
    · simp [hh]
    · cases hs : c.stuck <;> cases hq : c.queue <;> simp [hs, hq, hh]

/-- An open settled connection with something waiting to be written is in the middle of a
write. -/
theorem writing_of_pending (h : c.Settled) (hc : c.closed = false)
    (hp : c.stuck.toList ++ c.queue ≠ []) : c.stuck.isSome = true := by
  cases hs : c.stuck with
  | some _ => rfl
  | none => exact absurd (by simp [hs, h.takes hc hs]) hp


/-! ### Saying goodbye -/

/-- The writer is in the middle of a write that the far end never takes and that has no
deadline: it waits for good, and so does whoever waits for it to finish. -/
def Blocked (c : Connection) : Prop :=
  c.closed = false ∧ c.stuck.isSome = true ∧ c.peerReads = false ∧ c.timesOut = false

/-- An open connection whose far end does not read is in the middle of a write once it is
offered a message, whether it took the message or not. -/
theorem writing_trySend (h : c.Settled) (hc : c.closed = false) (hr : c.peerReads = false)
    (msg : ByteArray) :
    (c.trySend msg).1.closed = false ∧ (c.trySend msg).1.stuck.isSome = true := by
  unfold trySend
  split
  · next refused =>
    refine ⟨hc, ?_⟩
    -- an open connection refuses when it was hung up, or when its queue is full
    cases hh : c.hungUp
    · have full : c.capacity ≤ c.queue.length := by simpa [refuses, hc, hh] using refused
      have queued : c.queue ≠ [] := fun hq ↦ by
        have := h.capacity
        simp [hq] at full
        omega
      exact writing_of_pending h hc (by simp [queued])
    · exact h.hung hc hh
  · next room =>
    simp only [Bool.or_eq_true, not_or, Bool.not_eq_true] at room
    have hh : c.hungUp = false := by simpa [refuses, hc] using room.1
    have closed : ({ c with queue := c.queue ++ [msg] }).settle.closed = false :=
      (closed_settle (c := { c with queue := c.queue ++ [msg] }) hh).trans hc
    refine ⟨closed, writing_of_pending (enqueue_settled h hc msg) closed ?_⟩
    rw [pending_settle (c := { c with queue := c.queue ++ [msg] }) hr]
    simp

/-- Hanging up a connection in the middle of a write leaves the writer on it. -/
theorem writing_hangup (hc : c.closed = false) (hr : c.peerReads = false)
    (hs : c.stuck.isSome = true) : c.hangup.closed = false ∧ c.hangup.stuck.isSome = true := by
  obtain ⟨m, hm⟩ := Option.isSome_iff_exists.1 hs
  unfold hangup settle
  rw [if_neg (by simp [hc]), if_neg (by simp [hr])]
  simp [hm, hc]

/-- A hung-up connection whose far end reads is closed: the far end took everything. -/
theorem closed_hangup_of_reads (hr : c.peerReads = true) : c.hangup.closed = true := by
  unfold hangup settle
  by_cases hc : c.closed = true
  · rw [if_pos hc]
    exact hc
  · rw [if_neg hc, if_pos hr]
    simp

/-- Time passing on a connection does not look at whether it is registered. -/
theorem expire_unregister (c : Connection) :
    ({ c with registered := false } : Connection).expire = { c.expire with registered := false } := by
  simp only [expire]
  split <;> rfl

/-- **Saying goodbye**: a connection offered the goodbye, hung up and unregistered, and then
given time, has closed, unless its writer is blocked for good; and that happens exactly to an
open connection whose far end does not read and whose writes have no deadline. -/
theorem goodbye_closes_or_blocks (h : c.Settled) (msg : ByteArray) :
    let c' := ({ (c.trySend msg).1.hangup with registered := false } : Connection).expire
    (c'.closed = true ∨ c'.Blocked) ∧
      (c'.Blocked ↔ c.closed = false ∧ c.peerReads = false ∧ c.timesOut = false) := by
  intro c'
  have keeps := (keeps_trySend c msg).trans (keeps_hangup _)
  have expired : c' = ({ (c.trySend msg).1.hangup.expire with registered := false } : Connection) :=
    expire_unregister _
  cases hc : c.closed with
  | true =>
    -- a closed connection stays closed, and nothing is blocked
    have closed : c'.closed = true := by
      rw [expired]
      exact (keeps_expire _).closed (keeps.closed hc)
    exact ⟨.inl closed, by simp [Blocked, closed]⟩
  | false =>
    cases hr : c.peerReads with
    | true =>
      -- a far end that reads took everything, and the hung-up connection closed
      have closed : c'.closed = true := by
        rw [expired]
        exact (keeps_expire _).closed
          (closed_hangup_of_reads ((keeps_trySend c msg).peerReads.trans hr))
      exact ⟨.inl closed, by simp [Blocked, closed]⟩
    | false =>
      obtain ⟨tc, ts⟩ := writing_trySend h hc hr msg
      obtain ⟨dc, ds⟩ := writing_hangup tc ((keeps_trySend c msg).peerReads.trans hr) ts
      cases ht : c.timesOut with
      | true =>
        -- the write fails at its deadline and the writer closes the connection
        have closed : c'.closed = true := by
          simp only [c', expire, ds, keeps.timesOut, ht, Bool.and_self, if_true]
          rfl
        exact ⟨.inl closed, by simp [Blocked, closed]⟩
      | false =>
        -- with no deadline the writer waits for good on a far end that never reads
        have stays : c' = { (c.trySend msg).1.hangup with registered := false } := by
          simp only [c', expire, keeps.timesOut, ht, Bool.false_and, Bool.false_eq_true, if_false]
        have blocked : c'.Blocked := by
          rw [stays]
          exact ⟨dc, ds, keeps.peerReads.trans hr, keeps.timesOut.trans ht⟩
        exact ⟨.inr blocked, iff_of_true blocked ⟨rfl, rfl, rfl⟩⟩

/-- Unregistering a connection keeps it settled. -/
theorem Settled.unregister {c : Connection} (h : c.Settled) :
    ({ c with registered := false } : Connection).Settled :=
  ⟨h.capacity, h.reads, h.takes, h.hung, h.shut⟩

/-- A connection a call leaves unregistered was closed, or hung up with writes that have no
deadline, if it was so before. -/
theorem Keeps.released {c d : Connection} (h : Keeps c d)
    (hc : c.registered = false → c.closed = true ∨ (c.hungUp = true ∧ c.timesOut = false)) :
    d.registered = false → d.closed = true ∨ (d.hungUp = true ∧ d.timesOut = false) := by
  intro hd
  rcases hc (h.registered ▸ hd) with closed | ⟨hh, ht⟩
  · exact .inl (h.closed closed)
  · exact .inr ⟨h.hungUp hh, h.timesOut.trans ht⟩

end Connection

namespace Manager

/-! ### Calls on the manager -/

/-- A call on the manager, or on one of its connections by number. -/
inductive Call where
  /-- A client connects; its far end reads or not. -/
  | add (peerReads : Bool)
  | remove (id : Nat)
  | reopen
  | closeAll
  | broadcast (msg : ByteArray)
  | send (id : Nat) (msg : ByteArray)
  | trySend (id : Nat) (msg : ByteArray)
  | hangup (id : Nat)
  | close (id : Nat)
  /-- Time passes on a connection. -/
  | expire (id : Nat)

/-- The manager after a call. -/
def Call.apply : Call → Manager → Manager
  | .add peerReads, m => (m.add peerReads).1
  | .remove id, m => m.remove id
  | .reopen, m => m.reopen
  | .closeAll, m => m.closeAll
  | .broadcast msg, m => (m.broadcast msg).1
  | .send id msg, m => (m.act id (·.send msg)).1
  | .trySend id msg, m => (m.act id (·.trySend msg)).1
  | .hangup id, m => (m.act id fun c ↦ (c.hangup, ())).1
  | .close id, m => (m.act id fun c ↦ (c.close, ())).1
  | .expire id, m => (m.act id fun c ↦ (c.expire, ())).1

/-- The manager after calls, one after another. -/
def run (m : Manager) (calls : List Call) : Manager :=
  calls.foldl (fun m call ↦ call.apply m) m

/-! ### What a broadcast does -/

/-- A broadcast offers the frame to a registered connection and leaves the others alone. -/
def offer (frame : ByteArray) (c : Connection) : Connection :=
  if c.registered then (c.trySend frame).1 else c

/-- Whether a connection is registered and takes the frame offered to it. -/
def takes (frame : ByteArray) (c : Connection) : Bool := c.registered && (c.trySend frame).2

/-- A fold that appends each connection changed by `f` and counts those that satisfy `p`. -/
theorem foldl_append_count {step : List Connection × Nat → Connection → List Connection × Nat}
    (f : Connection → Connection) (p : Connection → Bool)
    (hstep : ∀ acc n c, step (acc, n) c = (acc ++ [f c], if p c then n + 1 else n))
    (l acc : List Connection) (n : Nat) :
    l.foldl step (acc, n) = (acc ++ l.map f, n + (l.filter p).length) := by
  induction l generalizing acc n with
  | nil => simp
  | cons c l ih =>
    rw [List.foldl_cons, hstep, ih]
    cases hp : p c <;> simp [hp]
    omega

/-- A broadcast offers the frame to every connection in turn, and counts those that took it. -/
theorem broadcast_eq (m : Manager) (msg : ByteArray) :
    m.broadcast msg =
      ({ m with conns := m.conns.map (offer (outputFrame ++ msg ++ "\n".toUTF8)) },
        (m.conns.filter (takes (outputFrame ++ msg ++ "\n".toUTF8))).length) := by
  unfold broadcast
  dsimp only
  rw [foldl_append_count (offer (outputFrame ++ msg ++ "\n".toUTF8))
    (takes (outputFrame ++ msg ++ "\n".toUTF8))]
  · simp
  · intro acc n c
    unfold offer takes
    cases c.registered <;> simp

@[simp]
theorem offer_of_registered {frame : ByteArray} {c : Connection} (hr : c.registered = true) :
    offer frame c = (c.trySend frame).1 := if_pos hr

@[simp]
theorem offer_of_unregistered {frame : ByteArray} {c : Connection} (hr : c.registered = false) :
    offer frame c = c := if_neg (by simp [hr])

/-! ### What holds between calls -/

/-- What holds of the manager between calls, while the offers of the connections `waiting`
have taken their numbers and wait for the lock. -/
structure Invariant (m : Manager) (waiting : List Connection) : Prop where
  /-- The numbers handed out, to the connections kept and to those waiting, are `1, 2, …` up
  to the last, each once. -/
  numbered : ((m.conns ++ waiting).map (·.id)).Perm (List.range' 1 m.lastId)
  ascending : (m.conns.map (·.id)).Pairwise (· ≤ ·)
  settled : ∀ c ∈ m.conns, c.Settled
  refusing : m.closed = true → ∀ c ∈ m.conns, c.registered = false
  released : ∀ c ∈ m.conns, c.registered = false →
    c.closed = true ∨ (c.hungUp = true ∧ c.timesOut = false)
  /-- A waiting connection is as it was built, and registered if its offer is taken. -/
  fresh : ∀ c ∈ waiting, c.Settled ∧ c.registered = true

variable {m : Manager} {ws : List Connection}

theorem invariant_new (queueSize : Int) (timesOut : Bool) :
    (new queueSize timesOut).Invariant [] :=
  ⟨List.Perm.refl _, List.Pairwise.nil, nofun, fun _ _ ↦ nofun, nofun, nofun⟩

/-- The connections have distinct numbers. -/
theorem Invariant.nodup (h : m.Invariant ws) : (m.conns.map (·.id)).Nodup := by
  have all := h.numbered.nodup_iff.2 List.nodup_range'
  rw [List.map_append] at all
  exact (List.nodup_append.1 all).1

/-- Every number kept is one handed out. -/
theorem Invariant.mem_range {c : Connection} (h : m.Invariant ws) (hc : c ∈ m.conns) :
    c.id ∈ List.range' 1 m.lastId :=
  h.numbered.subset (List.mem_map_of_mem (List.mem_append_left ws hc))

/-- The counter counts the offers, kept or waiting: with a 64-bit counter, a number is handed
out twice only after `2 ^ 64` offers. -/
theorem Invariant.lastId_eq_offers (h : m.Invariant ws) : m.lastId = (m.conns ++ ws).length := by
  simpa using h.numbered.length_eq.symm

/-- With no offer waiting, the connections are numbered `1, 2, …` in order. -/
theorem Invariant.numbered_eq (h : m.Invariant []) :
    m.conns.map (·.id) = List.range' 1 m.lastId :=
  List.Perm.eq_of_pairwise (fun _ _ _ _ h₁ h₂ ↦ Nat.le_antisymm h₁ h₂) h.ascending
    (List.Pairwise.imp Nat.le_of_lt List.pairwise_lt_range') (by simpa using h.numbered)

/-- Changing every connection by `f`, and closing the manager or not. -/
theorem Invariant.map (h : m.Invariant ws) (f : Connection → Connection) (shut : Bool)
    (ids : ∀ c ∈ m.conns, (f c).id = c.id)
    (settles : ∀ c ∈ m.conns, (f c).Settled)
    (refusing : shut = true → ∀ c ∈ m.conns, (f c).registered = false)
    (released : ∀ c ∈ m.conns, (f c).registered = false →
      (f c).closed = true ∨ ((f c).hungUp = true ∧ (f c).timesOut = false)) :
    ({ m with conns := m.conns.map f, closed := shut } : Manager).Invariant ws := by
  have same : (m.conns.map f).map (·.id) = m.conns.map (·.id) := by
    rw [List.map_map]
    exact List.map_congr_left fun c hc ↦ ids c hc
  refine ⟨?_, ?_, ?_, ?_, ?_, h.fresh⟩
  · show ((m.conns.map f ++ ws).map (·.id)).Perm (List.range' 1 m.lastId)
    rw [List.map_append, same, ← List.map_append]
    exact h.numbered
  · show ((m.conns.map f).map (·.id)).Pairwise (· ≤ ·)
    rw [same]
    exact h.ascending
  · intro c' hc'
    obtain ⟨c, hc, rfl⟩ := List.mem_map.1 hc'
    exact settles c hc
  · intro hs c' hc'
    obtain ⟨c, hc, rfl⟩ := List.mem_map.1 hc'
    exact refusing hs c hc
  · intro c' hc'
    obtain ⟨c, hc, rfl⟩ := List.mem_map.1 hc'
    exact released c hc

/-- Changing every connection by `f`, keeping what calls keep. -/
theorem Invariant.map_keeps (h : m.Invariant ws) (f : Connection → Connection)
    (keeps : ∀ c ∈ m.conns, Connection.Keeps c (f c))
    (settles : ∀ c ∈ m.conns, (f c).Settled) :
    ({ m with conns := m.conns.map f } : Manager).Invariant ws :=
  h.map f m.closed (fun c hc ↦ (keeps c hc).id) settles
    (fun hs c hc ↦ (keeps c hc).registered.trans (h.refusing hs c hc))
    (fun c hc ↦ (keeps c hc).released (h.released c hc))

/-- A change of the connection numbered `id` that keeps what calls keep. -/
theorem Invariant.update (h : m.Invariant ws) (id : Nat) (f : Connection → Connection)
    (keeps : ∀ c, Connection.Keeps c (f c)) (settles : ∀ c, c.Settled → (f c).Settled) :
    (m.update id f).Invariant ws := by
  refine h.map_keeps _ (fun c _ ↦ ?_) (fun c hc ↦ ?_)
  · split
    · exact keeps c
    · exact Connection.Keeps.refl c
  · split
    · exact settles c (h.settled c hc)
    · exact h.settled c hc

/-- Acting on a connection by number changes that connection, when the numbers are
distinct. -/
theorem act_fst {α : Type} (id : Nat) (f : Connection → Connection × α)
    (distinct : (m.conns.map (·.id)).Nodup) :
    (m.act id f).1 = m.update id fun c ↦ (f c).1 := by
  unfold act find?
  cases hf : m.conns.find? (·.id = id) with
  | none =>
    -- no connection has the number, so the update changes none
    have absent : ∀ c ∈ m.conns, ¬c.id = id := fun c hc heq ↦ by
      simpa [heq] using List.find?_eq_none.1 hf c hc
    show m = m.update id _
    unfold update
    rw [List.map_congr_left fun c hc ↦ if_neg (absent c hc), List.map_id']
  | some c₀ =>
    have found : c₀ ∈ m.conns ∧ c₀.id = id :=
      ⟨List.mem_of_find?_eq_some hf, by simpa using List.find?_some hf⟩
    show m.update id (fun _ ↦ (f c₀).1) = m.update id fun c ↦ (f c).1
    unfold update
    congr 1
    refine List.map_congr_left fun c hc ↦ ?_
    split
    · next heq =>
      -- the only connection with the number is the one found
      rw [List.inj_on_of_nodup_map distinct hc found.1 (heq.trans found.2.symm)]
    · rfl

/-! ### Each call keeps the invariant -/

/-- An offer taking its number: the connection built waits for the lock, with nothing queued
and room for a message. -/
theorem Invariant.take (h : m.Invariant ws) (peerReads : Bool) :
    (m.take peerReads).1.Invariant (ws ++ [(m.take peerReads).2]) := by
  have capacity : 1 ≤ (if m.queueSize ≤ 0 then 256 else m.queueSize.toNat) := by
    split <;> omega
  refine ⟨?_, h.ascending, h.settled, h.refusing, h.released, fun c hc ↦ ?_⟩
  · -- the new number is the one past the last
    show ((m.conns ++ (ws ++ [(m.take peerReads).2])).map (·.id)).Perm
      (List.range' 1 (m.lastId + 1))
    have hid : (m.take peerReads).2.id = m.lastId + 1 := rfl
    rw [← List.append_assoc, List.map_append, List.range'_concat, List.map_singleton]
    simpa [hid, Nat.add_comm] using h.numbered.append_right [m.lastId + 1]
  · rcases List.mem_append.1 hc with old | new
    · exact h.fresh c old
    · rw [List.mem_singleton.1 new]
      exact ⟨⟨capacity, fun _ ↦ ⟨rfl, rfl⟩, fun _ _ ↦ rfl, fun _ hh ↦ absurd hh Bool.false_ne_true,
        fun hc ↦ absurd hc Bool.false_ne_true⟩, rfl⟩

/-- Connections kept in the order of their numbers stay so with one more put in its place. -/
theorem ascending_merge {conns : List Connection} (asc : (conns.map (·.id)).Pairwise (· ≤ ·))
    (c : Connection) : ((conns.merge [c] (·.id ≤ ·.id)).map (·.id)).Pairwise (· ≤ ·) := by
  rw [List.map_merge (s := fun a b : Nat ↦ decide (a ≤ b)) fun _ _ _ _ ↦ rfl]
  have merged : ((conns.map (·.id)).merge [c.id] fun a b ↦ decide (a ≤ b)).Pairwise
      fun a b ↦ decide (a ≤ b) = true := List.pairwise_merge
    (fun _ _ _ h₁ h₂ ↦ by simp only [decide_eq_true_eq] at *; omega)
    (fun a b ↦ by simpa using Nat.le_total a b) _ _ (asc.imp fun h ↦ decide_eq_true h)
    (List.pairwise_singleton _ c.id)
  exact merged.imp fun h ↦ of_decide_eq_true h

/-- Putting a connection that was waiting among those kept, in the place of its number. -/
theorem Invariant.insert {W₁ W₂ : List Connection} {c : Connection}
    (h : m.Invariant (W₁ ++ c :: W₂)) (c' : Connection) (hid : c'.id = c.id) (hs : c'.Settled)
    (refused : m.closed = true → c'.registered = false)
    (released : c'.registered = false → c'.closed = true) :
    ({ m with conns := m.conns.merge [c'] (·.id ≤ ·.id) } : Manager).Invariant (W₁ ++ W₂) := by
  have kept : ∀ d ∈ m.conns.merge [c'] (·.id ≤ ·.id), d ∈ m.conns ∨ d = c' := fun d hd ↦ by
    simpa using List.mem_merge.1 hd
  refine ⟨?_, ascending_merge h.ascending c', fun d hd ↦ ?_, fun hc d hd ↦ ?_, fun d hd ↦ ?_,
    fun d hd ↦ h.fresh d ?_⟩
  · -- the number moves from the waiting connections to those kept
    have moved : ((m.conns.merge [c'] (·.id ≤ ·.id) ++ (W₁ ++ W₂)).map (·.id)).Perm
        ((m.conns ++ (W₁ ++ c :: W₂)).map (·.id)) := by
      refine (((List.merge_perm_append _).append_right _).map _).trans ?_
      simp only [List.map_append, List.map_cons, hid, List.append_assoc, List.singleton_append]
      exact List.perm_middle.symm.append_left _
    exact moved.trans h.numbered
  · rcases kept d hd with old | rfl
    · exact h.settled d old
    · exact hs
  · rcases kept d hd with old | rfl
    · exact h.refusing hc d old
    · exact refused hc
  · rcases kept d hd with old | rfl
    · exact h.released d old
    · exact fun hr ↦ .inl (released hr)
  · rcases List.mem_append.1 hd with d₁ | d₂
    · exact List.mem_append_left _ d₁
    · exact List.mem_append_right _ (List.mem_cons_of_mem c d₂)

/-- An offer that gets the lock: a closed manager keeps its connection closed and
unregistered, an open one registers it. -/
theorem Invariant.register {W₁ W₂ : List Connection} {c : Connection}
    (h : m.Invariant (W₁ ++ c :: W₂)) : (m.register c).1.Invariant (W₁ ++ W₂) := by
  have fresh := h.fresh c (List.mem_append_right _ List.mem_cons_self)
  unfold Manager.register
  rcases Bool.eq_false_or_eq_true m.closed with hc | hc
  · rw [if_pos hc]
    exact h.insert _ rfl (Connection.close_settled fresh.1).unregister (fun _ ↦ rfl) (fun _ ↦ rfl)
  · rw [if_neg (by simp [hc])]
    exact h.insert c rfl fresh.1 (by simp [hc]) (by simp [fresh.2])

theorem Invariant.add (h : m.Invariant ws) (peerReads : Bool) :
    (m.add peerReads).1.Invariant ws := by
  -- the offer registers the connection it has just built, the last one waiting
  have registered : ((m.take peerReads).1.register (m.take peerReads).2).1.Invariant (ws ++ []) :=
    (h.take peerReads).register
  rwa [List.append_nil] at registered

theorem Invariant.remove (h : m.Invariant ws) (id : Nat) : (m.remove id).Invariant ws := by
  -- a connection is either left alone, or closed and unregistered
  have either : ∀ c : Connection,
      (if c.id = id then (if c.registered then { c.close with registered := false } else c)
        else c) = c ∨
      (if c.id = id then (if c.registered then { c.close with registered := false } else c)
        else c) = { c.close with registered := false } := by
    intro c
    split_ifs <;> simp
  refine h.map _ m.closed (fun c _ ↦ ?_) (fun c hc ↦ ?_) (fun hs c hc ↦ ?_) (fun c hc ↦ ?_)
  · rcases either c with e | e <;> rw [e]
    exact (Connection.keeps_close c).id
  · rcases either c with e | e <;> rw [e]
    · exact h.settled c hc
    · exact (Connection.close_settled (h.settled c hc)).unregister
  · rcases either c with e | e <;> rw [e]
    exact h.refusing hs c hc
  · rcases either c with e | e <;> rw [e]
    · exact h.released c hc
    · exact fun _ ↦ .inl (Connection.closed_close c)

theorem Invariant.closeAll (h : m.Invariant ws) : m.closeAll.Invariant ws := by
  refine h.map _ true (fun c _ ↦ ?_) (fun c hc ↦ ?_) (fun _ c _ ↦ ?_) (fun c hc ↦ ?_) <;> dsimp only
  · split
    · exact (Connection.keeps_expire _).id.trans
        ((Connection.keeps_trySend c _).trans (Connection.keeps_hangup _)).id
    · exact (Connection.keeps_expire c).id
  · split
    · exact Connection.expire_settled
        (Connection.hangup_settled (Connection.trySend_settled (h.settled c hc) _)).unregister
    · exact Connection.expire_settled (h.settled c hc)
  · split
    · exact (Connection.keeps_expire _).registered
    · next hr => exact (Connection.keeps_expire c).registered.trans (by simpa using hr)
  · split
    · -- a connection said goodbye to is closed, or hung up with a writer that waits for good
      intro _
      rcases (Connection.goodbye_closes_or_blocks (h.settled c hc) shutdownFrame).1 with
        closed | blocked
      · exact .inl closed
      · exact .inr ⟨(Connection.keeps_expire _).hungUp (Connection.hungUp_hangup _),
          blocked.2.2.2⟩
    · exact (Connection.keeps_expire c).released (h.released c hc)

theorem Invariant.broadcast (h : m.Invariant ws) (msg : ByteArray) :
    (m.broadcast msg).1.Invariant ws := by
  rw [broadcast_eq]
  refine h.map_keeps _ (fun c _ ↦ ?_) (fun c hc ↦ ?_) <;> unfold offer <;> split
  · exact Connection.keeps_trySend c _
  · exact Connection.Keeps.refl c
  · exact Connection.trySend_settled (h.settled c hc) _
  · exact h.settled c hc

theorem Invariant.act {α : Type} (h : m.Invariant ws) (id : Nat)
    (f : Connection → Connection × α)
    (keeps : ∀ c, Connection.Keeps c (f c).1) (settles : ∀ c, c.Settled → (f c).1.Settled) :
    (m.act id f).1.Invariant ws := by
  rw [act_fst id f h.nodup]
  exact h.update id _ keeps settles

/-- **Every call keeps the invariant.** -/
theorem Invariant.apply (h : m.Invariant ws) : ∀ call : Call, (call.apply m).Invariant ws
  | .add peerReads => h.add peerReads
  | .remove id => h.remove id
  | .reopen => ⟨h.numbered, h.ascending, h.settled, nofun, h.released, h.fresh⟩
  | .closeAll => h.closeAll
  | .broadcast msg => h.broadcast msg
  | .send id msg => h.act id _ (Connection.keeps_send · msg) fun _ hc ↦ Connection.send_settled hc msg
  | .trySend id msg =>
    h.act id _ (Connection.keeps_trySend · msg) fun _ hc ↦ Connection.trySend_settled hc msg
  | .hangup id => h.act id _ Connection.keeps_hangup fun _ ↦ Connection.hangup_settled
  | .close id => h.act id _ Connection.keeps_close fun _ ↦ Connection.close_settled
  | .expire id => h.act id _ Connection.keeps_expire fun _ ↦ Connection.expire_settled

theorem Invariant.run (h : m.Invariant ws) (calls : List Call) : (m.run calls).Invariant ws := by
  induction calls generalizing m with
  | nil => exact h
  | cons call calls ih => exact ih (h.apply call)

/-! ### Numbers, refusals and goodbyes -/

/-- A number handed out is past every number handed out before. -/
theorem Invariant.add_fresh (h : m.Invariant ws) (peerReads : Bool) {id : Nat}
    (hid : (m.add peerReads).2 = some id) : ∀ c ∈ m.conns, c.id < id := by
  have number : id = m.lastId + 1 := by
    unfold Manager.add Manager.take Manager.register at hid
    dsimp only at hid
    split at hid <;> simp_all
  intro c hc
  have listed := h.mem_range hc
  rw [List.mem_range'_1] at listed
  omega

/-- A closed manager refuses a connection that gets the lock: it hands out no number, and
keeps the connection closed and unregistered. -/
theorem register_of_closed (hc : m.closed = true) (c : Connection) :
    (m.register c).2 = none ∧ ∃ c' ∈ (m.register c).1.conns,
      c'.id = c.id ∧ c'.closed = true ∧ c'.registered = false := by
  unfold Manager.register
  rw [if_pos hc]
  exact ⟨rfl, _, List.mem_merge_right _ (List.mem_singleton_self _), rfl, rfl, rfl⟩

/-- A closed manager refuses a connection: it hands out no number, and the connection, numbered
past the last, is closed and unregistered. -/
theorem add_of_closed (hc : m.closed = true) (peerReads : Bool) :
    (m.add peerReads).2 = none ∧ ∃ c ∈ (m.add peerReads).1.conns,
      c.id = m.lastId + 1 ∧ c.closed = true ∧ c.registered = false :=
  register_of_closed (m := (m.take peerReads).1) hc (m.take peerReads).2

/-- Closing all says goodbye to each registered connection: it is unregistered after being
offered the shutdown frame and hung up, and its writer has finished, leaving it closed, unless
it waits for good on a far end that never reads with no deadline. -/
theorem closeAll_registered (h : m.Invariant ws) {c : Connection} (hc : c ∈ m.conns)
    (reg : c.registered = true) :
    ∃ c' ∈ m.closeAll.conns, c'.id = c.id ∧ c'.registered = false ∧ c'.hungUp = true ∧
      (∃ c'', Connection.Calls c (if (c.trySend shutdownFrame).2 then [shutdownFrame] else [])
        c'' ∧ c' = { c'' with registered := false }) ∧
      (c'.closed = true ∨ c'.Blocked) ∧
      (c'.Blocked ↔ c.closed = false ∧ c.peerReads = false ∧ c.timesOut = false) := by
  have member : ({ (c.trySend shutdownFrame).1.hangup with registered := false } : Connection).expire
      ∈ m.closeAll.conns := by
    refine List.mem_map.2 ⟨c, hc, ?_⟩
    dsimp only
    rw [if_pos reg]
  have keeps := (Connection.keeps_trySend c shutdownFrame).trans (Connection.keeps_hangup _)
  -- the goodbye is a `trySend`, the hangup and the writer's last wait, on the connection
  have calls : Connection.Calls c (if (c.trySend shutdownFrame).2 then [shutdownFrame] else [])
      (c.trySend shutdownFrame).1.hangup.expire := by
    have run := ((Connection.Calls.refl c).tail (.trySend c shutdownFrame)).tail
      (.hangup _) |>.tail (.expire _)
    simpa only [List.nil_append, List.append_nil] using run
  refine ⟨_, member, (Connection.keeps_expire _).id.trans keeps.id,
    (Connection.keeps_expire _).registered, (Connection.keeps_expire _).hungUp
      (Connection.hungUp_hangup _), ⟨_, calls, ?_⟩,
    Connection.goodbye_closes_or_blocks (h.settled c hc) shutdownFrame⟩
  exact Connection.expire_unregister _

/-! ### Broadcasts in the order of the numbers -/

/-- Acting on one connection among others with distinct numbers changes that one alone. -/
theorem act_split {α : Type} (m : Manager) (D L : List Connection) (c : Connection)
    (f : Connection → Connection × α) (distinct : ((D ++ c :: L).map (·.id)).Nodup) :
    ({ m with conns := D ++ c :: L } : Manager).act c.id f =
      ({ m with conns := D ++ (f c).1 :: L }, some (f c).2) := by
  have alone : c.id ∉ (D ++ L).map (·.id) :=
    (List.nodup_cons.1 ((List.perm_middle.map (·.id : Connection → Nat)).nodup_iff.1 distinct)).1
  have others : ∀ d ∈ D ++ L, d.id ≠ c.id := fun d hd heq ↦
    alone (List.mem_map.2 ⟨d, hd, heq⟩)
  have found : (D ++ c :: L).find? (·.id = c.id) = some c := by
    rw [List.find?_append, List.find?_eq_none.2 fun d hd ↦ by
      simpa using others d (List.mem_append_left L hd)]
    simp
  unfold act find? update
  simp only [found]
  rw [List.map_append, List.map_cons, if_pos rfl,
    List.map_congr_left fun d hd ↦ if_neg (others d (List.mem_append_left L hd)),
    List.map_congr_left (l := L) fun d hd ↦ if_neg (others d (List.mem_append_right D hd)),
    List.map_id', List.map_id']

/-- Offering a frame, by number, to the connections registered, one after another, with
`trySend`, and counting those that took it. -/
def offerEach (frame : ByteArray) : List Nat → Manager × Nat → Manager × Nat
  | [], acc => acc
  | id :: ids, (m, n) =>
    let (m, took) := m.act id (·.trySend frame)
    offerEach frame ids (m, if took = some true then n + 1 else n)

/-- Offering the frame one by one to the registered connections after `D` offers it to each
of them. -/
theorem offerEach_eq (frame : ByteArray) (m : Manager) (D L : List Connection) (n : Nat)
    (distinct : ((D ++ L).map (·.id)).Nodup) :
    offerEach frame ((L.filter (·.registered)).map (·.id)) ({ m with conns := D ++ L }, n) =
      ({ m with conns := D ++ L.map (offer frame) }, n + (L.filter (takes frame)).length) := by
  induction L generalizing D n with
  | nil => simp [offerEach]
  | cons c L ih =>
    -- the connections offered the frame join `D`, with their numbers unchanged
    have next : ∀ d : Connection, d.id = c.id → ((D ++ [d] ++ L).map (·.id)).Nodup := by
      intro d hd
      simpa [hd] using distinct
    cases hr : c.registered with
    | false =>
      have skip := ih (D ++ [c]) n (next c rfl)
      rw [List.append_assoc, List.singleton_append, List.append_assoc,
        List.singleton_append] at skip
      rw [List.filter_cons_of_neg (by simp [hr]), List.filter_cons_of_neg (by simp [takes, hr]),
        List.map_cons, offer_of_unregistered hr]
      exact skip
    | true =>
      have offered := ih (D ++ [(c.trySend frame).1])
        (if (c.trySend frame).2 then n + 1 else n) (next _ (Connection.keeps_trySend c frame).id)
      rw [List.append_assoc, List.singleton_append, List.append_assoc,
        List.singleton_append] at offered
      rw [List.filter_cons_of_pos hr, List.map_cons, offerEach, act_split m D L c _ distinct]
      simp only [Option.some.injEq, offered, List.map_cons, offer_of_registered hr,
        List.filter_cons, takes, hr, Bool.true_and]
      cases (c.trySend frame).2 <;> simp
      omega

/-- The registered connections, in the order of their numbers. -/
theorem Invariant.registered_ascending (h : m.Invariant ws) :
    ((m.conns.filter (·.registered)).map (·.id)).Pairwise (· < ·) :=
  ((h.ascending.and h.nodup).imp fun ⟨le, ne⟩ ↦ Nat.lt_of_le_of_ne le ne).sublist
    ((List.filter_sublist (l := m.conns)).map _)

/-- A broadcast offers the output frame to the registered connections one by one, and counts
those that took it. -/
theorem Invariant.broadcast_eq_offerEach (h : m.Invariant ws) (msg : ByteArray) :
    m.broadcast msg = offerEach (outputFrame ++ msg ++ "\n".toUTF8)
      ((m.conns.filter (·.registered)).map (·.id)) (m, 0) := by
  have each := offerEach_eq (outputFrame ++ msg ++ "\n".toUTF8) m [] m.conns 0 h.nodup
  rw [List.nil_append, List.nil_append, Nat.zero_add] at each
  exact (broadcast_eq m msg).trans each.symm

/-- **The registry keeps its numbers and closes cleanly.** Over every run of calls on a new
manager, the connections are numbered from one to the last number handed out, in order, so no
number is handed out twice and a new one is past every number before. A closed manager has no
connection registered and refuses a new one, handing out no number and closing it. Closing all
says goodbye to every registered connection: it is unregistered after being offered the
shutdown frame and hung up, and closed unless its writer waits for good on a far end that
never reads. A broadcast offers the output frame to the registered connections one by one in
the order of their numbers, and counts those that took it. -/
theorem registry_runs_keep_numbers_and_close_cleanly (queueSize : Int) (timesOut : Bool)
    (calls : List Call) :
    let m := (new queueSize timesOut).run calls
    m.conns.map (·.id) = List.range' 1 m.lastId ∧
    (∀ peerReads id, (m.add peerReads).2 = some id → ∀ c ∈ m.conns, c.id < id) ∧
    (m.closed = true → (∀ c ∈ m.conns, c.registered = false) ∧
      ∀ peerReads, (m.add peerReads).2 = none ∧ ∃ c ∈ (m.add peerReads).1.conns,
        c.id = m.lastId + 1 ∧ c.closed = true ∧ c.registered = false) ∧
    (∀ c ∈ m.conns, c.registered = true →
      ∃ c' ∈ m.closeAll.conns, c'.id = c.id ∧ c'.registered = false ∧ c'.hungUp = true ∧
        (∃ c'', Connection.Calls c (if (c.trySend shutdownFrame).2 then [shutdownFrame] else [])
          c'' ∧ c' = { c'' with registered := false }) ∧
        (c'.closed = true ∨ c'.Blocked) ∧
        (c'.Blocked ↔ c.closed = false ∧ c.peerReads = false ∧ c.timesOut = false)) ∧
    ∀ msg, m.broadcast msg = offerEach (outputFrame ++ msg ++ "\n".toUTF8)
        ((m.conns.filter (·.registered)).map (·.id)) (m, 0) ∧
      ((m.conns.filter (·.registered)).map (·.id)).Pairwise (· < ·) := by
  intro m
  have h : m.Invariant [] := (invariant_new queueSize timesOut).run calls
  exact ⟨h.numbered_eq, fun peerReads _ hid ↦ h.add_fresh peerReads hid,
    fun hc ↦ ⟨h.refusing hc, add_of_closed hc⟩, fun _ hc reg ↦ closeAll_registered h hc reg,
    fun msg ↦ ⟨h.broadcast_eq_offerEach msg, h.registered_ascending⟩⟩

end Manager

end LuaDebugger.Server
