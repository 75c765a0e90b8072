import LuaDebugger.Proofs.ConnectionRegistry
/-!
# Offers that race for the registry's lock

An offer takes its number from an atomic counter (`Manager.take`) before it takes the
registry's lock to register its connection (`Manager.register`). In between, the goroutines of
other clients take numbers, register, send and broadcast, and the server may close the
registry. `Manager.Offers` is the registry with the connections whose offer has its number and
waits for the lock, and `Offers.act` takes one goroutine's step.

`Manager.Invariant` is stated with the waiting connections in it, and every step keeps it
(`Offers.Invariant.act`). Over every interleaving (`Offers.racing_offers_keep_their_numbers`):

* the numbers handed out, to the connections kept and to those waiting, are `1, 2, …` up to
  the last, each once, so none is handed out twice;
* a closed registry has no connection registered, and an offer that took its number before
  the registry closed is refused when it gets the lock, its connection closed;
* a broadcast offers the frame to the registered connections by rising number;
* closing all says goodbye to every registered connection as it does without races.

What the race does not keep is that a connection registered has a number past every
registered one: two offers may take their numbers and register in the other order
(`second_offer_registered_first`).
-/

namespace LuaDebugger.Server.Manager

/-- The registry, with the connections whose offer has taken its number and waits for the
lock, in the order they took their numbers. -/
structure Offers where
  manager : Manager
  waiting : List Connection := []

/-- A step of one goroutine. -/
inductive OfferStep where
  /-- An offer takes its number and builds its connection. -/
  | take (peerReads : Bool)
  /-- The `i`-th waiting offer takes the lock and registers its connection. -/
  | register (i : Nat)
  /-- Any other call, an offer made in one go included. -/
  | call (c : Call)

namespace Offers

/-- A new registry, with no offer waiting. -/
def start (queueSize : Int) (timesOut : Bool) : Offers := { manager := new queueSize timesOut }

/-- The registry after a step, or nothing when the step cannot be taken now. -/
def act (o : Offers) : OfferStep → Option Offers
  | .take peerReads =>
    some { manager := (o.manager.take peerReads).1,
           waiting := o.waiting ++ [(o.manager.take peerReads).2] }
  | .register i =>
    match o.waiting[i]? with
    | none => none
    | some c => some { manager := (o.manager.register c).1, waiting := o.waiting.eraseIdx i }
  | .call c => some { o with manager := c.apply o.manager }

/-- The registry after steps in order, or nothing when one of them cannot be taken. -/
def actAll (o : Offers) : List OfferStep → Option Offers
  | [] => some o
  | s :: ss => (o.act s).bind fun o ↦ o.actAll ss

/-- What holds between steps: the registry's invariant, the waiting connections counted. -/
def Invariant (o : Offers) : Prop := o.manager.Invariant o.waiting

theorem invariant_start (queueSize : Int) (timesOut : Bool) :
    (start queueSize timesOut).Invariant :=
  invariant_new queueSize timesOut

/-- The waiting connections around the `i`-th one. -/
theorem waiting_split {o : Offers} {i : Nat} (hi : i < o.waiting.length) :
    o.waiting.take i ++ o.waiting[i] :: o.waiting.drop (i + 1) = o.waiting := by
  rw [← List.drop_eq_getElem_cons hi, List.take_append_drop]

/-- **Every step keeps the invariant.** -/
theorem Invariant.act {o o' : Offers} (h : o.Invariant) :
    ∀ {s : OfferStep}, o.act s = some o' → o'.Invariant
  | .take peerReads, step => by
    cases step
    exact Manager.Invariant.take h peerReads
  | .register i, step => by
    unfold Offers.act at step
    cases hc : o.waiting[i]? with
    | none => simp [hc] at step
    | some c =>
      simp only [hc, Option.some.injEq] at step
      subst step
      obtain ⟨hi, rfl⟩ := List.getElem?_eq_some_iff.1 hc
      -- the offer registering is taken out from among the waiting ones
      have around : o.manager.Invariant
          (o.waiting.take i ++ o.waiting[i] :: o.waiting.drop (i + 1)) := by
        rw [waiting_split hi]
        exact h
      show (o.manager.register o.waiting[i]).1.Invariant (o.waiting.eraseIdx i)
      rw [List.eraseIdx_eq_take_drop_succ]
      exact around.register
  | .call c, step => by
    cases step
    exact Manager.Invariant.apply h c

theorem Invariant.actAll {o o' : Offers} (h : o.Invariant) :
    ∀ {steps : List OfferStep}, o.actAll steps = some o' → o'.Invariant
  | [], run => by
    cases run
    exact h
  | s :: ss, run => by
    unfold Offers.actAll at run
    cases hs : o.act s with
    | none => simp [hs] at run
    | some o₁ =>
      rw [hs, Option.bind_some] at run
      exact (h.act hs).actAll run

/-- **Offers that race keep their numbers.** Over every interleaving of offers taking their
numbers, offers registering and other calls on a new registry: the numbers handed out, to the
connections kept and to those waiting, are one to the last, each once. A closed registry has
no connection registered, and refuses each waiting offer when it gets the lock, closing its
connection. A broadcast offers the frame to the registered connections by rising number, and
closing all says goodbye to each registered connection: it is unregistered and hung up, and
closed unless its writer waits for good. -/
theorem racing_offers_keep_their_numbers (queueSize : Int) (timesOut : Bool)
    (steps : List OfferStep) {o : Offers} (run : (start queueSize timesOut).actAll steps = some o) :
    ((o.manager.conns ++ o.waiting).map (·.id)).Perm (List.range' 1 o.manager.lastId) ∧
    (o.manager.closed = true → (∀ c ∈ o.manager.conns, c.registered = false) ∧
      ∀ c ∈ o.waiting, (o.manager.register c).2 = none ∧ ∃ c' ∈ (o.manager.register c).1.conns,
        c'.id = c.id ∧ c'.closed = true ∧ c'.registered = false) ∧
    (∀ msg, o.manager.broadcast msg = offerEach (outputFrame ++ msg ++ "\n".toUTF8)
        ((o.manager.conns.filter (·.registered)).map (·.id)) (o.manager, 0)) ∧
    ((o.manager.conns.filter (·.registered)).map (·.id)).Pairwise (· < ·) ∧
    (∀ c ∈ o.manager.conns, c.registered = true →
      ∃ c' ∈ o.manager.closeAll.conns, c'.id = c.id ∧ c'.registered = false ∧
        c'.hungUp = true ∧ (c'.closed = true ∨ c'.Blocked)) := by
  have h : o.Invariant := (invariant_start queueSize timesOut).actAll run
  refine ⟨h.numbered, fun hc ↦ ⟨h.refusing hc, fun c _ ↦ register_of_closed hc c⟩,
    h.broadcast_eq_offerEach, h.registered_ascending, fun c hc reg ↦ ?_⟩
  obtain ⟨c', mem, id, unregistered, hungUp, -, finished, -⟩ := closeAll_registered h hc reg
  exact ⟨c', mem, id, unregistered, hungUp, finished⟩

/-- An offer that took its number before the registry closed gets the lock after: it is
refused. -/
theorem offer_overtaken_by_close_is_refused :
    ∃ o, (start 4 true).actAll [.take true, .call .closeAll] = some o ∧
      o.manager.closed = true ∧ ∃ c ∈ o.waiting, (o.manager.register c).2 = none := by
  obtain ⟨o, run⟩ : ∃ o, (start 4 true).actAll [.take true, .call .closeAll] = some o :=
    ⟨_, rfl⟩
  obtain ⟨-, refused, -⟩ := racing_offers_keep_their_numbers 4 true _ run
  have closed : o.manager.closed = true := by
    cases run
    rfl
  have waiting : o.waiting ≠ [] := by
    cases run
    simp
  obtain ⟨c, hc⟩ := List.exists_mem_of_ne_nil _ waiting
  exact ⟨o, run, closed, c, hc, ((refused closed).2 c hc).1⟩

/-- Two offers take their numbers and register in the other order: the connection numbered `2`
is registered while the one numbered `1` still waits, and then registers with the lower
number. -/
theorem second_offer_registered_first :
    ∃ o, (start 4 true).actAll [.take true, .take true, .register 1] = some o ∧
      (∃ d ∈ o.manager.conns, d.registered = true ∧ d.id = 2) ∧
      ∃ c ∈ o.waiting, (o.manager.register c).2 = some 1 := by
  refine ⟨_, rfl, ?_, ?_⟩ <;> simp [start, Manager.take, Manager.register, new]

end Offers

end LuaDebugger.Server.Manager
