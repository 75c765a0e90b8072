import LuaDebugger.Server.Writer
import LuaDebugger.Server.Connection
/-!
# Everything queued before the hangup is written

Whatever order the calls, the hangup and the writer of a connection take their steps in
(`Wire.Step`), the socket takes the messages of the calls that succeeded, in the order they
entered the queue, each once; and once the connection is hung up, the writer closes it without
a failed write only after writing every message queued before the hangup.
`accepted_messages_written_in_order` says so, with what makes the guarantee more than an
implication: a hung-up connection whose writer has not closed it can always be run to a clean
close by the writer alone, all that was queued being written.

* `Ordered` is the invariant: the written messages begin the accepted ones, and until a write
  fails the accepted messages are exactly the written one, the one the writer holds and the
  queue. It holds of a fresh connection and every step keeps it (`Step.ordered`).
* `Delivers` ties the messages accepted at the hangup to the written ones at a clean close. It
  rests on `Ordered` at the clean close only: the writer closes cleanly only with nothing held
  and nothing queued, so that everything accepted is then written; and afterwards nothing is
  written any more (`Step.written_of_closed`).
* `drain_steps` is the writer emptying the queue one message at a time.
-/

namespace LuaDebugger.Server

namespace Wire

variable {w w' : Wire}

/-! ### What a step changes -/

/-- A step only ever adds accepted messages at the end. -/
theorem Step.accepted_grows (h : Step w w') : w.accepted <+: w'.accepted := by
  cases h with
  | accept => exact List.prefix_append _ _
  | _ => exact List.prefix_refl _

theorem Steps.accepted_grows (h : Steps w w') : w.accepted <+: w'.accepted := by
  induction h with
  | refl => exact List.prefix_refl _
  | tail _ hs ih => exact ih.trans hs.accepted_grows

/-- A writer that closed the connection stays closed and writes nothing more. -/
theorem Step.written_of_closed {b : Bool} (h : Step w w') (hw : w.writer = .closed b) :
    w'.writer = .closed b ∧ w'.written = w.written := by
  cases h with
  | take _ _ hw' | finish hw' => simp [hw] at hw'
  | write _ hw' | writeFails _ hw' => simp [hw] at hw'
  | _ => exact ⟨hw, rfl⟩

/-! ### The order of the written messages -/

/-- The written messages begin the accepted ones; until a write fails, the accepted messages
are the written ones, then the one the writer holds, then the queue; and a writer that closed
cleanly did so after the hangup. -/
structure Ordered (w : Wire) : Prop where
  written_begins : w.written <+: w.accepted
  split : w.writer ≠ .closed false → w.accepted = w.written ++ w.writer.held ++ w.queue
  hungUp_of_clean : w.writer = .closed true → w.hungUp = true

theorem ordered_new (capacity : Nat) : (new capacity).Ordered :=
  ⟨List.prefix_refl _, fun _ ↦ rfl, fun h ↦ by simp [new] at h⟩

/-- **Every step keeps the order.** Queueing adds at the end of the queue and of the accepted
messages; the writer moves the first queued message into its hands and then onto the socket. -/
theorem Step.ordered (h : Step w w') (hw : w.Ordered) : w'.Ordered := by
  obtain ⟨hpre, hsplit, hclean⟩ := hw
  cases h with
  | call | giveUp => exact ⟨hpre, hsplit, hclean⟩
  | hangup => exact ⟨hpre, hsplit, fun _ ↦ rfl⟩
  | accept o =>
    refine ⟨hpre.trans (List.prefix_append _ _), fun hc ↦ ?_, hclean⟩
    simp [hsplit hc]
  | take m rest hw hq =>
    refine ⟨hpre, fun _ ↦ ?_, fun h ↦ by simp at h⟩
    have h := hsplit (by simp [hw])
    simp [h, hw, hq, WriterState.held]
  | write m hw =>
    have h := hsplit (by simp [hw])
    rw [hw] at h
    refine ⟨⟨w.queue, by simp [h, WriterState.held]⟩, fun _ ↦ ?_, fun h ↦ by simp at h⟩
    simp [h, WriterState.held]
  | writeFails => exact ⟨hpre, fun hc ↦ absurd rfl hc, fun h ↦ by simp at h⟩
  | finish hw hh hq =>
    refine ⟨hpre, fun _ ↦ ?_, fun _ ↦ hh⟩
    have h := hsplit (by simp [hw])
    simp [h, hw, hq, WriterState.held]

theorem Steps.ordered (h : Steps w w') (hw : w.Ordered) : w'.Ordered := by
  induction h with
  | refl => exact hw
  | tail _ hs ih => exact hs.ordered ih

/-! ### Delivery at a clean close -/

/-- The messages `A` are accepted, and written once the writer closed cleanly. -/
def Delivers (A : List ByteArray) (w : Wire) : Prop :=
  A <+: w.accepted ∧ (w.writer = .closed true → A <+: w.written)

/-- **A clean close comes after everything accepted.** Closing cleanly needs nothing held and
nothing queued, so by `Ordered` all that was accepted is written; a closed writer writes no
more. -/
theorem Step.delivers {A : List ByteArray} (h : Step w w') (hw : w.Ordered)
    (hd : Delivers A w) : Delivers A w' := by
  obtain ⟨hA, hclean⟩ := hd
  refine ⟨hA.trans h.accepted_grows, fun hc ↦ ?_⟩
  cases hwr : w.writer with
  | closed b =>
    obtain ⟨hb, hwritten⟩ := h.written_of_closed hwr
    rw [hc] at hb
    cases hb
    rw [hwritten]
    exact hclean hwr
  | waiting | writing m =>
    -- only `finish` closes a writer cleanly, and it keeps the lists as they are
    cases h with
    | finish hw' _ hq =>
      have hsplit := hw.split (by simp [hw'])
      simp only [hw', WriterState.held, hq, List.append_nil] at hsplit
      rw [hsplit] at hA
      exact hA
    | take | write | writeFails => simp at hc
    | _ => simp [hwr] at hc

theorem Steps.delivers {A : List ByteArray} (h : Steps w w') (hw : w.Ordered)
    (hd : Delivers A w) : Delivers A w' := by
  induction h with
  | refl => exact hd
  | tail hs hstep ih => exact hstep.delivers (Steps.ordered hs hw) ih

/-! ### The writer can always finish -/

/-- A waiting writer writes the queue out, one message at a time. -/
theorem drain_steps (w : Wire) (hw : w.writer = .waiting) :
    Steps w { w with queue := [], written := w.written ++ w.queue } := by
  obtain ⟨capacity, queue, hungUp, writer, offers, written, accepted⟩ := w
  simp only at hw
  subst hw
  induction queue generalizing written with
  | nil => simpa using Relation.ReflTransGen.refl
  | cons m rest ih =>
    have htake : Step ⟨capacity, m :: rest, hungUp, .waiting, offers, written, accepted⟩
        ⟨capacity, rest, hungUp, .writing m, offers, written, accepted⟩ :=
      .take _ m rest rfl rfl
    have hwrite : Step ⟨capacity, rest, hungUp, .writing m, offers, written, accepted⟩
        ⟨capacity, rest, hungUp, .waiting, offers, written ++ [m], accepted⟩ :=
      .write _ m rfl
    have hrest := ih (written ++ [m])
    simp only [List.append_assoc, List.singleton_append] at hrest
    exact (Relation.ReflTransGen.single htake).trans
      ((Relation.ReflTransGen.single hwrite).trans hrest)

/-- A hung-up connection whose writer has not closed it is closed cleanly by the writer alone,
with everything accepted written. -/
theorem finish_steps (hw : w.Ordered) (hh : w.hungUp = true) (hc : w.writer.isClosed = false) :
    ∃ w', Steps w w' ∧ w'.writer = .closed true ∧ w'.written = w.accepted := by
  -- a writer still holding a message writes it first
  obtain ⟨v, hv, hvw, hvq, hvh, hva, hvwr⟩ : ∃ v, Steps w v ∧ v.writer = .waiting ∧
      v.queue = w.queue ∧ v.hungUp = w.hungUp ∧ v.accepted = w.accepted ∧
      v.written = w.written ++ w.writer.held := by
    cases hwr : w.writer with
    | waiting => exact ⟨w, .refl, hwr, rfl, rfl, rfl, by simp [WriterState.held]⟩
    | writing m =>
      exact ⟨_, .single (.write w m hwr), rfl, rfl, rfl, rfl, by simp [WriterState.held]⟩
    | closed b => simp [hwr, WriterState.isClosed] at hc
  have hsplit := hw.split (by intro h; simp [h, WriterState.isClosed] at hc)
  refine ⟨{ v with queue := [], written := v.written ++ v.queue, writer := .closed true },
    (hv.trans (drain_steps v hvw)).tail (.finish _ hvw (by rw [hvh, hh]) rfl), rfl, ?_⟩
  simp [hvwr, hvq, hsplit]

/-! ### The guarantee -/

/-- **The messages queued are written in order, and all of those queued before the hangup.**
On every connection the writer and its callers drive from a fresh one: the socket has taken a
prefix of the accepted messages, so each in the order it was queued and once; after the first
hangup, a writer that closes the connection without a failed write has written every message
accepted before the hangup; and a hung-up connection whose writer has not closed it can still
be closed that way by the writer alone, with everything accepted written. -/
theorem accepted_messages_written_in_order (capacity : Nat) (w : Wire)
    (hw : Steps (new capacity) w) :
    w.written <+: w.accepted ∧
    (w.hungUp = false → ∀ w', Steps { w with hungUp := true } w' →
      w'.writer = .closed true → w.accepted <+: w'.written) ∧
    (w.hungUp = true → w.writer.isClosed = false →
      ∃ w', Steps w w' ∧ w'.writer = .closed true ∧ w'.written = w.accepted) := by
  have hord := Steps.ordered hw (ordered_new capacity)
  refine ⟨hord.written_begins, fun hh w' hrun hclean ↦ ?_, fun hh hc ↦ finish_steps hord hh hc⟩
  -- before the first hangup the writer cannot have closed cleanly, nor can it after a failure
  have hstart : Delivers w.accepted { w with hungUp := true } := by
    refine ⟨List.prefix_refl _, fun hc ↦ ?_⟩
    have := hord.hungUp_of_clean hc
    rw [hh] at this
    cases this
  exact (Steps.delivers hrun ((Step.hangup w).ordered hord) hstart).2 hclean

/-- The goodbye `trySend` queues on a fresh connection before the hangup: whatever the writer
and any late calls do next, a clean close comes after the goodbye is written. -/
theorem goodbye_queued_before_hangup_is_written :
    let w : Wire := { capacity := 1, queue := [shutdownFrame], accepted := [shutdownFrame] }
    Steps (new 1) w ∧
    (w.written <+: w.accepted ∧
      (w.hungUp = false → ∀ w', Steps { w with hungUp := true } w' →
        w'.writer = .closed true → w.accepted <+: w'.written) ∧
      (w.hungUp = true → w.writer.isClosed = false →
        ∃ w', Steps w w' ∧ w'.writer = .closed true ∧ w'.written = w.accepted)) := by
  intro w
  have hrun : Steps (new 1) w :=
    (Relation.ReflTransGen.single (.call _ ⟨shutdownFrame, false⟩ rfl)).tail
      (.accept _ ⟨shutdownFrame, false⟩ (by simp) (by simp [new]))
  exact ⟨hrun, accepted_messages_written_in_order 1 w hrun⟩

end Wire

end LuaDebugger.Server
