import LuaDebugger.Config.Updates
import LuaDebugger.Proofs.ChangeDelivery
/-!
# Overlapping sets and reloads

Calls that overlap take the configuration's lock in turn, so together they edit the layers
as the same calls made one at a time would, in the order they took the lock. Their
deliveries are another matter. Each call delivers its own changes in its own order: the
block of deliveries it would make alone. But the blocks of calls that overlap interleave.
Only calls that do not overlap deliver exactly what the calls made one at a time deliver:
each of them commits after the calls before it have called all their observers. For those,
the last change a subscription got at a path tells the setting there
(`Store.last_change_tells_setting`). Calls that overlap can leave a subscription with a
stale last change: two sets of one path whose deliveries arrive in the opposite order.

* `Interleaving`: a list made of blocks, each block's elements in their order.
* `Edit.commit_frame`: a commit reads and writes the layers alone.
* `Updates.Inv`: what a run keeps; `Updates.Inv.act` is its step, `Updates.Inv.actAll` the
  whole run. `Updates.InOrder` is what a run of calls that do not overlap keeps besides.
-/

namespace LuaDebugger.Config

/-- `out` is the lists `blocks` interleaved: made of their elements, each list's in its
order. -/
inductive Interleaving {α : Type} : List (List α) → List α → Prop
  /-- Empty lists interleave to nothing. -/
  | empty (n : Nat) : Interleaving (List.replicate n []) []
  /-- An element put at the end of one list is put at the end of the interleaving. -/
  | snoc {blocks : List (List α)} {out : List α} {i : Nat} {b : List α} (x : α) :
      blocks[i]? = some b → Interleaving blocks out →
        Interleaving (blocks.set i (b ++ [x])) (out ++ [x])

/-- A new empty list changes no interleaving. -/
theorem Interleaving.append_nil {α : Type} {blocks : List (List α)} {out : List α}
    (h : Interleaving blocks out) : Interleaving (blocks ++ [[]]) out := by
  induction h with
  | empty n =>
    rw [← List.replicate_succ']
    exact .empty (n + 1)
  | @snoc blocks out i b x hb _ ih =>
    have hi : i < blocks.length := (List.getElem?_eq_some_iff.1 hb).1
    rw [← List.set_append_left i _ hi]
    exact .snoc x (by rw [List.getElem?_append_left hi]; exact hb) ih

/-- Putting an element at the end of the last of some lists puts it at the end of their
concatenation. -/
theorem flatten_set_last {α : Type} {b : List α} (x : α) :
    ∀ {blocks : List (List α)} {i : Nat}, blocks[i]? = some b → blocks.length = i + 1 →
      (blocks.set i (b ++ [x])).flatten = blocks.flatten ++ [x]
  | [], _, _, last => by simp at last
  | [c], 0, hb, _ => by simp_all
  | c :: d :: rest, i + 1, hb, last => by
    rw [List.set_cons_succ, List.flatten_cons, List.flatten_cons,
      flatten_set_last x (by simpa using hb) (by simpa using last), List.append_assoc]
  | _ :: _ :: _, 0, _, last => by simp at last
  | [_], _ + 1, _, last => by simp at last

/-- Setting an element of a list to itself leaves the list. -/
theorem set_self_of_getElem? {α : Type} {l : List α} {i : Nat} {a : α} (h : l[i]? = some a) :
    l.set i a = l := by
  obtain ⟨hi, rfl⟩ := List.getElem?_eq_some_iff.1 h
  exact List.set_getElem_self hi

namespace Edit

open Store

/-- The call an edit is, made alone: its commit, then its delivery. -/
def toCall : Edit → Store.Call
  | .set path v => .set path v
  | .reload fs => .reload fs

/-- **A commit reads and writes the layers alone**: its outcome and the layers it leaves do
not depend on what was delivered, which it keeps, and it touches nothing else. -/
theorem commit_frame (e : Edit) (t : Store) :
    ∃ r L, ∀ d : Array (Nat × Change),
      e.commit.run.run { t with delivered := d } = (r, { t with layers := L, delivered := d }) := by
  cases e with
  | set path v =>
    have read : ∀ d : Array (Nat × Change),
        ({ t with delivered := d } : Store).layerData .arguments = t.layerData .arguments :=
      fun _ ↦ rfl
    cases hset : ((t.layerData .arguments).getD []).set? path v with
    | none =>
      refine ⟨.error .invalidPath, t.layers, fun d ↦ ?_⟩
      simp only [Edit.commit, setCommit, run_bind, run_get, read, hset]
      rfl
    | some data =>
      refine ⟨(commitLayers .arguments (·.put ⟨.arguments, data⟩) t.loaded t.layers).1,
        (commitLayers .arguments (·.put ⟨.arguments, data⟩) t.loaded t.layers).2, fun d ↦ ?_⟩
      simp only [Edit.commit, setCommit, run_bind, run_get, read, hset, commit_run]
  | reload fs =>
    by_cases hp : t.path = ""
    · refine ⟨.ok [], t.layers, fun d ↦ ?_⟩
      simp only [Edit.commit, reloadCommit, run_bind, run_get, hp]
      rfl
    · cases hload : loadFile fs t.cwd t.path with
      | error f =>
        refine ⟨.error f, t.layers, fun d ↦ ?_⟩
        simp only [Edit.commit, reloadCommit, run_bind, run_get, hp, hload, lift_run, if_false]
      | ok data =>
        cases data with
        | none =>
          refine ⟨(commitLayers .file (fun L ↦ (L.remove .file).2) true t.layers).1,
            (commitLayers .file (fun L ↦ (L.remove .file).2) true t.layers).2, fun d ↦ ?_⟩
          simp only [Edit.commit, reloadCommit, run_bind, run_get, hp, hload, lift_run,
            if_false, commit_run]
        | some data =>
          refine ⟨(commitLayers .file (·.put ⟨.file, data⟩) true t.layers).1,
            (commitLayers .file (·.put ⟨.file, data⟩) true t.layers).2, fun d ↦ ?_⟩
          simp only [Edit.commit, reloadCommit, run_bind, run_get, hp, hload, lift_run,
            if_false, commit_run]

/-- An edit made alone is its commit, then the delivery of its changes. -/
theorem call_toCall (e : Edit) (t : Store) :
    t.call e.toCall = match e.commit.run.run t with
      | (.ok changes, t') =>
        { t' with delivered := t'.delivered ++ (routes t'.subscriptions changes).toArray }
      | (.error _, t') => t' := by
  cases e with
  | set path v =>
    simp only [toCall, call, Edit.commit, Store.setValue, run_bind]
    rcases (setCommit path v).run.run t with ⟨_ | _, t'⟩ <;> rfl
  | reload fs =>
    simp only [toCall, call, Edit.commit, Store.reload, run_bind]
    rcases (reloadCommit fs).run.run t with ⟨_ | _, t'⟩ <;> rfl

end Edit

namespace Updates

/-- The edits a run commits, in order. -/
def edits : List UpdateAction → List Edit
  | [] => []
  | .commit e :: as => e :: edits as
  | .notify _ :: as => edits as

/-- The deliveries each call that committed owes: its block, in its order. -/
def blocks (u : Updates) : List (List (Nat × Change)) :=
  u.handouts.map fun h ↦ routes u.store.subscriptions h.changes

/-- What each call that committed has delivered so far: the start of its block. -/
def told (u : Updates) : List (List (Nat × Change)) :=
  u.handouts.map fun h ↦ (routes u.store.subscriptions h.changes).take h.told

/-- A call has called all its observers. -/
def Done (u : Updates) (h : Handout) : Prop :=
  h.told = (routes u.store.subscriptions h.changes).length

/-- Every call that committed has called all its observers. -/
def Settled (u : Updates) : Prop := ∀ h ∈ u.handouts, u.Done h

/-- A run of calls that do not overlap: each commits only once the calls before it have
called all their observers. -/
def Serial : Updates → List UpdateAction → Prop
  | _, [] => True
  | u, .commit e :: as => u.Settled ∧ ∀ u', u.act (.commit e) = some u' → Serial u' as
  | u, .notify i :: as => ∀ u', u.act (.notify i) = some u' → Serial u' as

theorem told_eq_blocks {u : Updates} (settled : u.Settled) : u.told = u.blocks := by
  refine List.map_congr_left fun h mem ↦ ?_
  exact List.take_of_length_le (settled h mem).ge

/-- A commit, atomic under the lock. -/
theorem act_commit (u : Updates) (e : Edit) :
    u.act (.commit e) = some (match e.commit.run.run u.store with
      | (.ok changes, s) => { store := s, handouts := u.handouts ++ [{ changes }] }
      | (.error _, s) => { u with store := s }) := by
  simp only [act]
  rcases e.commit.run.run u.store with ⟨_ | _, s⟩ <;> rfl

/-- A call of an observer: the next delivery the call owes. -/
theorem act_notify {u u' : Updates} {i : Nat} (h : u.act (.notify i) = some u') :
    ∃ h d, u.handouts[i]? = some h ∧ (routes u.store.subscriptions h.changes)[h.told]? = some d ∧
      u' = { store := { u.store with delivered := u.store.delivered.push d }
             handouts := u.handouts.set i { h with told := h.told + 1 } } := by
  simp only [act] at h
  cases hh : u.handouts[i]? with
  | none => simp [hh] at h
  | some g =>
    simp only [hh] at h
    cases hd : (routes u.store.subscriptions g.changes)[g.told]? with
    | none => simp [hd] at h
    | some d =>
      simp only [hd, Option.some.injEq] at h
      exact ⟨g, d, rfl, hd, h.symm⟩

/-- What a run from `s` keeps, with `t` the store the edits committed so far leave when made
one at a time. But for the deliveries, the configuration's store is `t`; made one at a time,
the edits deliver each call's block after the other; and what was delivered is the start of
each block, interleaved. -/
structure Inv (s t : Store) (u : Updates) : Prop where
  store : ∃ d, u.store = { t with delivered := d }
  alone : t.delivered.toList = s.delivered.toList ++ u.blocks.flatten
  interleaved : ∃ out, u.store.delivered.toList = s.delivered.toList ++ out ∧
    Interleaving u.told out

theorem inv_start (s : Store) : Inv s s (start s) :=
  ⟨⟨s.delivered, rfl⟩, by simp [blocks, start], ⟨[], by simp [start], .empty 0⟩⟩

/-- **A commit keeps the invariant** with its edit made alone: it edits the store as the
edit made alone would, and owes the block that edit would deliver. -/
theorem Inv.commit {s t : Store} {u : Updates} (inv : Inv s t u) (e : Edit) :
    Inv s (t.call e.toCall) ((u.act (.commit e)).getD u) := by
  rcases u with ⟨store, handouts⟩
  obtain ⟨d, rfl⟩ := inv.store
  obtain ⟨out, hout, hint⟩ := inv.interleaved
  -- the commit sees the store the edits made alone leave, whatever was delivered
  obtain ⟨r, L, frame⟩ := e.commit_frame t
  have alone : e.commit.run.run t = (r, { t with layers := L }) := frame t.delivered
  rw [act_commit, frame, Edit.call_toCall, alone]
  rcases r with f | changes
  · exact ⟨⟨d, rfl⟩, inv.alone, out, hout, hint⟩
  · refine ⟨⟨d, rfl⟩, ?_, out, hout, ?_⟩
    · have alone := inv.alone
      simp only [blocks] at alone
      simp [blocks, alone]
    · simpa [told] using hint.append_nil

/-- **A call of an observer keeps the invariant**: it makes the next delivery its call
owes. -/
theorem Inv.notify {s t : Store} {u u' : Updates} (inv : Inv s t u) {i : Nat}
    (h : u.act (.notify i) = some u') : Inv s t u' := by
  obtain ⟨g, x, hg, hx, rfl⟩ := act_notify h
  obtain ⟨d, hd⟩ := inv.store
  obtain ⟨out, hout, hint⟩ := inv.interleaved
  -- the call's block is what it was; the start of it that was delivered grows by `x`
  have block : (u.handouts.map fun h ↦ routes u.store.subscriptions h.changes)[i]? =
      some (routes u.store.subscriptions g.changes) := by
    simp [hg]
  have start : u.told[i]? = some ((routes u.store.subscriptions g.changes).take g.told) := by
    simp [told, hg]
  refine ⟨⟨u.store.delivered.push x, by rw [hd]⟩, ?_, ⟨out ++ [x], by simp [hout], ?_⟩⟩
  · simpa [blocks, List.map_set, set_self_of_getElem? block] using inv.alone
  · simpa [told, List.map_set, List.take_add_one, hx] using hint.snoc x start

/-- **A run keeps the invariant**, with the edits it commits made alone. -/
theorem Inv.actAll {s t : Store} {u u' : Updates} (inv : Inv s t u) {acts : List UpdateAction}
    (h : u.actAll acts = some u') : Inv s (t.calls ((edits acts).map Edit.toCall)) u' := by
  induction acts generalizing t u with
  | nil =>
    cases h
    exact inv
  | cons a rest ih =>
    simp only [Updates.actAll, Option.bind_eq_some_iff] at h
    obtain ⟨u₁, h₁, h⟩ := h
    cases a with
    | commit e =>
      have inv₁ := inv.commit e
      rw [h₁, Option.getD_some] at inv₁
      exact ih inv₁ h
    | notify i => exact ih (inv.notify h₁) h

/-- What a run of calls that do not overlap keeps besides: every call that committed but the
last has called all its observers, and what was delivered is what each call delivered, one
call after the other. -/
structure InOrder (s : Store) (u : Updates) : Prop where
  earlier : ∀ j h, u.handouts[j]? = some h → j + 1 < u.handouts.length → u.Done h
  delivered : u.store.delivered.toList = s.delivered.toList ++ u.told.flatten

theorem inOrder_start (s : Store) : InOrder s (start s) :=
  ⟨fun _ _ h ↦ by simp [start] at h, by simp [start, told]⟩

/-- A commit of a call that waited for the calls before it keeps them in order. -/
theorem InOrder.commit {s : Store} {u : Updates} (order : InOrder s u) (settled : u.Settled)
    (e : Edit) : InOrder s ((u.act (.commit e)).getD u) := by
  rcases u with ⟨store, handouts⟩
  obtain ⟨r, L, frame⟩ := e.commit_frame store
  have here : e.commit.run.run store = (r, { store with layers := L }) := frame store.delivered
  rcases r with f | changes <;> simp only [act_commit, here, Option.getD_some]
  · exact ⟨order.earlier, order.delivered⟩
  · refine ⟨fun j h hj lt ↦ ?_, ?_⟩
    · have hj' : j < handouts.length := by simpa using lt
      rw [List.getElem?_append_left hj'] at hj
      exact settled h (List.mem_of_getElem? hj)
    · simpa [told] using order.delivered

/-- A call of an observer keeps the calls in order: only the last call can owe a
delivery. -/
theorem InOrder.notify {s : Store} {u u' : Updates} (order : InOrder s u) {i : Nat}
    (h : u.act (.notify i) = some u') : InOrder s u' := by
  obtain ⟨g, x, hg, hx, rfl⟩ := act_notify h
  have owes : g.told < (routes u.store.subscriptions g.changes).length :=
    (List.getElem?_eq_some_iff.1 hx).1
  -- the call that owes a delivery is the last
  have last : u.handouts.length = i + 1 := by
    have hi : i < u.handouts.length := (List.getElem?_eq_some_iff.1 hg).1
    by_cases lt : i + 1 < u.handouts.length
    · exact absurd (order.earlier i g hg lt) (by unfold Done; omega)
    · omega
  refine ⟨fun j h' hj lt ↦ ?_, ?_⟩
  · have ne : i ≠ j := by simp at lt; omega
    rw [List.getElem?_set, if_neg ne] at hj
    exact order.earlier j h' hj (by simpa using lt)
  · have start : u.told[i]? = some ((routes u.store.subscriptions g.changes).take g.told) := by
      simp [told, hg]
    have grown := flatten_set_last x start (by simpa [told] using last)
    simp only [told, List.map_set, List.take_add_one, hx, Option.toList_some] at grown ⊢
    simp [order.delivered, told, grown]

/-- A run of calls that do not overlap keeps them in order. -/
theorem InOrder.actAll {s : Store} {u u' : Updates} (order : InOrder s u)
    {acts : List UpdateAction} (serial : Serial u acts) (h : u.actAll acts = some u') :
    InOrder s u' := by
  induction acts generalizing u with
  | nil =>
    cases h
    exact order
  | cons a rest ih =>
    simp only [Updates.actAll, Option.bind_eq_some_iff] at h
    obtain ⟨u₁, h₁, h⟩ := h
    cases a with
    | commit e =>
      have order₁ := order.commit serial.1 e
      rw [h₁, Option.getD_some] at order₁
      exact ih order₁ (serial.2 u₁ h₁) h
    | notify i => exact ih (order.notify h₁) (serial u₁ h₁) h

/-- **Overlapping sets and reloads deliver what they would one at a time, interleaved.**
From any configuration, after any interleaving of the steps of sets and reloads that has
called all its observers: but for the deliveries, the configuration is the one the same
edits leave when made one at a time, in the order they took the lock; made so, they deliver
each call's block of changes after the other; and what was delivered is those blocks
interleaved, each in its order. When the calls do not overlap, what was delivered is the
blocks one after the other, so the configuration is the one the calls made one at a time
leave; from a configuration ready for calls, with plain inputs, the last change each
subscription got at a path it covers then tells the setting there. -/
theorem overlapping_updates_interleave_their_deliveries (s : Store) (acts : List UpdateAction)
    (u : Updates) (run : (start s).actAll acts = some u) (settled : u.Settled) :
    { u.store with delivered := (s.calls ((edits acts).map Edit.toCall)).delivered } =
        s.calls ((edits acts).map Edit.toCall) ∧
    (s.calls ((edits acts).map Edit.toCall)).delivered.toList =
        s.delivered.toList ++ u.blocks.flatten ∧
    (∃ out, u.store.delivered.toList = s.delivered.toList ++ out ∧ Interleaving u.blocks out) ∧
    (Serial (start s) acts → u.store = s.calls ((edits acts).map Edit.toCall) ∧
      (s.Ready → (∀ c ∈ (edits acts).map Edit.toCall, c.Plain s.cwd s.path) →
        ∀ id sub p, (id, sub) ∈ s.subscriptions → matchesPath sub p = true →
          s.Told u.store id p)) := by
  obtain ⟨⟨d, hd⟩, alone, out, hout, hint⟩ := (inv_start s).actAll run
  have told := told_eq_blocks settled
  refine ⟨by rw [hd], alone, ⟨out, hout, told ▸ hint⟩, fun serial ↦ ?_⟩
  -- in order, what was delivered is each block after the other, as made one at a time
  have order := (inOrder_start s).actAll serial run
  have delivered : u.store.delivered = (s.calls ((edits acts).map Edit.toCall)).delivered := by
    apply Array.toList_inj.1
    rw [order.delivered, alone, told]
  have same : u.store = s.calls ((edits acts).map Edit.toCall) := by
    have hd' : d = (s.calls ((edits acts).map Edit.toCall)).delivered := by
      rw [hd] at delivered
      exact delivered
    rw [hd, hd']
  refine ⟨same, fun ready inputs id sub p hsub hp ↦ ?_⟩
  rw [same]
  exact (Store.told_refl s id p).calls ready inputs ⟨sub, hsub, hp⟩

end Updates

/-- A configuration with one subscription, to `x`. -/
def subscribedToX : Store := { subscriptions := [(0, "x")], nextId := 1 }

/-- Two sets of `x`, `1` then `2`, whose deliveries arrive in the opposite order. -/
def setsDeliveredInReverse : List UpdateAction :=
  [.commit (.set "x" (.int 1)), .commit (.set "x" (.int 2)), .notify 1, .notify 0]

/-- Two overlapping sets of `x` whose deliveries arrive in the opposite order leave the
subscription to `x` with a last change that sets `1`, while the setting is `2`. -/
theorem sets_delivered_in_reverse_leave_a_stale_change :
    ∃ u, (Updates.start subscribedToX).actAll setsDeliveredInReverse = some u ∧ u.Settled ∧
      ¬ Updates.Serial (Updates.start subscribedToX) setsDeliveredInReverse ∧
      ((u.store.changesAt 0 "x").getLast?.map fun c ↦ (c.kind, c.new.same (.int 1))) =
        some (.set, true) ∧
      (u.store.merged.setting? "x").map (·.same (.int 2)) = some true ∧
      ({ u.store with delivered := (subscribedToX.calls
          ((Updates.edits setsDeliveredInReverse).map Edit.toCall)).delivered } =
        subscribedToX.calls ((Updates.edits setsDeliveredInReverse).map Edit.toCall) ∧
      (subscribedToX.calls ((Updates.edits setsDeliveredInReverse).map Edit.toCall)).delivered.toList =
        subscribedToX.delivered.toList ++ u.blocks.flatten ∧
      (∃ out, u.store.delivered.toList = subscribedToX.delivered.toList ++ out ∧
        Interleaving u.blocks out) ∧
      (Updates.Serial (Updates.start subscribedToX) setsDeliveredInReverse →
        u.store = subscribedToX.calls ((Updates.edits setsDeliveredInReverse).map Edit.toCall) ∧
        (subscribedToX.Ready → (∀ c ∈ (Updates.edits setsDeliveredInReverse).map Edit.toCall,
            c.Plain subscribedToX.cwd subscribedToX.path) →
          ∀ id sub p, (id, sub) ∈ subscribedToX.subscriptions → matchesPath sub p = true →
            subscribedToX.Told u.store id p))) := by
  -- the run, and the first commit on its own, evaluated
  have computed :
      ((Updates.start subscribedToX).act (.commit (.set "x" (.int 1)))).map
          (fun u ↦ u.handouts.all fun h ↦ h.told == (routes u.store.subscriptions h.changes).length) =
        some false ∧
      ((Updates.start subscribedToX).actAll setsDeliveredInReverse).map (fun u ↦
          (u.handouts.all fun h ↦ h.told == (routes u.store.subscriptions h.changes).length,
            (u.store.changesAt 0 "x").getLast?.map fun c ↦ (c.kind, c.new.same (.int 1)),
            (u.store.merged.setting? "x").map (·.same (.int 2)))) =
        some (true, some (.set, true), some true) := by
    decide +kernel
  obtain ⟨⟨u₁, first, busy⟩, ⟨u, run, hu⟩⟩ :=
    And.intro (Option.map_eq_some_iff.1 computed.1) (Option.map_eq_some_iff.1 computed.2)
  simp only [Prod.mk.injEq] at hu
  obtain ⟨settled, last, setting⟩ := hu
  have settled : u.Settled := fun h mem ↦ by
    simpa [Updates.Done] using List.all_eq_true.1 settled h mem
  -- the second set commits while the first still owes its delivery
  have overlapping : ¬ Updates.Serial (Updates.start subscribedToX) setsDeliveredInReverse := by
    rintro ⟨-, serial⟩
    obtain ⟨h, mem, owes⟩ := List.all_eq_false.1 busy
    exact absurd ((serial u₁ first).1 h mem) (by simpa [Updates.Done] using owes)
  exact ⟨u, run, settled, overlapping, last, setting,
    Updates.overlapping_updates_interleave_their_deliveries subscribedToX setsDeliveredInReverse
      u run settled⟩

end LuaDebugger.Config
