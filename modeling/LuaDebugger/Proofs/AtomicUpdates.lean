import LuaDebugger.Proofs.ChangeDelivery
/-!
# A set or a reload takes whole or not at all

Setting a value and reloading the file each change one layer, merge, and validate; a change
that fails validation is taken back by putting back the layer the source had, or dropping it
when it had none. This module proves that a failed call leaves no trace a reader can see, and
that a call that takes hands each subscription exactly its share of the diff.

* `routes_to`: with subscriptions of distinct numbers, delivering changes hands a subscription
  exactly the changes its path covers, in their order, and nothing to a number no
  subscription has.
* `Store.Numbered`: subscribing and unsubscribing keep the numbers of the subscriptions
  distinct, the condition under which `routes_to` reads deliveries per subscription.
* `Store.Edits`: what an edit of one layer promises, by its outcome; `Store.update_edits`
  proves it of every change of a layer that keeps the cache sound and that putting back the
  previous layer undoes, from a configuration whose layers rank by strictly rising priority.
* `Store.set_and_reload_take_whole_or_not_at_all`: setting a value and reloading the file
  keep that promise, except a reload with no configuration file, which returns at once.
  Since a NaN setting differs from itself, that early return can skip a diff that is not
  empty (`Store.reload_without_file_skips_a_nan_change`).
-/

namespace LuaDebugger.Config

/-! ### Deliveries to one subscription -/

/-- In subscriptions of distinct numbers, the entries with a number are the one it finds. -/
theorem filter_id_eq {subs : List (Nat × String)} (ids : (subs.map (·.1)).Nodup) (id : Nat) :
    subs.filter (·.1 == id) = match subs.lookup id with
      | some sub => [(id, sub)]
      | none => [] := by
  induction subs with
  | nil => rfl
  | cons e rest ih =>
    obtain ⟨i, p⟩ := e
    rw [List.map_cons, List.nodup_cons] at ids
    rw [List.filter_cons, List.lookup_cons, ih ids.2]
    by_cases hi : i = id
    · subst hi
      -- no later entry has the number
      have absent : rest.lookup i = none :=
        List.lookup_eq_none_iff.2 fun e he ↦
          bne_iff_ne.2 fun heq ↦ ids.1 (List.mem_map.2 ⟨e, he, heq.symm⟩)
      simp [absent]
    · have hi' : (id == i) = false := beq_eq_false_iff_ne.2 (Ne.symm hi)
      simp [hi, hi']

/-- The entries of a change's delivery that go to one number: the change, when the
subscription with that number covers its path. -/
theorem routes_one_to {subs : List (Nat × String)} (ids : (subs.map (·.1)).Nodup) (c : Change)
    (id : Nat) :
    ((((subs.filter fun e ↦ matchesPath e.2 c.path).map fun e ↦ (e.1, c)).filter
        (·.1 == id)).map (·.2)) = match subs.lookup id with
      | some sub => if matchesPath sub c.path then [c] else []
      | none => [] := by
  rw [List.filter_map, List.map_map, List.filter_filter]
  have swap : (subs.filter fun e ↦ (e.1 == id) && matchesPath e.2 c.path) =
      (subs.filter (·.1 == id)).filter fun e ↦ matchesPath e.2 c.path := by
    rw [List.filter_filter]
    exact List.filter_congr fun e _ ↦ Bool.and_comm _ _
  simp only [Function.comp_def]
  rw [swap, filter_id_eq ids]
  cases subs.lookup id with
  | none => rfl
  | some sub => by_cases hm : matchesPath sub c.path <;> simp [hm]

/-- **What one subscription is handed.** With subscriptions of distinct numbers, delivering
changes hands subscription `id` exactly the changes its path covers, in their order, and
nothing to a number that no subscription has. -/
theorem routes_to {subs : List (Nat × String)} (ids : (subs.map (·.1)).Nodup) (cs : List Change)
    (id : Nat) :
    ((routes subs cs).filter (·.1 == id)).map (·.2) = match subs.lookup id with
      | some sub => cs.filter fun c ↦ matchesPath sub c.path
      | none => [] := by
  induction cs with
  | nil => cases subs.lookup id <;> rfl
  | cons c cs ih =>
    rw [routes, List.flatMap_cons, ← routes, List.filter_append, List.map_append, ih]
    rw [routes_one_to ids c id]
    cases subs.lookup id with
    | none => rfl
    | some sub => by_cases hm : matchesPath sub c.path <;> simp [hm]

namespace Store

/-! ### Subscriptions have distinct numbers -/

/-- The subscriptions of a configuration have distinct numbers, each below the number the
next subscription gets. -/
structure Numbered (s : Store) : Prop where
  nodup : (s.subscriptions.map (·.1)).Nodup
  below : ∀ e ∈ s.subscriptions, e.1 < s.nextId

/-- Subscribing hands out a number no subscription has. -/
theorem Numbered.subscribe {s : Store} (h : s.Numbered) (path : String) :
    ((subscribe path).run.run s).2.Numbered := by
  show Numbered
    { s with
      subscriptions := s.subscriptions ++ [(s.nextId, path)]
      nextId := s.nextId + 1 }
  constructor
  · -- the new number is above every number taken
    simp only [List.map_append, List.nodup_append, List.map_cons, List.map_nil]
    refine ⟨h.nodup, List.nodup_singleton _, ?_⟩
    intro a ha b hb
    obtain ⟨e, he, rfl⟩ := List.mem_map.1 ha
    rw [List.mem_singleton.1 hb]
    exact Nat.ne_of_lt (h.below e he)
  · intro e he
    rcases List.mem_append.1 he with he | he
    · exact Nat.lt_succ_of_lt (h.below e he)
    · rw [List.mem_singleton.1 he]
      exact Nat.lt_succ_self _

/-- Ending a subscription keeps the numbers of the others. -/
theorem Numbered.unsubscribe {s : Store} (h : s.Numbered) (id : Nat) :
    ((unsubscribe id).run.run s).2.Numbered :=
  ⟨h.nodup.sublist (List.filter_sublist.map _),
    fun e he ↦ h.below e (List.mem_of_mem_filter he)⟩

/-! ### What an edit of one layer promises -/

/-- What an edit of the layer of `source` promises, by its outcome from `s`. A failed edit
leaves the layers as they were, every layer with its source, settings and place, so the
merged settings too, and hands nothing to any subscription. An edit that takes hands each
subscription exactly the changes of the diff of the merged settings that its path covers, in
the order of the diff, and nothing to a number no subscription has. Either way the cache
stays sound. -/
def Edits (source : Source) (s : Store) : Except ConfigFault Unit × Store → Prop
  | (.error _, s') => s'.layers.layers = s.layers.layers ∧ s'.merged = s.merged ∧
      s'.delivered = s.delivered ∧ s'.layers.Sound
  | (.ok (), s') => s'.layers.Sound ∧ ∃ sent : List (Nat × Change), s'.delivered = s.delivered ++ sent.toArray ∧
      ∀ id, (sent.filter (·.1 == id)).map (·.2) = match s.subscriptions.lookup id with
        | some sub => (diff s.merged s'.merged source).filter fun c ↦ matchesPath sub c.path
        | none => []

/-- A call that fails before it changes anything keeps the promise. -/
theorem edits_of_unchanged {source : Source} {s : Store} (sound : s.layers.Sound)
    (f : ConfigFault) : Edits source s (.error f, s) :=
  ⟨rfl, rfl, rfl, sound⟩

/-- **An edit of one layer keeps the promise**, for every change of the layer of `source`
that keeps the cache sound and that putting back the previous layer of `source` undoes, from
a configuration whose cache is sound and whose subscriptions have distinct numbers. -/
theorem update_edits {s : Store} (sound : s.layers.Sound) (ids : (s.subscriptions.map (·.1)).Nodup)
    {source : Source} {change : LayerSet → LayerSet}
    (keeps : ∀ L : LayerSet, L.Sound → (change L).Sound)
    (undoes : ∀ L : LayerSet, LayerSet.Ascending L.layers →
      (match (L.get source).map Layer.data with
        | some d => (change L).put ⟨source, d⟩
        | none => ((change L).remove source).2).layers = L.layers)
    (checked : Bool) : Edits source s ((update source change checked).run.run s) := by
  have sound₁ := sound.merge
  have sound₂ := keeps _ sound₁
  -- the edit taken: the diff of the merged settings is delivered
  have taken : Edits source s (.ok (),
      { s with
        layers := (change s.layers.merge.2).merge.2
        delivered := s.delivered ++ (routes s.subscriptions
          (diff s.layers.merge.1 (change s.layers.merge.2).merge.1 source)).toArray }) := by
    refine ⟨sound₂.merge, _, rfl, fun id ↦ ?_⟩
    rw [routes_to ids]
    simp only [merged, sound.merge_fst, sound₂.merge_fst, LayerSet.merge_layers]
  rw [update_run]
  rcases commitLayers_cases source change checked s.layers with ⟨f, -, -, h⟩ | ⟨-, h⟩
  · -- a failed validation puts the layer back as it was
    simp only [h]
    have restored := LayerSet.restore_after_merge s.layers sound.ascending undoes
    refine ⟨restored, congrArg LayerSet.mergeAll restored, rfl, ?_⟩
    split
    · exact sound₂.merge.put _
    · exact sound₂.merge.remove _
  · simp only [h]
    exact taken

/-- **Setting a value** keeps the promise of an edit of the command line's layer. -/
theorem setValue_edits {s : Store} (sound : s.layers.Sound)
    (ids : (s.subscriptions.map (·.1)).Nodup) (path : String) (v : Datum) :
    Edits .arguments s ((setValue path v).run.run s) := by
  rw [setValue_run]
  cases ((s.layerData .arguments).getD []).set? path v with
  | none => exact edits_of_unchanged sound _
  | some data =>
    exact update_edits sound ids (fun _ h ↦ h.put _) (LayerSet.revert_put data) _

/-- **Reloading the file**, when there is one, keeps the promise of an edit of the file's
layer. -/
theorem reload_edits {s : Store} (sound : s.layers.Sound)
    (ids : (s.subscriptions.map (·.1)).Nodup) (fs : FileSystem) (hp : s.path ≠ "") :
    Edits .file s ((reload fs).run.run s) := by
  rw [reload_run, if_neg hp]
  cases loadFile fs s.cwd s.path with
  | error f => exact edits_of_unchanged sound f
  | ok data =>
    cases data with
    | none => exact update_edits sound ids (fun _ h ↦ h.remove _) (LayerSet.revert_remove .file) true
    | some d => exact update_edits sound ids (fun _ h ↦ h.put _) (LayerSet.revert_put d) true

/-- A reload with no configuration file returns at once and changes nothing. -/
theorem reload_without_file {s : Store} (fs : FileSystem) (hp : s.path = "") :
    (reload fs).run.run s = (.ok (), s) := by
  rw [reload_run, if_pos hp]

/-- **A set or a reload takes whole or not at all.** From a configuration whose layers rank by
strictly rising priority with a sound cache, and whose subscriptions have distinct numbers
(`Store.Numbered`): when setting a value or reloading the file fails,
the layers are exactly as they were, so is every setting read from them, and no subscription
is handed anything. When the call succeeds, each subscription is handed exactly the changes
of the diff from the merged settings before to those after, caused by the source of the
layer, that its path covers, in path order, and no other subscription anything. A reload
with no configuration file is the exception: it returns at once, changing nothing and
handing nothing out. -/
theorem set_and_reload_take_whole_or_not_at_all (s : Store) (sound : s.layers.Sound)
    (ids : (s.subscriptions.map (·.1)).Nodup) :
    (∀ path v, Edits .arguments s ((setValue path v).run.run s)) ∧
    (∀ fs, s.path ≠ "" → Edits .file s ((reload fs).run.run s)) ∧
    (∀ fs, s.path = "" → (reload fs).run.run s = (.ok (), s)) :=
  ⟨setValue_edits sound ids, fun fs hp ↦ reload_edits sound ids fs hp,
    fun fs hp ↦ reload_without_file fs hp⟩

/-- A fresh configuration with two subscriptions, one to every setting and one to those of
the server, meets the conditions. -/
theorem fresh_store_edits_whole_or_not_at_all :
    let s : Store := { subscriptions := [(0, ""), (1, "server")], nextId := 2 }
    (∀ path v, Edits .arguments s ((setValue path v).run.run s)) ∧
    (∀ fs, s.path ≠ "" → Edits .file s ((reload fs).run.run s)) ∧
    (∀ fs, s.path = "" → (reload fs).run.run s = (.ok (), s)) :=
  set_and_reload_take_whole_or_not_at_all _ LayerSet.sound_empty (by decide)

/-- With no configuration file and a NaN set on the command line, a reload returns at once
and hands nothing out, though the diff of the merged settings with themselves, NaN differing
from itself, is not empty: the subscription to every setting is not handed it. -/
theorem reload_without_file_skips_a_nan_change :
    let s : Store :=
      { layers := { layers := [⟨.arguments, [("x", .float (0 / 0))]⟩] }
        subscriptions := [(0, "")]
        nextId := 1 }
    (reload {}).run.run s = (.ok (), s) ∧ diff s.merged s.merged .file ≠ [] ∧
      ¬ Edits .file s ((reload {}).run.run s) := by
  intro s
  have quiet : (reload {}).run.run s = (.ok (), s) := reload_without_file _ rfl
  have merged : s.merged = [("x", .float (0 / 0))] := by
    simp [s, merged, LayerSet.mergeAll, Tree.merge, Datum.insertEntry]
  have nan : Datum.same (.float (0 / 0)) (.float (0 / 0)) = false := by decide
  have changed : diff s.merged s.merged .file =
      [⟨"x", .set, .float (0 / 0), .float (0 / 0), .file⟩] := by
    rw [merged]
    simp [diff, Tree.flatten, Tree.flattenUnder, Tree.joinKey, Datum.lookup, nan]
  refine ⟨quiet, by simp [changed], ?_⟩
  -- nothing was delivered, yet the subscription to every setting is owed the change
  rw [quiet]
  rintro ⟨-, sent, same, routed⟩
  have none_sent : sent = [] := by simpa using same
  have owed := routed 0
  simp [none_sent, s, changed, matchesPath] at owed

end Store

end LuaDebugger.Config
