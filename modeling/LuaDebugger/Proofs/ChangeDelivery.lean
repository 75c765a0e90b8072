import Mathlib.Logic.Relation
import LuaDebugger.Proofs.SettingPaths
import LuaDebugger.Proofs.LayerCache
/-!
# What subscriptions are told

Setting a value and reloading the file each compare the merged settings before and after and
deliver the changes, path by path, to the subscriptions that cover them. This module proves
what a subscription has been told after any sequence of such calls, watcher events included.

* `diff_filter_path`: a diff holds at most one change per path, a set when the path has a
  setting afterwards that differs from the one before, and a delete when it lost its
  setting. Settings are flattened values, so a path that comes to hold a map is deleted.
* `routes_at`: delivery hands a change at a path to every subscription that covers the path.
* `update_steps`, `call_steps`: each call either leaves the merged settings and the deliveries
  as they were, a failed call taking its change back, or delivers the diff of the merged
  settings. The layers stay plain and the cache sound.
* `last_change_tells_setting`: over every sequence of calls, the last change a subscription
  got at a path tells the setting there now, up to values that compare alike; without one,
  the setting is alike to what it was. A setting is a value that is not a map, so a path
  that comes to hold a map is told a delete.
-/

namespace LuaDebugger.Config

/-! ### Telling a setting -/

/-- Values that diffs cannot tell apart: linked by a chain of deep comparisons. -/
def Datum.Alike : Datum → Datum → Prop := Relation.ReflTransGen fun a b ↦ Datum.same a b = true

/-- A change tells a setting: a set of a value alike to it, or a delete when there is none. -/
def Change.Tells (c : Change) (setting : Option Datum) : Prop :=
  match c.kind with
  | .set => ∃ v, setting = some v ∧ Datum.Alike c.new v
  | .delete => setting = none

/-- Settings alike: both absent, or both there with values alike. -/
theorem alike_setting_refl (a : Option Datum) : Option.Rel Datum.Alike a a := by
  cases a with
  | none => exact .none
  | some v => exact .some .refl

theorem alike_setting_trans {a b c : Option Datum} (h : Option.Rel Datum.Alike a b)
    (h' : Option.Rel Datum.Alike b c) : Option.Rel Datum.Alike a c := by
  cases h with
  | none => exact h'
  | some hab =>
    cases h' with
    | some hbc => exact .some (Relation.ReflTransGen.trans hab hbc)

/-- A change that tells a setting tells every setting alike to it. -/
theorem Change.Tells.of_alike {c : Change} {a b : Option Datum} (h : c.Tells a)
    (r : Option.Rel Datum.Alike a b) : c.Tells b := by
  unfold Change.Tells at h ⊢
  cases hk : c.kind with
  | set =>
    rw [hk] at h
    obtain ⟨v, rfl, hv⟩ := h
    cases r with
    | some hvw => exact ⟨_, rfl, Relation.ReflTransGen.trans hv hvw⟩
  | delete =>
    rw [hk] at h
    subst h
    cases r
    rfl

/-! ### The changes of a diff at one path -/

/-- In entries that name each key once, the entries with a key are the one the key finds. -/
theorem filter_key_eq {es : List (String × Datum)} (h : (es.map (·.1)).Nodup) (p : String) :
    es.filter (·.1 == p) = match Datum.lookup es p with
      | some v => [(p, v)]
      | none => [] := by
  induction es with
  | nil => rfl
  | cons e rest ih =>
    obtain ⟨k, w⟩ := e
    rw [List.map_cons, List.nodup_cons] at h
    rw [List.filter_cons, lookup_cons, ih h.2]
    by_cases hk : k = p
    · subst hk
      have absent : Datum.lookup rest k = none := lookup_eq_none_of_not_mem h.1
      simp [absent]
    · simp [hk, Ne.symm hk]

/-- Filtering by key commutes with a map of entries that keeps the key. -/
theorem filter_path_filterMap {f : String × Datum → Option Change}
    (keeps : ∀ e c, f e = some c → c.path = e.1) (es : List (String × Datum)) (p : String) :
    (es.filterMap f).filter (·.path == p) = (es.filter (·.1 == p)).filterMap f := by
  induction es with
  | nil => rfl
  | cons e rest ih =>
    rw [List.filterMap_cons, List.filter_cons]
    cases hf : f e with
    | none => by_cases hk : e.1 = p <;> simp [hk, hf, ih]
    | some c => by_cases hk : e.1 = p <;> simp [keeps e c hf, hf, hk, ih]

/-- Sorting keeps a filter that holds at most one element. -/
theorem filter_mergeSort_of_length_le_one {α : Type} {l r : List α} (P : α → Bool)
    (le : α → α → Bool) (h : l.filter P = r) (hr : r.length ≤ 1) : (l.mergeSort le).filter P = r := by
  have perm := (List.mergeSort_perm l le).filter P
  rw [h] at perm
  match r, hr with
  | [], _ => exact List.perm_nil.1 perm
  | [_], _ => exact List.perm_singleton.1 perm

/-- **The changes of a diff at one path.** Between settings that flatten each path once, a
path whose setting differs gets exactly one change: a set when it has a setting afterwards,
beside the one before if any, and a delete when it lost its setting. Any other path gets
none. -/
theorem diff_filter_path {before after : Tree} (hb : ((Tree.flatten before).map (·.1)).Nodup)
    (ha : ((Tree.flatten after).map (·.1)).Nodup) (source : Source) (p : String) :
    (diff before after source).filter (·.path == p) =
      match Datum.lookup (Tree.flatten before) p, Datum.lookup (Tree.flatten after) p with
      | some ov, some nv => if Datum.same ov nv then [] else [⟨p, .set, ov, nv, source⟩]
      | none, some nv => [⟨p, .set, .null, nv, source⟩]
      | some ov, none => [⟨p, .delete, ov, .null, source⟩]
      | none, none => [] := by
  unfold diff
  dsimp only
  -- the sort only permutes the changes, and there is at most one at the path
  apply filter_mergeSort_of_length_le_one
  · rw [List.filter_append, filter_path_filterMap ?sets, filter_path_filterMap ?deletes,
      filter_key_eq ha p, filter_key_eq hb p]
    · rcases hold : Datum.lookup (Tree.flatten before) p with _ | ov <;>
        rcases hnew : Datum.lookup (Tree.flatten after) p with _ | nv
      · simp
      · simp [hold]
      · simp [hnew]
      · by_cases hs : Datum.same ov nv <;> simp [hold, hnew, hs]
    -- every change a diff builds carries the path of its entry
    all_goals
      intro e c hc
      repeat' (split at hc)
      all_goals first | (obtain rfl := Option.some.inj hc; rfl) | cases hc
  · cases Datum.lookup (Tree.flatten before) p <;> cases Datum.lookup (Tree.flatten after) p <;>
      simp only [List.length_cons, List.length_nil] <;> (try split) <;> simp

/-- **A diff at one path, between plain settings.** Either it has no change there and the
settings there are alike, or it has exactly one, which tells the setting afterwards. -/
theorem diff_at_path {before after : Tree} (hb : Datum.Plain (.map before))
    (ha : Datum.Plain (.map after)) (source : Source) (p : String) :
    ((diff before after source).filter (·.path == p) = [] ∧
        Option.Rel Datum.Alike (before.setting? p) (after.setting? p)) ∨
      ∃ c, (diff before after source).filter (·.path == p) = [c] ∧ c.Tells (after.setting? p) := by
  rw [diff_filter_path (nodup_flatten_paths hb) (nodup_flatten_paths ha),
    lookup_flatten_eq_setting? hb, lookup_flatten_eq_setting? ha]
  rcases before.setting? p with _ | ov <;> rcases after.setting? p with _ | nv
  · exact .inl ⟨rfl, .none⟩
  · exact .inr ⟨_, rfl, nv, rfl, .refl⟩
  · exact .inr ⟨_, rfl, rfl⟩
  · by_cases hs : Datum.same ov nv
    · exact .inl ⟨by simp [hs], .some (.single hs)⟩
    · exact .inr ⟨⟨p, .set, ov, nv, source⟩, by simp [hs], nv, rfl, .refl⟩

/-! ### Delivering changes -/

/-- Delivery hands a change at a path to subscription `id` once for each of its entries that
covers the path. -/
theorem routes_at (subscriptions : List (Nat × String)) (changes : List Change) (id : Nat)
    (p : String) :
    ((routes subscriptions changes).filter fun d ↦ d.1 == id && d.2.path == p).map (·.2) =
      (changes.filter (·.path == p)).flatMap fun c ↦
        (subscriptions.filter fun e ↦ e.1 == id && matchesPath e.2 p).map fun _ ↦ c := by
  induction changes with
  | nil => rfl
  | cons c cs ih =>
    rw [routes, List.flatMap_cons, ← routes, List.filter_append, List.map_append, ih,
      List.filter_cons]
    by_cases hc : c.path = p
    · subst hc
      simp [List.filter_map, Function.comp_def]
    · simp [List.filter_map, Function.comp_def, hc]

/-! ### Taking back the change of a layer -/

/-- The layers are plain. -/
def PlainLayers (layers : List Layer) : Prop := ∀ l ∈ layers, Datum.Plain (.map l.data)

namespace LayerSet

/-- A layer put behind layers of other sources replaces the first layer of its source. -/
theorem replaceSource_append {l m : Layer} {pre : List Layer}
    (hpre : ∀ y ∈ pre, y.source ≠ l.source) (hm : m.source = l.source) (post : List Layer) :
    replaceSource l (pre ++ m :: post) = some (pre ++ l :: post) := by
  induction pre with
  | nil => simp [replaceSource, hm]
  | cons y ys ih =>
    have hy : (y.source == l.source) = false := by simpa using hpre y (.head _)
    simp [replaceSource, hy, ih fun a ha ↦ hpre a (.tail _ ha)]

theorem replaceSource_eq_none_of_find? {l : Layer} :
    ∀ {layers : List Layer}, layers.find? (·.source == l.source) = none →
      replaceSource l layers = none
  | [], _ => rfl
  | x :: xs, h => by
    rw [List.find?_cons] at h
    split at h
    · cases h
    · rename_i hx
      simp [replaceSource, hx, replaceSource_eq_none_of_find? h]

theorem mem_replaceSource {l x : Layer} :
    ∀ {layers layers' : List Layer}, replaceSource l layers = some layers' → x ∈ layers' →
      x = l ∨ x ∈ layers
  | [], _, h, _ => by simp [replaceSource] at h
  | y :: ys, layers', h, hx => by
    unfold replaceSource at h
    split at h
    · cases h
      rcases List.mem_cons.1 hx with rfl | hx
      · exact .inl rfl
      · exact .inr (.tail _ hx)
    · obtain ⟨zs, hzs, rfl⟩ := Option.map_eq_some_iff.1 h
      rcases List.mem_cons.1 hx with rfl | hx
      · exact .inr (.head _)
      · exact (mem_replaceSource hzs hx).imp_right (.tail _)

theorem mem_insertLayer {layers : List Layer} {l x : Layer} (h : x ∈ insertLayer layers l) :
    x = l ∨ x ∈ layers := by
  unfold insertLayer at h
  split at h
  · exact mem_replaceSource ‹_› h
  · rcases List.mem_append.1 (List.mem_mergeSort.1 h) with hx | hx
    · exact .inr hx
    · exact .inl (List.mem_singleton.1 hx)

/-- Layers of strictly rising priority with the same members are the same layers. -/
theorem eq_of_perm_of_ascending {L L' : List Layer} (h : Ascending L) (h' : Ascending L')
    (perm : L.Perm L') : L = L' :=
  perm.eq_of_pairwise (fun _ _ _ _ hab hba ↦ absurd hab (Nat.lt_asymm hba)) h h'

/-- Putting a layer in place of the one of its source, then that one back, changes nothing. -/
theorem insertLayer_insertLayer_of_find? {layers : List Layer} {source : Source} {x : Layer}
    (h : layers.find? (·.source == source) = some x) (d : Tree) :
    insertLayer (insertLayer layers ⟨source, d⟩) ⟨source, x.data⟩ = layers := by
  obtain ⟨hx, pre, post, rfl, hpre⟩ := List.find?_eq_some_iff_append.1 h
  obtain ⟨xsource, xdata⟩ := x
  have hx : xsource = source := by simpa using hx
  subst hx
  have others : ∀ y ∈ pre, y.source ≠ xsource := fun y hy ↦ by simpa using hpre y hy
  have replaced : insertLayer (pre ++ ⟨xsource, xdata⟩ :: post) ⟨xsource, d⟩ =
      pre ++ ⟨xsource, d⟩ :: post := by
    rw [insertLayer, replaceSource_append (l := ⟨xsource, d⟩) (m := ⟨xsource, xdata⟩) others rfl]
  rw [replaced, insertLayer,
    replaceSource_append (l := ⟨xsource, xdata⟩) (m := ⟨xsource, d⟩) others rfl]

/-- Adding the layer of a source that had none, then dropping it, changes nothing. -/
theorem eraseP_insertLayer_of_find? {layers : List Layer} (asc : Ascending layers)
    {source : Source} (h : layers.find? (·.source == source) = none) (d : Tree) :
    (insertLayer layers ⟨source, d⟩).eraseP (·.source == source) = layers := by
  have absent : ∀ y ∈ layers, ¬ (y.source == source) = true := by simpa using h
  refine eq_of_perm_of_ascending ((asc.insertLayer _).eraseP _) asc ?_
  rw [insertLayer, replaceSource_eq_none_of_find? h]
  simp only
  -- the new layer is the only one of its source, so dropping it undoes the sort
  have once : (layers ++ [(⟨source, d⟩ : Layer)]).Pairwise
      fun a b ↦ (a.source == source) = true → (b.source == source) = true → False := by
    rw [List.pairwise_append]
    exact ⟨List.pairwise_of_forall_mem_list fun a ha _ _ h' _ ↦ absent a ha h', by simp,
      fun a ha _ _ h' _ ↦ absent a ha h'⟩
  have perm := List.mergeSort_perm (layers ++ [(⟨source, d⟩ : Layer)])
    fun a b : Layer ↦ decide (a.source.priority ≤ b.source.priority)
  refine (perm.eraseP _ ((perm.symm.pairwise once fun h a b ↦ h b a))).trans ?_
  rw [List.eraseP_append_right _ absent]
  simp

/-- Dropping the layer of a source, then putting it back, changes nothing. -/
theorem insertLayer_eraseP_of_find? {layers : List Layer} (asc : Ascending layers)
    {source : Source} {x : Layer} (h : layers.find? (·.source == source) = some x) :
    insertLayer (layers.eraseP (·.source == source)) ⟨source, x.data⟩ = layers := by
  obtain ⟨hx, pre, post, rfl, hpre⟩ := List.find?_eq_some_iff_append.1 h
  obtain ⟨xsource, xdata⟩ := x
  have hx : xsource = source := by simpa using hx
  subst hx
  have others : ∀ y ∈ pre, ¬ (y.source == xsource) = true := fun y hy ↦ by simpa using hpre y hy
  have erased : (pre ++ ⟨xsource, xdata⟩ :: post).eraseP (·.source == xsource) = pre ++ post := by
    rw [List.eraseP_append_right _ others]
    simp
  -- the layers rank by strictly rising priority, so no other layer has the source
  have unique : ∀ y ∈ pre ++ post, ¬ (y.source == xsource) = true := by
    have nodup := asc.sources_nodup
    simp only [List.map_append, List.map_cons] at nodup
    intro y hy hy'
    have hy' : y.source = xsource := by simpa using hy'
    rcases List.mem_append.1 hy with hy | hy
    · exact others y hy (by simp [hy'])
    · exact (List.nodup_middle.1 nodup |> List.nodup_cons.1).1
        (List.mem_append_right _ (List.mem_map.2 ⟨y, hy, hy'⟩))
  have asc' := asc.eraseP xsource
  rw [erased] at asc' ⊢
  refine eq_of_perm_of_ascending (asc'.insertLayer _) asc ?_
  rw [insertLayer, replaceSource_eq_none_of_find? (List.find?_eq_none.2 unique)]
  refine (List.mergeSort_perm _ _).trans ?_
  rw [List.append_assoc]
  exact List.Perm.append_left pre List.perm_append_comm

/-- Dropping the layer of a source that has none, twice, changes nothing. -/
theorem eraseP_eraseP_of_find? {layers : List Layer} {source : Source}
    (h : layers.find? (·.source == source) = none) :
    (layers.eraseP (·.source == source)).eraseP (·.source == source) = layers := by
  have absent : ∀ y ∈ layers, ¬ (y.source == source) = true := by simpa using h
  rw [List.eraseP_of_forall_not absent, List.eraseP_of_forall_not absent]

/-- Putting a layer for a source, then putting back the layer the source had, or dropping it
when it had none, leaves layers of strictly rising priority as they were. -/
theorem revert_put {source : Source} (d : Tree) (L : LayerSet) (asc : Ascending L.layers) :
    (match (L.get source).map Layer.data with
      | some d' => (L.put ⟨source, d⟩).put ⟨source, d'⟩
      | none => ((L.put ⟨source, d⟩).remove source).2).layers = L.layers := by
  cases hget : L.get source with
  | some x =>
    exact insertLayer_insertLayer_of_find? hget d
  | none =>
    simp only [Option.map_none, remove_layers, put]
    exact eraseP_insertLayer_of_find? asc hget d

/-- Dropping the layer of a source, then putting back the layer it had, if any, leaves layers
of strictly rising priority as they were. -/
theorem revert_remove (source : Source) (L : LayerSet) (asc : Ascending L.layers) :
    (match (L.get source).map Layer.data with
      | some d => (L.remove source).2.put ⟨source, d⟩
      | none => ((L.remove source).2.remove source).2).layers = L.layers := by
  cases hget : L.get source with
  | some x =>
    simp only [Option.map_some, put, remove_layers]
    exact insertLayer_eraseP_of_find? asc hget
  | none =>
    simp only [Option.map_none, remove_layers]
    exact eraseP_eraseP_of_find? hget

/-- A change that putting back the previous layer of a source undoes is undone the same way
across merges: restoring acts on the layers alone, whatever the caches hold. -/
theorem restore_after_merge {source : Source} {change : LayerSet → LayerSet} (L : LayerSet)
    (asc : Ascending L.layers)
    (undoes : ∀ L : LayerSet, Ascending L.layers →
      (match (L.get source).map Layer.data with
        | some d => (change L).put ⟨source, d⟩
        | none => ((change L).remove source).2).layers = L.layers) :
    (match (L.merge.2.get source).map Layer.data with
      | some d => (change L.merge.2).merge.2.put ⟨source, d⟩
      | none => ((change L.merge.2).merge.2.remove source).2).layers = L.layers := by
  have same : L.merge.2.layers = L.layers := merge_layers _
  have asc' : Ascending L.merge.2.layers := by
    rw [same]
    exact asc
  rw [← same, ← undoes _ asc']
  cases (L.merge.2.get source).map Layer.data <;> simp [put, remove_layers, merge_layers]

end LayerSet

/-- A change of the layers for the layer of `source`: it keeps a layer set sound and plain
layers plain, and putting back the previous layer of `source` takes it back. -/
structure Revertible (source : Source) (change : LayerSet → LayerSet) : Prop where
  sound : ∀ L : LayerSet, L.Sound → (change L).Sound
  plain : ∀ L : LayerSet, PlainLayers L.layers → PlainLayers (change L).layers
  revert : ∀ L : LayerSet, LayerSet.Ascending L.layers →
    (match (L.get source).map Layer.data with
      | some d => (change L).put ⟨source, d⟩
      | none => ((change L).remove source).2).layers = L.layers

/-- Putting a plain layer is revertible. -/
theorem revertible_put {source : Source} {d : Tree} (hd : Datum.Plain (.map d)) :
    Revertible source (·.put ⟨source, d⟩) where
  sound _ h := h.put _
  plain _ h l hl := by
    rcases LayerSet.mem_insertLayer hl with rfl | hl
    · exact hd
    · exact h l hl
  revert L asc := LayerSet.revert_put d L asc

/-- Dropping a layer is revertible. -/
theorem revertible_remove (source : Source) :
    Revertible source fun L ↦ (L.remove source).2 where
  sound _ h := h.remove _
  plain _ h l hl := by
    rw [LayerSet.remove_layers] at hl
    exact h l (List.mem_of_mem_eraseP hl)
  revert L asc := LayerSet.revert_remove source L asc

namespace Store

/-- The changes delivered to subscription `id` at a path, oldest first. -/
def changesAt (s : Store) (id : Nat) (path : String) : List Change :=
  (s.delivered.toList.filter fun d ↦ d.1 == id && d.2.path == path).map (·.2)

theorem changesAt_of_delivered {s s' : Store} {subscriptions : List (Nat × String)}
    {changes : List Change}
    (hd : s'.delivered = s.delivered ++ (routes subscriptions changes).toArray) (id : Nat)
    (p : String) :
    s'.changesAt id p =
      s.changesAt id p ++ (changes.filter (·.path == p)).flatMap fun c ↦
        (subscriptions.filter fun e ↦ e.1 == id && matchesPath e.2 p).map fun _ ↦ c := by
  simp only [changesAt, hd, Array.toList_append, List.filter_append, List.map_append]
  rw [routes_at]

/-! ### Running a step -/

section Run

variable (s : Store)

theorem run_bind {α β : Type} (x : Action α) (f : α → Action β) :
    (x >>= f).run.run s = match x.run.run s with
      | (.ok a, s') => (f a).run.run s'
      | (.error e, s') => (.error e, s') := by
  simp only [ExceptT.run_bind, StateT.run_bind]
  rcases x.run.run s with ⟨_ | a, s'⟩ <;> rfl

theorem run_tryCatch {α : Type} (x : Action α) (h : ConfigFault → Action α) :
    (tryCatch x h).run.run s = match x.run.run s with
      | (.ok a, s') => (.ok a, s')
      | (.error e, s') => (h e).run.run s' := by
  show (ExceptT.tryCatch x h).run.run s = _
  rcases hx : x.run.run s with ⟨_ | a, s'⟩ <;>
    simp only [ExceptT.tryCatch, ExceptT.run_mk, StateT.run_bind] <;>
    rw [show StateT.run x s = _ from hx] <;> rfl

theorem run_get : (get : Action Store).run.run s = (.ok s, s) := rfl

theorem run_set (t : Store) : (set t : Action Unit).run.run s = (.ok (), t) := rfl

theorem run_modify (f : Store → Store) : (modify f : Action Unit).run.run s = (.ok (), f s) := rfl

theorem mergeLayers_run :
    mergeLayers.run.run s = (.ok s.layers.merge.1, { s with layers := s.layers.merge.2 }) := rfl

theorem deliver_run (changes : List Change) :
    (deliver changes).run.run s =
      (.ok (), { s with delivered := s.delivered ++ (routes s.subscriptions changes).toArray }) :=
  rfl

theorem fail_run {α : Type} (f : ConfigFault) : (fail f : Action α).run.run s = (.error f, s) :=
  rfl

theorem lift_run {α : Type} (e : Except ConfigFault α) :
    (lift e).run.run s = match e with
      | .ok v => (.ok v, s)
      | .error f => (.error f, s) := by
  cases e <;> rfl

theorem log_run (level : Level) (fmt : String) (args : List Datum) :
    (log level fmt args).run.run s =
      (.ok (), { s with journal := s.journal.writef s.logger level fmt args }) := rfl

theorem restore_run (source : Source) (previous : Option Tree) :
    (restore source previous).run.run s = (.ok (), { s with layers := match previous with
      | some d => s.layers.put ⟨source, d⟩
      | none => (s.layers.remove source).2 }) := by
  cases previous <;> rfl

/-- The locked part of an edit, read on the layers alone: its outcome and the layers it
leaves. -/
def commitLayers (source : Source) (change : LayerSet → LayerSet) (checked : Bool)
    (L : LayerSet) : Except ConfigFault (List Change) × LayerSet :=
  match if checked then validate (change L.merge.2).merge.1 else none with
  | some f => (.error f, match (L.merge.2.get source).map Layer.data with
    | some d => (change L.merge.2).merge.2.put ⟨source, d⟩
    | none => ((change L.merge.2).merge.2.remove source).2)
  | none => (.ok (diff L.merge.1 (change L.merge.2).merge.1 source), (change L.merge.2).merge.2)

/-- The locked part of an edit reads and writes the layers alone. -/
theorem commit_run (source : Source) (change : LayerSet → LayerSet) (checked : Bool) :
    (commit source change checked).run.run s =
      ((commitLayers source change checked s.layers).1,
        { s with layers := (commitLayers source change checked s.layers).2 }) := by
  simp only [commit, commitLayers, run_bind, mergeLayers_run, run_get, run_modify]
  cases checked with
  | false => rfl
  | true =>
    simp only [if_true]
    cases validate (change s.layers.merge.2).merge.1 with
    | none => rfl
    | some f =>
      simp only [run_bind, restore_run, fail_run]
      rfl

/-- An edit either fails its validation and puts back the previous layer, or gives the diff
of the merged settings. -/
theorem commitLayers_cases (source : Source) (change : LayerSet → LayerSet) (checked : Bool)
    (L : LayerSet) :
    (∃ f, checked = true ∧ validate (change L.merge.2).merge.1 = some f ∧
      commitLayers source change checked L = (.error f,
        match (L.merge.2.get source).map Layer.data with
        | some d => (change L.merge.2).merge.2.put ⟨source, d⟩
        | none => ((change L.merge.2).merge.2.remove source).2)) ∨
    ((checked = true → validate (change L.merge.2).merge.1 = none) ∧
      commitLayers source change checked L =
        (.ok (diff L.merge.1 (change L.merge.2).merge.1 source), (change L.merge.2).merge.2)) := by
  unfold commitLayers
  cases checked with
  | false => exact .inr ⟨(by intro h; cases h), rfl⟩
  | true =>
    cases h : validate (change L.merge.2).merge.1 with
    | none => exact .inr ⟨fun _ ↦ rfl, by simp only [if_true]⟩
    | some f => exact .inl ⟨f, rfl, rfl, by simp only [if_true]⟩

theorem update_run (source : Source) (change : LayerSet → LayerSet) (checked : Bool) :
    (update source change checked).run.run s =
      match commitLayers source change checked s.layers with
      | (.ok changes, L) => (.ok (), { s with
          layers := L, delivered := s.delivered ++ (routes s.subscriptions changes).toArray })
      | (.error f, L) => (.error f, { s with layers := L }) := by
  simp only [update, run_bind, commit_run]
  rcases commitLayers source change checked s.layers with ⟨_ | _, L⟩ <;> rfl

/-- Setting a value is an update of the command line's layer, checked once loaded, unless
the path does not take the value. -/
theorem setValue_run (path : String) (v : Datum) :
    (setValue path v).run.run s =
      match ((s.layerData .arguments).getD []).set? path v with
      | none => (.error .invalidPath, s)
      | some data => (update .arguments (·.put ⟨.arguments, data⟩) s.loaded).run.run s := by
  simp only [setValue, setCommit, update, run_bind, run_get]
  cases ((s.layerData .arguments).getD []).set? path v <;> rfl

/-- Reloading is an update of the file's layer, checked, unless there is no file or it does
not read. -/
theorem reload_run (fs : FileSystem) :
    (reload fs).run.run s =
      if s.path = "" then (.ok (), s) else
      match loadFile fs s.cwd s.path with
      | .error f => (.error f, s)
      | .ok none => (update .file (fun layers ↦ (layers.remove .file).2) true).run.run s
      | .ok (some d) => (update .file (·.put ⟨.file, d⟩) true).run.run s := by
  simp only [reload, reloadCommit, update, run_bind, run_get]
  by_cases hp : s.path = ""
  · simp only [hp, if_true]
    show (Except.ok (), { s with delivered := s.delivered ++ (routes s.subscriptions []).toArray }) = _
    simp [routes]
  · simp only [hp, if_false]
    rcases loadFile fs s.cwd s.path with f | _ | d <;> rfl

end Run

/-! ### What a step does -/

/-- A configuration ready for calls: its cache is sound and its layers are plain. -/
structure Ready (s : Store) : Prop where
  sound : s.layers.Sound
  plain : PlainLayers s.layers.layers

/-- What a call may do to what subscriptions see: leave the merged settings and the
deliveries as they were, or deliver the diff from the merged settings before to those
after. -/
def Publishes (s s' : Store) : Prop :=
  (s'.merged = s.merged ∧ s'.delivered = s.delivered) ∨
    ∃ source, s'.delivered =
      s.delivered ++ (routes s.subscriptions (diff s.merged s'.merged source)).toArray

/-- A call from a ready configuration: it leaves the configuration ready, keeps its
subscriptions and its file, and publishes. -/
structure Steps (s s' : Store) : Prop where
  ready : s'.Ready
  subscriptions : s'.subscriptions = s.subscriptions
  cwd : s'.cwd = s.cwd
  path : s'.path = s.path
  publishes : s.Publishes s'

/-- Two configurations that differ only in what subscriptions do not see: the log and the
watcher. -/
structure Quiet (s s' : Store) : Prop where
  layers : s'.layers = s.layers
  subscriptions : s'.subscriptions = s.subscriptions
  cwd : s'.cwd = s.cwd
  path : s'.path = s.path
  delivered : s'.delivered = s.delivered

theorem Steps.refl {s : Store} (h : s.Ready) : s.Steps s :=
  ⟨h, rfl, rfl, rfl, .inl ⟨rfl, rfl⟩⟩

theorem Quiet.trans_steps {s₀ s s' : Store} (q : Quiet s₀ s) (h : s.Steps s') :
    s₀.Steps s' := by
  obtain ⟨hl, hs, hc, hp, hd⟩ := q
  have hm : s.merged = s₀.merged := by simp only [merged, hl]
  refine ⟨h.ready, h.subscriptions.trans hs, h.cwd.trans hc, h.path.trans hp, ?_⟩
  rcases h.publishes with ⟨hm', hd'⟩ | ⟨source, hd'⟩
  · exact .inl ⟨hm'.trans hm, hd'.trans hd⟩
  · exact .inr ⟨source, by rw [hd', hd, hs, hm]⟩

theorem Steps.trans_quiet {s s' s'' : Store} (h : s.Steps s') (q : Quiet s' s'') :
    s.Steps s'' := by
  obtain ⟨hl, hs, hc, hp, hd⟩ := q
  have hm : s''.merged = s'.merged := by simp only [merged, hl]
  refine ⟨⟨hl ▸ h.ready.sound, hl ▸ h.ready.plain⟩, hs.trans h.subscriptions, hc.trans h.cwd,
    hp.trans h.path, ?_⟩
  rcases h.publishes with ⟨hm', hd'⟩ | ⟨source, hd'⟩
  · exact .inl ⟨hm.trans hm', hd.trans hd'⟩
  · exact .inr ⟨source, by rw [hd, hd', hm]⟩

theorem Quiet.steps {s s' : Store} (h : s.Ready) (q : Quiet s s') : s.Steps s' :=
  (Steps.refl h).trans_quiet q

theorem quiet_log (s : Store) (level : Level) (fmt : String) (args : List Datum) :
    Quiet s ((log level fmt args).run.run s).2 :=
  ⟨rfl, rfl, rfl, rfl, rfl⟩

/-- **An update is a step.** A revertible change of a layer, from a ready configuration:
taken back on a failed validation, with nothing delivered, and otherwise the diff of the
merged settings delivered. -/
theorem update_steps {s : Store} (ready : s.Ready) {source : Source}
    {change : LayerSet → LayerSet} (hc : Revertible source change) (checked : Bool) :
    s.Steps ((update source change checked).run.run s).2 := by
  have sound₁ := ready.sound.merge
  have sound₂ := hc.sound _ sound₁
  have same₁ : s.layers.merge.2.layers = s.layers.layers := LayerSet.merge_layers _
  have plain₂ : PlainLayers (change s.layers.merge.2).layers :=
    hc.plain _ (same₁ ▸ ready.plain)
  -- a step that delivers the diff of the merged settings
  have delivers : s.Steps
      { s with
        layers := (change s.layers.merge.2).merge.2
        delivered := s.delivered ++ (routes s.subscriptions
          (diff s.layers.merge.1 (change s.layers.merge.2).merge.1 source)).toArray } := by
    refine ⟨⟨sound₂.merge, (LayerSet.merge_layers _).symm ▸ plain₂⟩, rfl, rfl, rfl,
      .inr ⟨source, ?_⟩⟩
    simp only [merged, ready.sound.merge_fst, sound₂.merge_fst, LayerSet.merge_layers]
  rw [update_run]
  rcases commitLayers_cases source change checked s.layers with ⟨f, -, -, h⟩ | ⟨-, h⟩
  · -- a failed validation puts the layer back as it was
    simp only [h]
    have restored := LayerSet.restore_after_merge s.layers ready.sound.ascending hc.revert
    refine ⟨⟨?_, ?_⟩, rfl, rfl, rfl, .inl ⟨?_, rfl⟩⟩
    · split
      · exact sound₂.merge.put _
      · exact sound₂.merge.remove _
    · convert ready.plain using 1
    · simp only [merged]
      exact congrArg LayerSet.mergeAll restored
  · simp only [h]
    exact delivers

/-- The settings of a source's layer, in a configuration with plain layers, are plain. -/
theorem plain_layerData {s : Store} (plain : PlainLayers s.layers.layers) (source : Source) :
    Datum.Plain (.map ((s.layerData source).getD [])) := by
  cases hl : s.layers.get source with
  | none => simpa [layerData, hl] using Datum.Plain.map (by simp) (by simp) (by simp)
  | some l =>
    simpa [layerData, hl] using plain l (List.mem_of_find?_eq_some hl)

/-- **Setting a plain value is a step.** -/
theorem setValue_steps {s : Store} (ready : s.Ready) (path : String) {v : Datum}
    (hv : Datum.Plain v) : s.Steps ((setValue path v).run.run s).2 := by
  rw [setValue_run]
  cases hset : ((s.layerData .arguments).getD []).set? path v with
  | none => exact Steps.refl ready
  | some data =>
    exact update_steps ready
      (revertible_put ((plain_layerData ready.plain .arguments).set? hv hset)) _

/-- **Reloading a file that reads as a plain tree is a step.** -/
theorem reload_steps {s : Store} (ready : s.Ready) {fs : FileSystem}
    (hfile : ∀ d, loadFile fs s.cwd s.path = .ok (some d) → Datum.Plain (.map d)) :
    s.Steps ((reload fs).run.run s).2 := by
  rw [reload_run]
  split
  · exact Steps.refl ready
  · cases hload : loadFile fs s.cwd s.path with
    | error f => exact Steps.refl ready
    | ok data =>
      cases data with
      | none => exact update_steps ready (revertible_remove .file) true
      | some d => exact update_steps ready (revertible_put (hfile d hload)) true

/-- **Handling a watcher's event is a step**: a line in the log, then a reload, whose
failure is only logged. -/
theorem handleChange_steps {s : Store} (ready : s.Ready) {fs : FileSystem}
    (hfile : ∀ d, loadFile fs s.cwd s.path = .ok (some d) → Datum.Plain (.map d))
    (change : FileChange) : s.Steps ((handleChange fs change).run.run s).2 := by
  simp only [handleChange, run_bind, run_get, log_run, run_tryCatch]
  -- the line logged first changes nothing a subscription sees
  set s₁ : Store := { s with journal := s.journal.writef s.logger .info "config file %s: %s" [
    .text change.name, .text (Path.absolute s.cwd s.path)] }
  have logged : Quiet s s₁ := ⟨rfl, rfl, rfl, rfl, rfl⟩
  have reloaded := logged.trans_steps (reload_steps (logged.steps ready).ready hfile)
  rcases h : (reload fs).run.run s₁ with ⟨_ | _, s'⟩
  all_goals rw [h] at reloaded
  · exact reloaded.trans_quiet (quiet_log _ _ _ _)
  · exact reloaded

/-- **Letting time pass is a step**: the watcher's waiting event, when it fires, is
handled. -/
theorem elapse_steps {s : Store} (ready : s.Ready) {fs : FileSystem}
    (hfile : ∀ d, loadFile fs s.cwd s.path = .ok (some d) → Datum.Plain (.map d))
    (ms : Nat) : s.Steps ((elapse fs ms).run.run s).2 := by
  simp only [elapse, run_bind, run_get]
  cases hw : s.watcher with
  | none => exact Steps.refl ready
  | some w =>
    rcases hwait : w.wait ms with ⟨event, w'⟩
    simp only [run_bind, run_set, hwait]
    -- the watcher is all the wait changes
    set s₁ : Store := { s with watcher := some w' }
    have waited : Quiet s s₁ := ⟨rfl, rfl, rfl, rfl, rfl⟩
    cases event with
    | none => exact waited.steps ready
    | some change =>
      have handled := waited.trans_steps (handleChange_steps (waited.steps ready).ready hfile change)
      simp only [run_bind]
      rcases h : (handleChange fs change).run.run s₁ with ⟨_ | _, s'⟩
      all_goals rw [h] at handled
      all_goals exact handled

/-- Telling the watcher of a change to a file is a step that touches only the watcher. -/
theorem notice_steps {s : Store} (ready : s.Ready) (path : String) (change : FileChange) :
    s.Steps ((notice path change).run.run s).2 :=
  Quiet.steps ready ⟨rfl, rfl, rfl, rfl, rfl⟩

/-! ### Any sequence of calls -/

/-- A call that may change the settings. -/
inductive Call where
  /-- Sets one setting. -/
  | set (path : String) (value : Datum)
  /-- Reloads the file. -/
  | reload (fs : FileSystem)
  /-- Lets time pass, so that the watcher may fire and the file be reloaded. -/
  | elapse (fs : FileSystem) (ms : Nat)
  /-- Tells the watcher of a change to a file. -/
  | notice (path : String) (change : FileChange)

/-- The configuration after a call, whether it failed or not. -/
def call (s : Store) : Call → Store
  | .set path v => ((setValue path v).run.run s).2
  | .reload fs => ((reload fs).run.run s).2
  | .elapse fs ms => ((elapse fs ms).run.run s).2
  | .notice path change => ((notice path change).run.run s).2

/-- The configuration after calls in order. -/
def calls (s : Store) (cs : List Call) : Store := cs.foldl call s

/-- The inputs of a call are plain: the value it sets, or what the file reads as. -/
def Call.Plain (cwd path : String) : Call → Prop
  | .set _ v => Datum.Plain v
  | .reload fs | .elapse fs _ =>
    ∀ d, loadFile fs cwd path = .ok (some d) → Datum.Plain (.map d)
  | .notice _ _ => True

/-- **Every call with plain inputs is a step.** -/
theorem call_steps {s : Store} (ready : s.Ready) {c : Call} (hc : c.Plain s.cwd s.path) :
    s.Steps (s.call c) := by
  cases c with
  | set path v => exact setValue_steps ready path hc
  | reload fs => exact reload_steps ready hc
  | elapse fs ms => exact elapse_steps ready hc ms
  | notice path change => exact notice_steps ready path change

/-- What subscription `id` has been told at path `p` since the configuration `s₀`: what it
got there before is kept, and of what it got since, the last change tells the setting now;
without one, the setting is alike to the one it had. -/
def Told (s₀ s : Store) (id : Nat) (p : String) : Prop :=
  ∃ new, s.changesAt id p = s₀.changesAt id p ++ new ∧
    match new.getLast? with
    | some c => c.Tells (s.merged.setting? p)
    | none => Option.Rel Datum.Alike (s₀.merged.setting? p) (s.merged.setting? p)

theorem told_refl (s : Store) (id : Nat) (p : String) : s.Told s id p :=
  ⟨[], by simp, alike_setting_refl _⟩

/-- A step keeps a covering subscription told: a step that delivers nothing keeps the
settings, and one that delivers a diff delivers its change at the path, if any, last. -/
theorem Told.step {s₀ s s' : Store} {id : Nat} {p : String} (told : s₀.Told s id p)
    (ready : s.Ready) (h : s.Steps s')
    (covered : ∃ sub, (id, sub) ∈ s.subscriptions ∧ matchesPath sub p = true) :
    s₀.Told s' id p := by
  obtain ⟨new, hnew, last⟩ := told
  rcases h.publishes with ⟨hm, hd⟩ | ⟨source, hd⟩
  · refine ⟨new, ?_, ?_⟩
    · rw [← hnew]
      simp only [changesAt, hd]
    · rw [hm]
      exact last
  · obtain ⟨sub, hsub, hp⟩ := covered
    have delivered := changesAt_of_delivered hd id p
    rw [hnew, List.append_assoc] at delivered
    have before : Datum.Plain (.map s.merged) := plain_mergeAll ready.plain
    have after : Datum.Plain (.map s'.merged) := plain_mergeAll h.ready.plain
    rcases diff_at_path before after source p with ⟨none, alike⟩ | ⟨c, one, tells⟩
    · -- no change at the path: the settings there stay alike
      refine ⟨new, by simp [delivered, none], ?_⟩
      cases hl : new.getLast? with
      | none =>
        rw [hl] at last
        exact alike_setting_trans last alike
      | some c =>
        rw [hl] at last
        exact last.of_alike alike
    · -- the one change at the path reaches the subscription, once per covering entry
      set covering := s.subscriptions.filter fun e ↦ e.1 == id && matchesPath e.2 p
      have hcov : covering ≠ [] := List.ne_nil_of_mem (List.mem_filter.2 ⟨hsub, by simp [hp]⟩)
      refine ⟨new ++ covering.map fun _ ↦ c, by simp [delivered, one, covering], ?_⟩
      have hlast : (new ++ covering.map fun _ ↦ c).getLast? = some c := by
        obtain ⟨e, he⟩ := Option.ne_none_iff_exists'.1 (mt List.getLast?_eq_none_iff.1 hcov)
        rw [List.getLast?_append, List.getLast?_map, he]
        rfl
      rw [hlast]
      exact tells

/-- Over a sequence of calls with plain inputs, a covering subscription stays told. -/
theorem Told.calls {s₀ s : Store} {id : Nat} {p : String} (told : s₀.Told s id p)
    (ready : s.Ready) {cs : List Call} (inputs : ∀ c ∈ cs, c.Plain s.cwd s.path)
    (covered : ∃ sub, (id, sub) ∈ s.subscriptions ∧ matchesPath sub p = true) :
    s₀.Told (s.calls cs) id p := by
  induction cs generalizing s with
  | nil => exact told
  | cons c rest ih =>
    have h := call_steps ready (inputs c (.head _))
    refine ih (told.step ready h covered) h.ready (fun c' hc' ↦ ?_) ?_
    · rw [h.cwd, h.path]
      exact inputs c' (.tail _ hc')
    · rw [h.subscriptions]
      exact covered

/-- **The last change a subscription got at a path tells the setting there.** From a
configuration with a sound cache and plain layers, after any sequence of sets, reloads and
watcher events with plain inputs, a subscription that covers a path keeps what it got there
before, and of what it got since, the last change is a set of a value alike to the setting
at the path, or a delete when the path has no setting; without such a change, the setting is
alike to the one before. A setting is a value that is not a map: a path that comes to hold a
map has no setting, and its last change is a delete. -/
theorem last_change_tells_setting (s : Store) (cs : List Call) (sound : s.layers.Sound)
    (plain : PlainLayers s.layers.layers) (inputs : ∀ c ∈ cs, c.Plain s.cwd s.path)
    (id : Nat) (sub p : String) (hsub : (id, sub) ∈ s.subscriptions)
    (hp : matchesPath sub p = true) :
    ∃ new, (s.calls cs).changesAt id p = s.changesAt id p ++ new ∧
      match new.getLast? with
      | some c => c.Tells ((s.calls cs).merged.setting? p)
      | none => Option.Rel Datum.Alike (s.merged.setting? p) ((s.calls cs).merged.setting? p) :=
  (told_refl s id p).calls ⟨sound, plain⟩ inputs ⟨sub, hsub, hp⟩

end Store

end LuaDebugger.Config
