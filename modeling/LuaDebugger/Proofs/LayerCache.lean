import LuaDebugger.Config.Store
/-!
# The cache of the merged layers

A layer set keeps its layers, lowest priority first, and the merge it computed last with a
flag that marks it stale. Putting or removing a layer raises the flag; a merge serves the
cache while the flag is down, and otherwise merges afresh and keeps the result. This module
proves that the cache never shows: every merge answers the fresh merge of the current
layers.

* `LayerSet.Sound` is the invariant: the layers rank by strictly rising priority
  (`Ascending`), and a cache whose flag is down holds the merge of the layers. A new layer
  set has it and every operation keeps it (`Sound.put`, `Sound.remove`, `Sound.merge`).
  Putting keeps the order because a layer replaces the one of its source, or is sorted in
  among layers of other sources, whose priorities all differ (`Ascending.insertLayer`).
* Under the invariant a merge answers the fresh merge (`Sound.merge_fst`), so two sound layer
  sets with the same layers answer every sequence of operations alike (`run_congr`).
* `cached_merge_is_fresh_merge` gathers this over every sequence of operations from a new
  layer set. Operations hold the lock, so those of any number of callers form one sequence;
  and a merge hands out a value, so what a caller does with it can reach later operations
  only as the reads do, which change nothing.
-/

namespace LuaDebugger.Config

theorem Source.priority_injective : Function.Injective Source.priority := by
  intro a b h
  cases a <;> cases b <;> simp_all [Source.priority]

namespace LayerSet

/-- The layers rank by strictly rising priority. -/
def Ascending (layers : List Layer) : Prop :=
  layers.Pairwise fun a b ↦ a.source.priority < b.source.priority

theorem Ascending.sources_nodup {layers : List Layer} (h : Ascending layers) :
    (layers.map (·.source)).Nodup := by
  rw [List.Nodup, List.pairwise_map]
  exact h.imp fun hlt heq ↦ Nat.ne_of_lt hlt (congrArg Source.priority heq)

theorem replaceSource_sources {l : Layer} :
    ∀ {layers layers' : List Layer}, replaceSource l layers = some layers' →
      layers'.map (·.source) = layers.map (·.source)
  | [], _, h => by simp [replaceSource] at h
  | x :: xs, layers', h => by
    unfold replaceSource at h
    split at h
    · cases h
      simp_all
    · obtain ⟨ys, hys, rfl⟩ := Option.map_eq_some_iff.1 h
      simp [replaceSource_sources hys]

theorem replaceSource_eq_none {l : Layer} :
    ∀ {layers : List Layer}, replaceSource l layers = none → ∀ x ∈ layers, x.source ≠ l.source
  | [], _ => by simp
  | x :: xs, h => by
    unfold replaceSource at h
    split at h
    · cases h
    · rename_i hx
      simp only [Option.map_eq_none_iff] at h
      intro y hy
      rcases List.mem_cons.1 hy with rfl | hy
      · simpa using hx
      · exact replaceSource_eq_none h y hy

theorem Ascending.insertLayer {layers : List Layer} (h : Ascending layers) (l : Layer) :
    Ascending (insertLayer layers l) := by
  unfold LayerSet.insertLayer
  split
  · rename_i layers' hrep
    -- the priorities are read off the sources, which replacing keeps
    have hsrc : (layers.map (·.source)).Pairwise (·.priority < ·.priority) :=
      (List.pairwise_map (f := Layer.source) (R := fun s t : Source ↦ s.priority < t.priority)).2 h
    rw [← replaceSource_sources hrep] at hsrc
    exact (List.pairwise_map (f := Layer.source) (R := fun s t : Source ↦ s.priority < t.priority)).1 hsrc
  · rename_i hnone
    have fresh := replaceSource_eq_none hnone
    -- the layers and `l` have distinct sources, hence distinct priorities
    have distinct : (layers ++ [l]).Pairwise fun a b ↦ a.source ≠ b.source := by
      rw [List.pairwise_append]
      refine ⟨h.imp fun hlt heq ↦ Nat.ne_of_lt hlt (congrArg Source.priority heq), by simp, ?_⟩
      simpa using fun a ha ↦ fresh a ha
    have sorted : ((layers ++ [l]).mergeSort fun a b ↦
        decide (a.source.priority ≤ b.source.priority)).Pairwise
          fun a b ↦ decide (a.source.priority ≤ b.source.priority) = true :=
      List.pairwise_mergeSort (by intro a b c; simp only [decide_eq_true_eq]; omega)
        (by intro a b; simp only [Bool.or_eq_true, decide_eq_true_eq]; omega) _
    have apart := (List.mergeSort_perm (layers ++ [l])
      (fun a b : Layer ↦ decide (a.source.priority ≤ b.source.priority))).symm.pairwise distinct
      (fun h ↦ Ne.symm h)
    refine (sorted.and apart).imp fun ⟨hle, hne⟩ ↦ ?_
    have : _ ≠ _ := fun heq ↦ hne (Source.priority_injective heq)
    simp only [decide_eq_true_eq] at hle
    omega

theorem Ascending.eraseP {layers : List Layer} (h : Ascending layers) (source : Source) :
    Ascending (layers.eraseP (·.source == source)) :=
  h.sublist List.eraseP_sublist

/-- The invariant of a layer set: the layers rank by strictly rising priority, and a fresh
cache holds their merge. -/
structure Sound (s : LayerSet) : Prop where
  ascending : Ascending s.layers
  fresh : s.dirty = false → ∀ t, s.merged = some t → t = mergeAll s.layers

theorem sound_empty : ({} : LayerSet).Sound :=
  ⟨List.Pairwise.nil, fun h ↦ by simp at h⟩

variable {s : LayerSet}

theorem Sound.put (h : s.Sound) (l : Layer) : (s.put l).Sound :=
  ⟨h.ascending.insertLayer l, fun h ↦ by simp [LayerSet.put] at h⟩

theorem Sound.remove (h : s.Sound) (source : Source) : (s.remove source).2.Sound := by
  unfold LayerSet.remove
  split
  · exact ⟨h.ascending.eraseP source, fun h ↦ by simp at h⟩
  · exact h

theorem remove_fst (s : LayerSet) (source : Source) :
    (s.remove source).1 = s.layers.any (·.source == source) := by
  unfold LayerSet.remove
  split <;> simp_all

theorem remove_layers (s : LayerSet) (source : Source) :
    (s.remove source).2.layers = s.layers.eraseP (·.source == source) := by
  unfold LayerSet.remove
  split
  · rfl
  · rename_i h
    exact (List.eraseP_of_forall_not (by simpa using h)).symm

/-- Under the invariant a merge answers the merge of the layers, cached or not. -/
theorem Sound.merge_fst (h : s.Sound) : s.merge.1 = mergeAll s.layers := by
  unfold LayerSet.merge
  split
  · rename_i t hdirty hmerged
    exact h.fresh hdirty t hmerged
  · rfl

theorem merge_layers (s : LayerSet) : s.merge.2.layers = s.layers := by
  unfold LayerSet.merge
  split <;> rfl

theorem Sound.merge (h : s.Sound) : s.merge.2.Sound := by
  unfold LayerSet.merge
  split
  · exact h
  · exact ⟨h.ascending, fun _ t ht ↦ by simp at ht; exact ht.symm⟩

/-- An operation on a layer set. -/
inductive Op where
  | put (l : Layer)
  | remove (source : Source)
  | get (source : Source)
  | sources
  | merge

/-- Whether an operation only reads the layers. -/
def Op.isRead : Op → Bool
  | .get _ | .sources | .merge => true
  | .put _ | .remove _ => false

/-- What an operation answers. -/
inductive Answer where
  | done
  | removed (found : Bool)
  | layer (l : Option Layer)
  | sources (ss : List Source)
  | merged (t : Tree)

/-- Carries out an operation. -/
def call (s : LayerSet) : Op → Answer × LayerSet
  | .put l => (.done, s.put l)
  | .remove source => (.removed (s.remove source).1, (s.remove source).2)
  | .get source => (.layer (s.get source), s)
  | .sources => (.sources s.sources, s)
  | .merge => (.merged s.merge.1, s.merge.2)

/-- Carries out operations in order: their answers, and the layer set they leave. -/
def run (s : LayerSet) : List Op → List Answer × LayerSet
  | [] => ([], s)
  | o :: os => ((s.call o).1 :: ((s.call o).2.run os).1, ((s.call o).2.run os).2)

theorem Sound.call (h : s.Sound) : ∀ o : Op, (s.call o).2.Sound
  | .put l => h.put l
  | .remove source => h.remove source
  | .get _ | .sources => h
  | .merge => h.merge

theorem Sound.run (h : s.Sound) (ops : List Op) : (s.run ops).2.Sound := by
  induction ops generalizing s with
  | nil => exact h
  | cons o os ih => exact ih (h.call o)

theorem run_append (s : LayerSet) (pre post : List Op) :
    s.run (pre ++ post) =
      ((s.run pre).1 ++ ((s.run pre).2.run post).1, ((s.run pre).2.run post).2) := by
  induction pre generalizing s with
  | nil => rfl
  | cons o os ih => simp [run, ih]

theorem length_run (s : LayerSet) (ops : List Op) : (s.run ops).1.length = ops.length := by
  induction ops generalizing s with
  | nil => rfl
  | cons o os ih => simp [run, ih]

/-- A read leaves the layers as they are. -/
theorem call_layers_of_isRead {o : Op} (hr : o.isRead = true) (s : LayerSet) :
    (s.call o).2.layers = s.layers := by
  cases o with
  | merge => exact merge_layers s
  | get _ | sources => rfl
  | put _ | remove _ => simp [Op.isRead] at hr

/-- **The cache is invisible**: sound layer sets with the same layers give the same answers
and keep the same layers, whatever their caches hold. -/
theorem run_congr {s s' : LayerSet} (h : s.Sound) (h' : s'.Sound) (same : s.layers = s'.layers)
    (ops : List Op) :
    (s.run ops).1 = (s'.run ops).1 ∧ (s.run ops).2.layers = (s'.run ops).2.layers := by
  induction ops generalizing s s' with
  | nil => exact ⟨rfl, same⟩
  | cons o os ih =>
    -- one call: the answer and the next layers are read off the layers alone
    have step : (s.call o).1 = (s'.call o).1 ∧ (s.call o).2.layers = (s'.call o).2.layers := by
      cases o with
      | put l => simp [LayerSet.call, LayerSet.put, same]
      | remove source => simp [LayerSet.call, remove_fst, remove_layers, same]
      | get source => simp [LayerSet.call, LayerSet.get, same]
      | sources => simp [LayerSet.call, LayerSet.sources, same]
      | merge => simp [LayerSet.call, h.merge_fst, h'.merge_fst, merge_layers, same]
    obtain ⟨hans, hrest⟩ := ih (h.call o) (h'.call o) step.2
    exact ⟨by simp [run, step.1, hans], hrest⟩

/-- **The cached merge is the merge of the current layers.** Over every sequence of
operations on a new layer set: a merge answers the merge of the layers the operations before
it left, computed afresh; the layers rank by strictly rising priority, one per source; and a
read anywhere in the sequence (a merge, a lookup, a listing of sources) leaves every later
answer and the layers as they would be without it, so nothing done with a merge's result
reaches a later merge or a layer. -/
theorem cached_merge_is_fresh_merge :
    (∀ pre post, (run {} (pre ++ .merge :: post)).1[pre.length]? =
      some (.merged (mergeAll (run {} pre).2.layers))) ∧
    (∀ ops, Ascending (run {} ops).2.layers ∧ ((run {} ops).2.layers.map (·.source)).Nodup) ∧
    (∀ pre post (r : Op), r.isRead = true →
      (run {} (pre ++ r :: post)).1.drop (pre.length + 1) =
        (run {} (pre ++ post)).1.drop pre.length ∧
      (run {} (pre ++ r :: post)).2.layers = (run {} (pre ++ post)).2.layers) := by
  refine ⟨fun pre post ↦ ?_, fun ops ↦ ?_, fun pre post r hr ↦ ?_⟩
  · have sound := sound_empty.run pre
    rw [run_append, List.getElem?_append_right (by simp [length_run]), length_run, Nat.sub_self]
    simp [run, LayerSet.call, sound.merge_fst]
  · have sound := sound_empty.run ops
    exact ⟨sound.ascending, sound.ascending.sources_nodup⟩
  · have sound := sound_empty.run pre
    -- after the read the layer set differs from the one before it at most in its cache
    obtain ⟨hans, hlayers⟩ := run_congr (sound.call r) sound
      (call_layers_of_isRead hr _) post
    rw [run_append, run_append]
    refine ⟨?_, hlayers⟩
    have hlen : pre.length = (run {} pre).1.length := (length_run _ _).symm
    rw [hlen, List.drop_append, List.drop_left]
    simp [run, hans]

end LayerSet

end LuaDebugger.Config
