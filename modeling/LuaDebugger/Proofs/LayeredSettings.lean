import LuaDebugger.Config.Store
/-!
# Which layer decides a setting

The merged configuration lays the layers over each other, lowest priority first: where two
layers hold maps at the same place the maps merge key by key, and anywhere else the upper
value replaces the lower one, a map replacing a plain value and a plain value replacing a
whole map. This module says, for every dotted path and every stack of layers, what reading
that path from the merged settings gives, in terms of the layers alone.

A layer **decides** a path when it holds a value at the path, or a value that is not a map at
a proper prefix of it (`Tree.Decides`). Layers that hold only maps along the path, and no
value at it, leave the path to the layers below them.

* `lookup_merge` is the rule of one merge at one key: the upper tree's value, laid over the
  lower one's by `Datum.overlay`, or the lower one's when the upper tree has none.
* `follow_overlay_of_follow`, `follow_overlay_of_leafAbove` and
  `follow_overlay_of_undecided` follow a whole path through one overlay: the upper layer's
  value laid over what lies below, nothing past a plain value, or what lies below.
* `merged_get_decided_by_highest_layer`: with no deciding layer the path is absent; otherwise
  the deciding layer of highest priority gives its plain value, or absence when it decides
  through a prefix, or its map merged key by key over what the layers below it give.

The maps of a layer are Go maps, so each holds a key once (`Datum.WellKeyed`); the rule of a
merge holds for such maps.
-/

namespace LuaDebugger.Config

/-! ### Entry lists as maps -/

theorem lookup_cons (k k₀ : String) (w : Datum) (es : List (String × Datum)) :
    Datum.lookup ((k₀, w) :: es) k = if k = k₀ then some w else Datum.lookup es k := by
  by_cases h : k = k₀
  · subst h
    simp [Datum.lookup]
  · simp [Datum.lookup, Ne.symm h, h]

/-- Inserting sets one key and keeps every other, whether or not the entries are sorted. -/
theorem lookup_insertEntry (es : List (String × Datum)) (k k' : String) (v : Datum) :
    Datum.lookup (Datum.insertEntry es k v) k' =
      if k' = k then some v else Datum.lookup es k' := by
  induction es with
  | nil => simp [Datum.insertEntry, lookup_cons]
  | cons e es ih =>
    obtain ⟨k₀, w⟩ := e
    by_cases same : k = k₀
    · subst same
      simp only [Datum.insertEntry, if_pos, lookup_cons]
      grind
    · by_cases before : k < k₀
      · simp only [Datum.insertEntry, same, before, if_false, if_true, lookup_cons]
      · simp only [Datum.insertEntry, same, before, if_false, lookup_cons, ih]
        grind

theorem lookup_eq_none_of_not_mem {es : List (String × Datum)} {k : String}
    (h : k ∉ es.map (·.1)) : Datum.lookup es k = none := by
  induction es with
  | nil => rfl
  | cons e es ih =>
    obtain ⟨k₀, w⟩ := e
    simp only [List.map_cons, List.mem_cons, not_or] at h
    rw [lookup_cons, if_neg h.1, ih h.2]

theorem mem_of_lookup_eq_some {es : List (String × Datum)} {k : String} {v : Datum}
    (h : Datum.lookup es k = some v) : (k, v) ∈ es := by
  obtain ⟨e, he, rfl⟩ := Option.map_eq_some_iff.1 h
  have hk : e.1 = k := by simpa using List.find?_some he
  rw [← hk]
  exact List.mem_of_find?_eq_some he

/-! ### Laying one tree over another -/

/-- Whether a datum is a map. -/
def Datum.isMap : Datum → Bool
  | .map _ => true
  | _ => false

/-- The value `v` of an upper layer laid over the value below it: two maps merge, and any
other upper value stands alone. -/
def Datum.overlay : Option Datum → Datum → Datum
  | some (.map d), .map s => .map (Tree.merge d s)
  | _, v => v

/-- Every map met along the maps of a datum holds each key once, as the maps of a layer do. -/
inductive Datum.WellKeyed : Datum → Prop
  | map {es : Tree} (keys : (es.map (·.1)).Nodup) (entries : ∀ e ∈ es, Datum.WellKeyed e.2) :
      Datum.WellKeyed (.map es)
  | leaf {d : Datum} (h : Datum.isMap d = false) : Datum.WellKeyed d

theorem overlay_map_map (d s : Tree) :
    Datum.overlay (some (.map d)) (.map s) = .map (Tree.merge d s) := rfl

theorem overlay_of_not_map {a : Option Datum} (h : ∀ d, a ≠ some (.map d)) (u : Datum) :
    Datum.overlay a u = u := by
  unfold Datum.overlay
  split
  · exact absurd rfl (h _)
  · rfl

theorem overlay_of_isMap_false (a : Option Datum) {u : Datum} (h : Datum.isMap u = false) :
    Datum.overlay a u = u := by
  unfold Datum.overlay
  split
  · simp [Datum.isMap] at h
  · rfl

theorem exists_of_isMap {d : Datum} (h : Datum.isMap d = true) : ∃ s, d = .map s := by
  cases d <;> simp_all [Datum.isMap]

/-- One entry of the upper tree is laid over the lower tree's value at its key. -/
theorem merge_cons (lower rest : Tree) (k : String) (v : Datum) :
    Tree.merge lower ((k, v) :: rest) =
      Tree.merge (Datum.insertEntry lower k (Datum.overlay (Datum.lookup lower k) v)) rest := by
  cases v with
  | map s =>
    rw [Tree.merge]
    congr 2
    split <;> simp_all [Datum.overlay]
  | _ => rw [Tree.merge] <;> simp [Datum.overlay]

/-- **The rule of one merge at one key**, for an upper tree that holds each key once. -/
theorem lookup_merge (lower upper : Tree) (keys : (upper.map (·.1)).Nodup) (k : String) :
    Datum.lookup (Tree.merge lower upper) k =
      match Datum.lookup upper k with
      | none => Datum.lookup lower k
      | some v => some (Datum.overlay (Datum.lookup lower k) v) := by
  induction upper generalizing lower with
  | nil =>
    rw [Tree.merge]
    rfl
  | cons e rest ih =>
    obtain ⟨k₀, v⟩ := e
    rw [List.map_cons, List.nodup_cons] at keys
    rw [merge_cons, ih _ keys.2, lookup_cons, lookup_insertEntry]
    by_cases same : k = k₀
    · -- the key is written once, so the rest of the upper tree leaves it alone
      subst same
      rw [lookup_eq_none_of_not_mem keys.1]
      simp
    · simp [same]

theorem wellKeyed_map_iff (es : Tree) :
    Datum.WellKeyed (.map es) ↔ (es.map (·.1)).Nodup ∧ ∀ e ∈ es, Datum.WellKeyed e.2 := by
  constructor
  · intro h
    cases h with
    | map keys entries => exact ⟨keys, entries⟩
    | leaf h => simp [Datum.isMap] at h
  · exact fun ⟨keys, entries⟩ ↦ .map keys entries

theorem Datum.WellKeyed.keys {es : Tree} (h : Datum.WellKeyed (.map es)) :
    (es.map (·.1)).Nodup :=
  ((wellKeyed_map_iff es).1 h).1

theorem Datum.WellKeyed.of_lookup {es : Tree} (h : Datum.WellKeyed (.map es)) {k : String}
    {w : Datum} (hk : Datum.lookup es k = some w) : Datum.WellKeyed w :=
  ((wellKeyed_map_iff es).1 h).2 _ (mem_of_lookup_eq_some hk)

/-! ### Following a path through an overlay -/

theorem follow_nil (d : Datum) : Datum.follow d [] = some d := by
  simp [Datum.follow]

theorem follow_map_cons (es : Tree) (k : String) (ks : List String) :
    Datum.follow (.map es) (k :: ks) = (Datum.lookup es k).bind (Datum.follow · ks) := by
  simp [Datum.follow]

theorem follow_cons_of_isMap_false {d : Datum} (h : Datum.isMap d = false) (k : String)
    (ks : List String) : Datum.follow d (k :: ks) = none := by
  cases d <;> simp_all [Datum.follow, Datum.isMap]

theorem exists_of_follow_cons {u v : Datum} {k : String} {ks : List String}
    (h : Datum.follow u (k :: ks) = some v) :
    ∃ s w, u = .map s ∧ Datum.lookup s k = some w ∧ Datum.follow w ks = some v := by
  cases u <;> simp_all [Datum.follow, Option.bind_eq_some_iff]

/-- Below a value that is not a map, no path leads anywhere. -/
theorem bind_follow_cons {a : Option Datum} (h : ∀ d, a ≠ some (.map d)) (k : String)
    (ks : List String) : a.bind (Datum.follow · (k :: ks)) = none := by
  rcases a with _ | x
  · rfl
  · cases x <;> simp_all [Datum.follow]

/-- A datum holds a value that is not a map at a proper prefix of the names `ks`. -/
def Datum.LeafAbove (d : Datum) (ks : List String) : Prop :=
  ∃ q v, q <+: ks ∧ q.length < ks.length ∧ Datum.follow d q = some v ∧ Datum.isMap v = false

theorem not_leafAbove_nil (d : Datum) : ¬ Datum.LeafAbove d [] := by
  rintro ⟨q, v, hq, hlen, -⟩
  rw [List.prefix_nil.1 hq] at hlen
  exact Nat.lt_irrefl 0 hlen

theorem leafAbove_cons_of_isMap_false {d : Datum} (h : Datum.isMap d = false) (k : String)
    (ks : List String) : Datum.LeafAbove d (k :: ks) :=
  ⟨[], d, List.nil_prefix, by simp, follow_nil d, h⟩

theorem leafAbove_map_cons (s : Tree) (k : String) (ks : List String) :
    Datum.LeafAbove (.map s) (k :: ks) ↔
      ∃ w, Datum.lookup s k = some w ∧ Datum.LeafAbove w ks := by
  constructor
  · rintro ⟨q, v, hq, hlen, hv, leaf⟩
    -- the empty prefix reads the map itself, so the plain value lies under the first key
    rcases List.prefix_cons_iff.1 hq with rfl | ⟨q', rfl, hq'⟩
    · rw [follow_nil] at hv
      cases hv
      simp [Datum.isMap] at leaf
    · rw [follow_map_cons, Option.bind_eq_some_iff] at hv
      obtain ⟨w, hw, hv⟩ := hv
      exact ⟨w, hw, q', v, hq', by simpa using hlen, hv, leaf⟩
  · rintro ⟨w, hw, q, v, hq, hlen, hv, leaf⟩
    refine ⟨k :: q, v, List.cons_prefix_cons.2 ⟨rfl, hq⟩, by simpa using hlen, ?_, leaf⟩
    rw [follow_map_cons, hw]
    exact hv

/-- Where the upper value holds a value at a path, the overlay holds that value laid over what
lies below it there. -/
theorem follow_overlay_of_follow :
    ∀ {ks : List String} {a : Option Datum} {u v : Datum}, Datum.WellKeyed u →
      Datum.follow u ks = some v →
      Datum.follow (Datum.overlay a u) ks = some (Datum.overlay (a.bind (Datum.follow · ks)) v)
  | [], a, u, v, _, h => by
    rw [follow_nil] at h
    cases h
    simp [follow_nil]
  | k :: ks, a, u, v, hu, h => by
    obtain ⟨s, w, rfl, hw, hv⟩ := exists_of_follow_cons h
    by_cases below : ∃ d, a = some (.map d)
    · obtain ⟨d, rfl⟩ := below
      rw [overlay_map_map, follow_map_cons, lookup_merge _ _ hu.keys, hw]
      simpa [follow_map_cons] using follow_overlay_of_follow (hu.of_lookup hw) hv
    · simp only [not_exists] at below
      rw [overlay_of_not_map below, bind_follow_cons below, h]
      rfl

/-- Past a plain value of the upper datum the overlay holds nothing. -/
theorem follow_overlay_of_leafAbove :
    ∀ {ks : List String} {a : Option Datum} {u : Datum}, Datum.WellKeyed u →
      Datum.LeafAbove u ks → Datum.follow (Datum.overlay a u) ks = none
  | [], _, u, _, h => absurd h (not_leafAbove_nil u)
  | k :: ks, a, u, hu, h => by
    cases hm : Datum.isMap u
    · rw [overlay_of_isMap_false a hm, follow_cons_of_isMap_false hm]
    · obtain ⟨s, rfl⟩ := exists_of_isMap hm
      obtain ⟨w, hw, hleaf⟩ := (leafAbove_map_cons s k ks).1 h
      by_cases below : ∃ d, a = some (.map d)
      · obtain ⟨d, rfl⟩ := below
        rw [overlay_map_map, follow_map_cons, lookup_merge _ _ hu.keys, hw]
        exact follow_overlay_of_leafAbove (hu.of_lookup hw) hleaf
      · simp only [not_exists] at below
        rw [overlay_of_not_map below, follow_map_cons, hw]
        simpa [Datum.overlay] using follow_overlay_of_leafAbove (a := none) (hu.of_lookup hw) hleaf

/-- Where the upper datum neither holds a value at a path nor a plain value above it, the
overlay holds what lies below. -/
theorem follow_overlay_of_undecided :
    ∀ {ks : List String} {a : Option Datum} {u : Datum}, Datum.WellKeyed u →
      Datum.follow u ks = none → ¬ Datum.LeafAbove u ks →
      Datum.follow (Datum.overlay a u) ks = a.bind (Datum.follow · ks)
  | [], _, u, _, h, _ => by simp [follow_nil] at h
  | k :: ks, a, u, hu, hnone, hnot => by
    cases hm : Datum.isMap u
    · exact absurd (leafAbove_cons_of_isMap_false hm k ks) hnot
    · obtain ⟨s, rfl⟩ := exists_of_isMap hm
      by_cases below : ∃ d, a = some (.map d)
      · obtain ⟨d, rfl⟩ := below
        rw [overlay_map_map, follow_map_cons, lookup_merge _ _ hu.keys]
        cases hw : Datum.lookup s k with
        | none => simp [follow_map_cons]
        | some w =>
          have hnone' : Datum.follow w ks = none := by simpa [follow_map_cons, hw] using hnone
          have hnot' : ¬ Datum.LeafAbove w ks :=
            fun h ↦ hnot ((leafAbove_map_cons s k ks).2 ⟨w, hw, h⟩)
          simpa [follow_map_cons] using follow_overlay_of_undecided (hu.of_lookup hw) hnone' hnot'
      · simp only [not_exists] at below
        rw [overlay_of_not_map below, bind_follow_cons below, hnone]

/-! ### The layers of a configuration -/

/-- A layer decides a path when it holds a value there, or a value that is not a map at a
proper prefix of it. -/
def Tree.Decides (t : Tree) (path : String) : Prop :=
  (t.get? path).isSome ∨ ∃ ks, segments? path = some ks ∧ Datum.LeafAbove (.map t) ks

theorem segments?_ne_nil {path : String} {ks : List String} (h : segments? path = some ks) :
    ks ≠ [] := by
  unfold segments? at h
  split at h
  · cases h
  · simp only at h
    split at h
    · cases h
    · cases h
      simp

/-- Layers that do not decide a path leave it as the layers below them have it. -/
theorem merge_foldl_of_undecided {ks : List String} (post : List Layer)
    (keys : ∀ l ∈ post, Datum.WellKeyed (.map l.data))
    (undecided : ∀ l ∈ post,
      Datum.follow (.map l.data) ks = none ∧ ¬ Datum.LeafAbove (.map l.data) ks) (acc : Tree) :
    Datum.follow (.map (post.foldl (fun acc l ↦ Tree.merge acc l.data) acc)) ks =
      Datum.follow (.map acc) ks := by
  induction post generalizing acc with
  | nil => rfl
  | cons l post ih =>
    rw [List.foldl_cons, ih (fun l' h ↦ keys l' (.tail _ h)) (fun l' h ↦ undecided l' (.tail _ h)),
      ← overlay_map_map, follow_overlay_of_undecided (keys l (.head _))
        (undecided l (.head _)).1 (undecided l (.head _)).2]
    rfl

/-- The merge of layers whose last decider is `L`: what `L` laid over the layers below it
holds at the path. -/
theorem follow_merge_of_top {ks : List String} (pre post : List Layer) (L : Layer)
    (keys : ∀ l ∈ post, Datum.WellKeyed (.map l.data))
    (undecided : ∀ l ∈ post,
      Datum.follow (.map l.data) ks = none ∧ ¬ Datum.LeafAbove (.map l.data) ks) :
    Datum.follow (.map ((pre ++ L :: post).foldl (fun acc l ↦ Tree.merge acc l.data) [])) ks =
      Datum.follow (Datum.overlay
        (some (.map (pre.foldl (fun acc l ↦ Tree.merge acc l.data) []))) (.map L.data)) ks := by
  rw [List.foldl_append, List.foldl_cons, merge_foldl_of_undecided post keys undecided,
    overlay_map_map]

/-- **The highest deciding layer decides a setting.** For layers of strictly ascending
priority whose maps hold each key once: a path no layer decides is absent from the merged
settings. Otherwise let `L` be the deciding layer of highest priority. A plain value of `L` at
the path is the merged value; a path `L` decides only through a plain value above it is
absent; and a map of `L` at the path is merged key by key over what the layers below `L` give
there. -/
theorem merged_get_decided_by_highest_layer (s : Store) (path : String)
    (keys : ∀ l ∈ s.layers.layers, Datum.WellKeyed (.map l.data))
    (ascending : s.layers.layers.Pairwise fun a b ↦ a.source.priority < b.source.priority) :
    ((∀ l ∈ s.layers.layers, ¬ l.data.Decides path) → s.merged.get? path = none) ∧
    ∀ L ∈ s.layers.layers, L.data.Decides path →
      (∀ l ∈ s.layers.layers, l.data.Decides path → l.source.priority ≤ L.source.priority) →
      (∀ v, L.data.get? path = some v → Datum.isMap v = false →
        s.merged.get? path = some v) ∧
      (L.data.get? path = none → s.merged.get? path = none) ∧
      (∀ m, L.data.get? path = some (.map m) →
        s.merged.get? path = some (Datum.overlay
          ((LayerSet.mergeAll (s.layers.layers.filter (·.source.priority < L.source.priority))).get?
            path) (.map m))) := by
  cases hseg : segments? path with
  | none =>
    -- a refused path reads as absent everywhere, so no layer decides it
    have absent : ∀ t : Tree, t.get? path = none := fun t ↦ by simp [Tree.get?, hseg]
    refine ⟨fun _ ↦ absent _, fun L _ hdec _ ↦ ?_⟩
    simp [Tree.Decides, absent, hseg] at hdec
  | some ks =>
    have get_eq : ∀ t : Tree, t.get? path = Datum.follow (.map t) ks := fun t ↦ by
      simp [Tree.get?, hseg]
    have decides_iff : ∀ t : Tree,
        t.Decides path ↔ (Datum.follow (.map t) ks).isSome ∨ Datum.LeafAbove (.map t) ks := by
      intro t
      simp [Tree.Decides, get_eq, hseg]
    have undecided_of : ∀ t : Tree, ¬ t.Decides path →
        Datum.follow (.map t) ks = none ∧ ¬ Datum.LeafAbove (.map t) ks := by
      intro t h
      simpa [decides_iff, Option.isSome_iff_ne_none] using h
    obtain ⟨k, ks', rfl⟩ := List.exists_cons_of_ne_nil (segments?_ne_nil hseg)
    constructor
    · intro none_decides
      rw [get_eq, Store.merged, LayerSet.mergeAll, merge_foldl_of_undecided _ keys
        (fun l hl ↦ undecided_of _ (none_decides l hl))]
      rfl
    · intro L hL hdec htop
      obtain ⟨pre, post, hsplit⟩ := List.append_of_mem hL
      rw [hsplit, List.pairwise_append, List.pairwise_cons] at ascending
      have above : ∀ l ∈ post, L.source.priority < l.source.priority := ascending.2.1.1
      have below : ∀ l ∈ pre, l.source.priority < L.source.priority :=
        fun l hl ↦ ascending.2.2 l hl L (.head _)
      -- the layers after `L` rank above it, so none of them decides the path
      have post_undecided : ∀ l ∈ post, ¬ l.data.Decides path := by
        intro l hl hl'
        have := htop l (hsplit ▸ List.mem_append_right _ (.tail _ hl)) hl'
        have := above l hl
        omega
      have post_keys : ∀ l ∈ post, Datum.WellKeyed (.map l.data) :=
        fun l hl ↦ keys l (hsplit ▸ List.mem_append_right _ (.tail _ hl))
      have L_keys : Datum.WellKeyed (.map L.data) := keys L hL
      have lower : s.layers.layers.filter (·.source.priority < L.source.priority) = pre := by
        rw [hsplit, List.filter_append, List.filter_cons,
          List.filter_eq_self.2 (by simpa using below),
          List.filter_eq_nil_iff.2 (by simpa using fun l hl ↦ Nat.le_of_lt (above l hl))]
        simp
      have merged_eq : s.merged.get? path = Datum.follow (Datum.overlay
          (some (.map (pre.foldl (fun acc l ↦ Tree.merge acc l.data) []))) (.map L.data))
          (k :: ks') := by
        rw [get_eq, Store.merged, LayerSet.mergeAll, hsplit,
          follow_merge_of_top pre post L post_keys (fun l hl ↦ undecided_of _ (post_undecided l hl))]
      refine ⟨fun v hv leaf ↦ ?_, fun hnone ↦ ?_, fun m hm ↦ ?_⟩
      · rw [merged_eq, follow_overlay_of_follow L_keys (by rwa [← get_eq]),
          overlay_of_isMap_false _ leaf]
      · have leafAbove : Datum.LeafAbove (.map L.data) (k :: ks') := by
          rcases (decides_iff _).1 hdec with h | h
          · simp [← get_eq, hnone] at h
          · exact h
        rw [merged_eq, follow_overlay_of_leafAbove L_keys leafAbove]
      · rw [merged_eq, follow_overlay_of_follow L_keys (by rwa [← get_eq]), lower, get_eq]
        rfl

/-- Three layers: a default port, a configuration file that sets the whole `server` section to
a plain value, and a command line that sets a host under `server`. -/
def fileScalarOverDefaults : Store where
  layers := { layers := [⟨.builtin, [("server", .map [("port", .int 7777)])]⟩,
    ⟨.file, [("server", .text "off")]⟩,
    ⟨.arguments, [("server", .map [("host", .text "h")])]⟩] }

/-- The file decides `server.port` through its plain `server`, and the command line's map does
not bring the default port back. -/
theorem file_scalar_hides_default_port :
    (∀ l ∈ fileScalarOverDefaults.layers.layers, Datum.WellKeyed (.map l.data)) ∧
    fileScalarOverDefaults.layers.layers.Pairwise (fun a b ↦ a.source.priority < b.source.priority) ∧
    fileScalarOverDefaults.merged.get? "server.port" = none := by
  have hseg : segments? "server.port" = some ["server", "port"] := by
    decide
  have keys : ∀ l ∈ fileScalarOverDefaults.layers.layers, Datum.WellKeyed (.map l.data) := by
    simp [fileScalarOverDefaults, wellKeyed_map_iff]
    exact ⟨.leaf rfl, .leaf rfl, .leaf rfl⟩
  have ascending : fileScalarOverDefaults.layers.layers.Pairwise
      (fun a b ↦ a.source.priority < b.source.priority) := by decide
  obtain ⟨-, top⟩ := merged_get_decided_by_highest_layer _ "server.port" keys ascending
  refine ⟨keys, ascending,
    (top ⟨.file, [("server", .text "off")]⟩ (by simp [fileScalarOverDefaults]) ?_ ?_).2.1 ?_⟩
  · exact .inr ⟨_, hseg, (leafAbove_map_cons _ _ _).2
      ⟨_, rfl, leafAbove_cons_of_isMap_false rfl _ _⟩⟩
  · simp only [fileScalarOverDefaults, List.mem_cons, List.not_mem_nil, or_false,
      forall_eq_or_imp, forall_eq]
    refine ⟨fun _ ↦ by decide, fun _ ↦ Nat.le_refl _, fun h ↦ ?_⟩
    -- the command line holds only a map along the path, and no port
    simp [Tree.Decides, Tree.get?, hseg, leafAbove_map_cons, Datum.follow, Datum.lookup] at h
  · simp [Tree.get?, hseg, Datum.follow, lookup_cons]

end LuaDebugger.Config
