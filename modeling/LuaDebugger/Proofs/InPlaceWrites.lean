import LuaDebugger.Proofs.LayeredSettings
/-!
# Writing a setting in place

`Tree.write` writes a value at a dotted path the way a shared nested map is written: it
walks down the names, stores a new map at each missing name before it goes down into it, and
stops at a value that is not a map. Nothing undoes what the walk did before it stopped, so
whether a failed write leaves the tree as it was is a property of the walk. It does: the walk
can only stop above the maps it made, since below a new map every name is missing.

For every tree, path and value:

* `writeAt_outcome`: the write fails, with `invalidPath`, exactly when a proper prefix of its
  names holds a value that is not a map;
* `follow_writeAt_self` and `follow_writeAt_of_apart`: a write that succeeds reads back at its
  names, and every list of names that is neither a prefix nor an extension of them reads as
  before;
* `writeAt_fst_of_error`: a write that fails gives back the tree it was given, for trees whose
  maps list their keys in rising order (`Datum.Ordered`), as the trees of a configuration do.

`Tree.write_reads_back_or_changes_nothing` puts these together for dotted paths.
-/

namespace LuaDebugger.Config

/-! ### Maps kept in key order -/

/-- Every map met along a datum lists its keys in strictly rising order, as the maps of a
configuration are kept. -/
inductive Datum.Ordered : Datum → Prop
  | map {es : Tree} (keys : (es.map (·.1)).Pairwise (· < ·))
      (entries : ∀ e ∈ es, Datum.Ordered e.2) : Datum.Ordered (.map es)
  | leaf {d : Datum} (h : Datum.isMap d = false) : Datum.Ordered d

theorem ordered_map_iff (es : Tree) :
    Datum.Ordered (.map es) ↔ (es.map (·.1)).Pairwise (· < ·) ∧ ∀ e ∈ es, Datum.Ordered e.2 := by
  constructor
  · intro h
    cases h with
    | map keys entries => exact ⟨keys, entries⟩
    | leaf h => simp [Datum.isMap] at h
  · rintro ⟨keys, entries⟩
    exact .map keys entries

theorem Datum.Ordered.of_lookup {es : Tree} (h : Datum.Ordered (.map es)) {k : String}
    {w : Datum} (hk : Datum.lookup es k = some w) : Datum.Ordered w :=
  ((ordered_map_iff es).1 h).2 _ (mem_of_lookup_eq_some hk)

/-- Setting a key of a map in key order to the value it holds leaves the map as it is. -/
theorem insertEntry_lookup_self {es : Tree} (h : (es.map (·.1)).Pairwise (· < ·)) {k : String}
    {w : Datum} (hk : Datum.lookup es k = some w) : Datum.insertEntry es k w = es := by
  induction es with
  | nil => cases hk
  | cons e rest ih =>
    obtain ⟨k₀, w₀⟩ := e
    rw [List.map_cons, List.pairwise_cons] at h
    rw [lookup_cons] at hk
    by_cases same : k = k₀
    · rw [if_pos same] at hk
      cases hk
      simp [Datum.insertEntry, same]
    · rw [if_neg same] at hk
      -- the key lies further on, so it is above the first key
      have above : k₀ < k := h.1 k (List.mem_map_of_mem (mem_of_lookup_eq_some hk))
      have not_below : ¬ k < k₀ := fun hlt ↦ String.lt_irrefl _ (String.lt_trans hlt above)
      simp only [Datum.insertEntry, same, not_below, if_false, ih h.2 hk]

/-! ### One step of an in-place write -/

section Steps

variable (t : Tree) (v : Datum)

theorem writeAt_nil : t.writeAt [] v = (t, .ok ()) := by
  simp [Tree.writeAt]

theorem writeAt_singleton (k : String) :
    t.writeAt [k] v = (Datum.insertEntry t k v, .ok ()) := by
  simp [Tree.writeAt]

variable {t} (k k' : String) (ks : List String)

/-- A missing name gets a new map, written into before it is stored. -/
theorem writeAt_of_lookup_none (h : Datum.lookup t k = none) :
    t.writeAt (k :: k' :: ks) v =
      (Datum.insertEntry t k (.map (Tree.writeAt [] (k' :: ks) v).1),
        (Tree.writeAt [] (k' :: ks) v).2) := by
  simp [Tree.writeAt, h]

/-- A map under the name is written into and stored back. -/
theorem writeAt_of_lookup_map {sub : Tree} (h : Datum.lookup t k = some (.map sub)) :
    t.writeAt (k :: k' :: ks) v =
      (Datum.insertEntry t k (.map (sub.writeAt (k' :: ks) v).1),
        (sub.writeAt (k' :: ks) v).2) := by
  simp [Tree.writeAt, h]

/-- A value that is not a map under the name stops the walk. -/
theorem writeAt_of_lookup_leaf {d : Datum} (h : Datum.lookup t k = some d)
    (hd : Datum.isMap d = false) :
    t.writeAt (k :: k' :: ks) v = (t, .error .invalidPath) := by
  cases d <;> simp_all [Tree.writeAt, Datum.isMap]

end Steps

/-- The value under a name of a map, when there is one: nothing, a map, or a value that is
not a map. -/
theorem lookup_cases (t : Tree) (k : String) :
    Datum.lookup t k = none ∨ (∃ sub, Datum.lookup t k = some (.map sub)) ∨
      ∃ d, Datum.lookup t k = some d ∧ Datum.isMap d = false := by
  rcases h : Datum.lookup t k with _ | d
  · exact .inl rfl
  · cases hd : Datum.isMap d
    · exact .inr (.inr ⟨d, rfl, hd⟩)
    · obtain ⟨sub, rfl⟩ := exists_of_isMap hd
      exact .inr (.inl ⟨sub, rfl⟩)

/-! ### What a write does -/

/-- **A write fails exactly at a value that is not a map above its names**, and then with
`invalidPath`; else it succeeds. -/
theorem writeAt_outcome (t : Tree) (ks : List String) (v : Datum) :
    ((t.writeAt ks v).2 = .ok () ∧ ¬ Datum.LeafAbove (.map t) ks) ∨
      ((t.writeAt ks v).2 = .error .invalidPath ∧ Datum.LeafAbove (.map t) ks) := by
  induction ks generalizing t with
  | nil => exact .inl ⟨by rw [writeAt_nil], not_leafAbove_nil _⟩
  | cons k rest ih =>
    cases rest with
    | nil =>
      refine .inl ⟨by rw [writeAt_singleton], fun h ↦ ?_⟩
      obtain ⟨w, -, hw⟩ := (leafAbove_map_cons t k []).1 h
      exact not_leafAbove_nil w hw
    | cons k' ks =>
      rcases lookup_cases t k with hk | ⟨sub, hk⟩ | ⟨d, hk, hd⟩
      · -- the new map is empty, so nothing below it stops the walk
        have fresh : ¬ Datum.LeafAbove (.map []) (k' :: ks) := fun h ↦ by
          obtain ⟨w, hw, -⟩ := (leafAbove_map_cons [] k' ks).1 h
          cases hw
        rcases ih [] with ⟨hok, -⟩ | ⟨-, hleaf⟩
        · refine .inl ⟨by rw [writeAt_of_lookup_none v k k' ks hk, hok], fun h ↦ ?_⟩
          obtain ⟨w, hw, -⟩ := (leafAbove_map_cons t k _).1 h
          rw [hk] at hw
          cases hw
        · exact absurd hleaf fresh
      · rw [writeAt_of_lookup_map v k k' ks hk]
        have above : Datum.LeafAbove (.map t) (k :: k' :: ks) ↔
            Datum.LeafAbove (.map sub) (k' :: ks) := by
          rw [leafAbove_map_cons, hk]
          simp
        rw [above]
        exact ih sub
      · rw [writeAt_of_lookup_leaf v k k' ks hk hd]
        exact .inr ⟨rfl, (leafAbove_map_cons t k _).2
          ⟨d, hk, leafAbove_cons_of_isMap_false hd k' ks⟩⟩

/-- A write that succeeds reads back at its names. -/
theorem follow_writeAt_self {t : Tree} {ks : List String} {v : Datum} (hks : ks ≠ [])
    (h : (t.writeAt ks v).2 = .ok ()) : Datum.follow (.map (t.writeAt ks v).1) ks = some v := by
  induction ks generalizing t with
  | nil => exact absurd rfl hks
  | cons k rest ih =>
    cases rest with
    | nil => simp [writeAt_singleton, follow_map_cons, lookup_insertEntry, follow_nil]
    | cons k' ks =>
      rcases lookup_cases t k with hk | ⟨sub, hk⟩ | ⟨d, hk, hd⟩
      · rw [writeAt_of_lookup_none v k k' ks hk] at h ⊢
        simpa [follow_map_cons, lookup_insertEntry] using ih (List.cons_ne_nil _ _) h
      · rw [writeAt_of_lookup_map v k k' ks hk] at h ⊢
        simpa [follow_map_cons, lookup_insertEntry] using ih (List.cons_ne_nil _ _) h
      · rw [writeAt_of_lookup_leaf v k k' ks hk hd] at h
        cases h

/-- A write that succeeds leaves every list of names that is neither a prefix nor an extension
of its names reading as before. -/
theorem follow_writeAt_of_apart {t : Tree} {ks : List String} {v : Datum}
    (h : (t.writeAt ks v).2 = .ok ()) {qs : List String} (hq : ¬ qs <+: ks) (hk : ¬ ks <+: qs) :
    Datum.follow (.map (t.writeAt ks v).1) qs = Datum.follow (.map t) qs := by
  induction ks generalizing t qs with
  | nil => exact absurd List.nil_prefix hk
  | cons k rest ih =>
    -- the empty list of names is a prefix of every other
    cases qs with
    | nil => exact absurd List.nil_prefix hq
    | cons q qs =>
    by_cases same : q = k
    · subst same
      have hq' : ¬ qs <+: rest := fun h ↦ hq (List.cons_prefix_cons.2 ⟨rfl, h⟩)
      have hk' : ¬ rest <+: qs := fun h ↦ hk (List.cons_prefix_cons.2 ⟨rfl, h⟩)
      cases rest with
      | nil => exact absurd List.nil_prefix hk'
      | cons k' ks =>
        rcases lookup_cases t q with hl | ⟨sub, hl⟩ | ⟨d, hl, hd⟩
        · rw [writeAt_of_lookup_none v q k' ks hl] at h ⊢
          -- under the new map only the names below `q` were written
          cases qs with
          | nil => exact absurd List.nil_prefix hq'
          | cons q' qs' =>
          have below := ih h hq' hk'
          rw [follow_map_cons, follow_map_cons, lookup_insertEntry, if_pos rfl, hl,
            Option.bind_some, Option.bind_none, below]
          rfl
        · rw [writeAt_of_lookup_map v q k' ks hl] at h ⊢
          simp only [follow_map_cons, lookup_insertEntry, if_true, hl, Option.bind_some]
          exact ih h hq' hk'
        · rw [writeAt_of_lookup_leaf v q k' ks hl hd] at h
          cases h
    · -- a first name other than `k` reads past the one entry the write changed
      cases rest with
      | nil => simp [writeAt_singleton, follow_map_cons, lookup_insertEntry, same]
      | cons k' ks =>
        rcases lookup_cases t k with hl | ⟨sub, hl⟩ | ⟨d, hl, hd⟩
        · simp [writeAt_of_lookup_none v k k' ks hl, follow_map_cons, lookup_insertEntry, same]
        · simp [writeAt_of_lookup_map v k k' ks hl, follow_map_cons, lookup_insertEntry, same]
        · simp [writeAt_of_lookup_leaf v k k' ks hl hd]

/-- **A write that fails gives back the tree it was given.** Below a map the walk made every
name is missing, so the walk stops only above the maps it made, where it wrote each map back
under its own name. -/
theorem writeAt_fst_of_error {t : Tree} (ht : Datum.Ordered (.map t)) {ks : List String}
    {v : Datum} (h : (t.writeAt ks v).2 ≠ .ok ()) : (t.writeAt ks v).1 = t := by
  induction ks generalizing t with
  | nil => exact absurd (by rw [writeAt_nil]) h
  | cons k rest ih =>
    cases rest with
    | nil => exact absurd (by rw [writeAt_singleton]) h
    | cons k' ks =>
      rcases lookup_cases t k with hk | ⟨sub, hk⟩ | ⟨d, hk, hd⟩
      · -- the empty map made here cannot stop the walk
        rw [writeAt_of_lookup_none v k k' ks hk] at h
        rcases writeAt_outcome [] (k' :: ks) v with ⟨hok, -⟩ | ⟨-, hleaf⟩
        · exact absurd hok h
        · obtain ⟨w, hw, -⟩ := (leafAbove_map_cons [] k' ks).1 hleaf
          cases hw
      · rw [writeAt_of_lookup_map v k k' ks hk] at h ⊢
        rw [ih (ht.of_lookup hk) h]
        exact insertEntry_lookup_self ((ordered_map_iff t).1 ht).1 hk
      · rw [writeAt_of_lookup_leaf v k k' ks hk hd]

/-! ### Writes at dotted paths -/

/-- Two dotted paths overlap when the names of one are a prefix of the names of the other. -/
def Tree.Overlap (p q : String) : Prop :=
  ∃ ps qs, segments? p = some ps ∧ segments? q = some qs ∧ (qs <+: ps ∨ ps <+: qs)

/-- **Writing a setting in place.** A write that succeeds reads back at its path and leaves
every path that is neither a prefix nor an extension of it as it was. A write fails exactly
when the path has an empty segment or a proper prefix of it holds a value that is not a map,
and then with `invalidPath` and the tree it was given. -/
theorem Tree.write_reads_back_or_changes_nothing (m : Tree) (hm : Datum.Ordered (.map m))
    (p : String) (v : Datum) :
    ((m.write p v).2 = .ok () →
      (m.write p v).1.get? p = some v ∧
        ∀ q, ¬ Tree.Overlap p q → (m.write p v).1.get? q = m.get? q) ∧
    ((m.write p v).2 = .error .invalidPath ↔
      segments? p = none ∨ ∃ ks, segments? p = some ks ∧ Datum.LeafAbove (.map m) ks) ∧
    ((m.write p v).2 = .ok () ∨ (m.write p v).2 = .error .invalidPath) ∧
    ((m.write p v).2 ≠ .ok () → (m.write p v).1 = m) := by
  cases hp : segments? p with
  | none =>
    have hw : m.write p v = (m, .error .invalidPath) := by simp [Tree.write, hp]
    simp [hw]
  | some ps =>
    have hw : m.write p v = m.writeAt ps v := by simp [Tree.write, hp]
    rw [hw]
    refine ⟨fun hok ↦ ⟨?_, fun q hq ↦ ?_⟩, ?_, ?_, writeAt_fst_of_error hm⟩
    · simpa [Tree.get?, hp] using follow_writeAt_self (segments?_ne_nil hp) hok
    · cases hqs : segments? q with
      | none => simp [Tree.get?, hqs]
      | some qs =>
        have apart : ¬ (qs <+: ps ∨ ps <+: qs) := fun h ↦ hq ⟨ps, qs, hp, hqs, h⟩
        rw [not_or] at apart
        simpa [Tree.get?, hqs] using follow_writeAt_of_apart hok apart.1 apart.2
    · rcases writeAt_outcome m ps v with ⟨hok, hnot⟩ | ⟨herr, hleaf⟩
      · simp [hok, hnot]
      · simp [herr, hleaf]
    · rcases writeAt_outcome m ps v with ⟨hok, -⟩ | ⟨herr, -⟩
      · exact .inl hok
      · exact .inr herr

/-- A write through a value that is not a map fails and keeps the tree: `server.port.x` runs
through the number at `server.port`. -/
theorem writing_through_a_number_keeps_the_tree :
    Datum.Ordered (.map [("server", .map [("port", .int 8080)])]) ∧
      (Tree.write [("server", .map [("port", .int 8080)])] "server.port.x" (.int 1)).1 =
        [("server", .map [("port", .int 8080)])] := by
  have hm : Datum.Ordered (.map [("server", .map [("port", .int 8080)])]) := by
    refine .map (by simp) fun e he ↦ ?_
    simp only [List.mem_singleton] at he
    subst he
    exact .map (by simp) fun e he ↦ .leaf (by simp at he; simp [he, Datum.isMap])
  have refused : (Tree.write [("server", .map [("port", .int 8080)])] "server.port.x"
      (.int 1)).2 = .error .invalidPath := by rfl
  refine ⟨hm, (Tree.write_reads_back_or_changes_nothing _ hm "server.port.x" (.int 1)).2.2.2 ?_⟩
  rw [refused]
  exact fun h ↦ by cases h

end LuaDebugger.Config
