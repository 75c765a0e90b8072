import Mathlib.Data.List.Nodup
import Mathlib.Data.String.Basic
import LuaDebugger.Proofs.LayeredSettings
/-!
# Dotted paths and the flattened settings

A path names a setting by the names that lead to it, joined by dots, and `segments?` reads
the names back. The flattened settings list the values that are not maps, each under its
path. Both readings are faithful only while the names are plain: not empty and without a
dot. An empty name vanishes at the top of a path and a name with a dot in it reads as two,
so two settings can then share one path.

* `segments?_pathOf` and `segments?_eq_some`: joining plain names and reading the path back
  undo each other.
* `flatten_eq_map_leaves`: flattening lists the tree's leaves, each with the names that lead
  to it, joined into a path. In a plain tree no two leaves share a path
  (`nodup_flatten_paths`), and the flattened value at a path is the value there when that
  is not a map (`lookup_flatten_eq_some`).
* `Datum.Plain` holds of the merge of plain trees (`Plain.merge`) and of a plain tree with a
  plain value set at a path (`Plain.set?`), so the merged settings stay plain while the
  layers are.
-/

namespace LuaDebugger.Config

/-! ### Plain names and their paths -/

/-- A name that can stand in a dotted path: not empty, and without a dot. -/
def PlainName (k : String) : Prop := k ≠ "" ∧ '.' ∉ k.toList

/-- The dotted path of a list of names. -/
def pathOf (ks : List String) : String := ".".intercalate ks

theorem toList_pathOf (ks : List String) :
    (pathOf ks).toList = ['.'].intercalate (ks.map String.toList) := by
  have dot : ".".toList = ['.'] := by decide
  simp [pathOf, dot]

/-- No piece of a split holds the element split at. -/
theorem not_mem_of_mem_splitOn {α : Type} [BEq α] [LawfulBEq α] {a : α} :
    ∀ {xs l : List α}, l ∈ xs.splitOn a → a ∉ l
  | [], l, h => by simp_all [List.splitOn_nil]
  | x :: xs, l, h => by
    rw [List.splitOn_cons_eq_if_modifyHead] at h
    by_cases hx : x = a
    · simp only [hx, beq_self_eq_true, if_true, List.mem_cons] at h
      rcases h with rfl | h
      · simp
      · exact not_mem_of_mem_splitOn h
    · obtain ⟨r, rs, hr⟩ := List.exists_cons_of_ne_nil (List.splitOn_ne_nil a xs)
      simp only [beq_iff_eq, hx, if_false, hr, List.modifyHead_cons, List.mem_cons] at h
      rcases h with rfl | h
      · have hr' : a ∉ r := not_mem_of_mem_splitOn (hr ▸ List.mem_cons_self ..)
        simp [hr', Ne.symm hx]
      · exact not_mem_of_mem_splitOn (hr ▸ List.mem_cons_of_mem _ h)

/-- The names of a path, read back: at least one, all plain, and joined they give the
path. -/
theorem segments?_eq_some {path : String} {ks : List String} (h : segments? path = some ks) :
    ks ≠ [] ∧ (∀ k ∈ ks, PlainName k) ∧ pathOf ks = path := by
  unfold segments? at h
  split at h
  · cases h
  · dsimp only at h
    split at h
    · cases h
    · rename_i hany
      cases h
      refine ⟨by simp, fun k hk ↦ ⟨fun hk0 ↦ hany ?_, ?_⟩, ?_⟩
      · exact List.any_eq_true.2 ⟨k, hk, by simp [hk0]⟩
      · obtain ⟨l, hl, rfl⟩ := List.mem_map.1 hk
        simpa using not_mem_of_mem_splitOn hl
      · rw [← String.toList_inj, toList_pathOf, List.map_map]
        have back : (String.toList ∘ String.ofList) = id := funext fun l ↦ String.toList_ofList
        rw [back, List.map_id, List.intercalate_splitOn]

/-- Joining plain names and reading the path back gives the names. -/
theorem segments?_pathOf {ks : List String} (hks : ks ≠ []) (names : ∀ k ∈ ks, PlainName k) :
    segments? (pathOf ks) = some ks := by
  have parts : ((pathOf ks).toList.splitOn '.').map String.ofList = ks := by
    rw [toList_pathOf, List.splitOn_intercalate '.'
      (by simpa using fun k hk ↦ (names k hk).2) (by simpa using hks)]
    simp [List.map_map, Function.comp_def, String.ofList_toList]
  have nonempty : pathOf ks ≠ "" := by
    intro h
    -- the empty path reads back as one empty name, which is not plain
    have : "" ∈ ks := by
      rw [← parts, h]
      simp
    exact (names "" this).1 rfl
  have plain : (ks.any fun k ↦ decide (k = "")) = false := by
    simpa using fun k hk ↦ (names k hk).1
  simp only [segments?, nonempty, if_false, parts, plain]
  rfl

theorem pathOf_ne_empty {ks : List String} (hks : ks ≠ []) (names : ∀ k ∈ ks, PlainName k) :
    pathOf ks ≠ "" := by
  intro h
  have := segments?_pathOf hks names
  rw [h] at this
  simp [segments?] at this

/-- Plain names joined under a path extend it by one name. -/
theorem joinKey_pathOf {ps : List String} (hps : ∀ k ∈ ps, PlainName k) (k : String) :
    Tree.joinKey (pathOf ps) k = pathOf (ps ++ [k]) := by
  by_cases hnil : ps = []
  · subst hnil
    simp [Tree.joinKey, pathOf]
  · rw [Tree.joinKey, if_neg (pathOf_ne_empty hnil hps), pathOf, pathOf,
      String.intercalate_append_of_ne_nil hnil (by simp), String.intercalate_singleton]

/-! ### Plain trees -/

/-- A value whose maps name their entries by plain names in strictly rising order, all the
way down. -/
inductive Datum.Plain : Datum → Prop
  | map {es : Tree} (sorted : es.Pairwise fun a b ↦ a.1 < b.1)
      (names : ∀ e ∈ es, PlainName e.1) (entries : ∀ e ∈ es, Datum.Plain e.2) :
      Datum.Plain (.map es)
  | leaf {d : Datum} (h : Datum.isMap d = false) : Datum.Plain d

theorem plain_map_iff (es : Tree) :
    Datum.Plain (.map es) ↔ es.Pairwise (fun a b ↦ a.1 < b.1) ∧ (∀ e ∈ es, PlainName e.1) ∧
      ∀ e ∈ es, Datum.Plain e.2 := by
  constructor
  · intro h
    cases h with
    | map sorted names entries => exact ⟨sorted, names, entries⟩
    | leaf h => simp [Datum.isMap] at h
  · rintro ⟨sorted, names, entries⟩
    exact .map sorted names entries

/-- A map of one plain setting. -/
theorem plain_single {k : String} {d : Datum} (name : PlainName k) (entry : Datum.Plain d) :
    Datum.Plain (.map [(k, d)]) :=
  .map (List.pairwise_singleton _ _) (by simpa using name) (by simpa using entry)

/-- A map of two plain settings whose names come in order. -/
theorem plain_pair {k₁ k₂ : String} {d₁ d₂ : Datum} (lt : k₁ < k₂) (name₁ : PlainName k₁)
    (name₂ : PlainName k₂) (entry₁ : Datum.Plain d₁) (entry₂ : Datum.Plain d₂) :
    Datum.Plain (.map [(k₁, d₁), (k₂, d₂)]) :=
  .map (List.pairwise_pair.2 lt) (by simp [name₁, name₂]) (by simp [entry₁, entry₂])

theorem Datum.Plain.keys_nodup {es : Tree} (h : Datum.Plain (.map es)) :
    (es.map (·.1)).Nodup := by
  rw [List.Nodup, List.pairwise_map]
  exact ((plain_map_iff es).1 h).1.imp fun {a b} (hlt : a.1 < b.1) (heq : a.1 = b.1) ↦
    String.lt_irrefl _ (heq ▸ hlt)

theorem Datum.Plain.wellKeyed : ∀ {d : Datum}, Datum.Plain d → Datum.WellKeyed d
  | _, .map sorted names entries =>
    .map (Datum.Plain.keys_nodup (.map sorted names entries))
      fun e he ↦ (entries e he).wellKeyed
  | _, .leaf h => .leaf h

theorem Datum.Plain.of_lookup {es : Tree} (h : Datum.Plain (.map es)) {k : String} {w : Datum}
    (hk : Datum.lookup es k = some w) : Datum.Plain w ∧ PlainName k := by
  have mem := mem_of_lookup_eq_some hk
  exact ⟨((plain_map_iff es).1 h).2.2 _ mem, ((plain_map_iff es).1 h).2.1 _ mem⟩

theorem Datum.Plain.cons {k : String} {v : Datum} {rest : Tree}
    (h : Datum.Plain (.map ((k, v) :: rest))) :
    PlainName k ∧ Datum.Plain v ∧ Datum.Plain (.map rest) ∧ k ∉ rest.map (·.1) := by
  obtain ⟨sorted, names, entries⟩ := (plain_map_iff _).1 h
  rw [List.pairwise_cons] at sorted
  refine ⟨names _ (.head _), entries _ (.head _),
    .map sorted.2 (fun e he ↦ names e (.tail _ he)) (fun e he ↦ entries e (.tail _ he)), ?_⟩
  intro hk
  obtain ⟨e, he, rfl⟩ := List.mem_map.1 hk
  exact String.lt_irrefl _ (sorted.1 e he)

/-! ### The leaves of a tree -/

/-- The values of a tree that are not maps, each with the names that lead to it. -/
def Tree.leaves : Tree → List (List String × Datum)
  | [] => []
  | (k, .map m) :: rest => (Tree.leaves m).map (fun e ↦ (k :: e.1, e.2)) ++ Tree.leaves rest
  | (k, v) :: rest => ([k], v) :: Tree.leaves rest
termination_by t => sizeOf t

theorem leaves_cons_map (k : String) (m rest : Tree) :
    Tree.leaves ((k, .map m) :: rest) =
      (Tree.leaves m).map (fun e ↦ (k :: e.1, e.2)) ++ Tree.leaves rest := by
  rw [Tree.leaves]

theorem leaves_cons_of_isMap_false {v : Datum} (h : Datum.isMap v = false) (k : String)
    (rest : Tree) : Tree.leaves ((k, v) :: rest) = ([k], v) :: Tree.leaves rest := by
  cases v with
  | map m => simp [Datum.isMap] at h
  | _ =>
    rw [Tree.leaves]
    intro m hm
    cases hm

theorem flattenUnder_cons_map (pre k : String) (m rest : Tree) :
    Tree.flattenUnder pre ((k, .map m) :: rest) =
      Tree.flattenUnder (Tree.joinKey pre k) m ++ Tree.flattenUnder pre rest := by
  rw [Tree.flattenUnder]

theorem flattenUnder_cons_of_isMap_false {v : Datum} (h : Datum.isMap v = false)
    (pre k : String) (rest : Tree) :
    Tree.flattenUnder pre ((k, v) :: rest) = (Tree.joinKey pre k, v) :: Tree.flattenUnder pre rest := by
  cases v with
  | map m => simp [Datum.isMap] at h
  | _ =>
    rw [Tree.flattenUnder]
    intro m hm
    cases hm

/-- Every leaf is reached through a name of the tree, and its names are plain. -/
theorem names_of_mem_leaves {t : Tree} (h : Datum.Plain (.map t)) {ks : List String}
    {v : Datum} (hmem : (ks, v) ∈ Tree.leaves t) :
    (∃ k ks', ks = k :: ks' ∧ k ∈ t.map (·.1)) ∧ ∀ k ∈ ks, PlainName k := by
  induction t using Tree.leaves.induct generalizing ks v with
  | case1 => simp [Tree.leaves] at hmem
  | case2 k m rest ihm ihrest =>
    obtain ⟨hk, hm, hrest, -⟩ := h.cons
    rw [leaves_cons_map, List.mem_append, List.mem_map] at hmem
    rcases hmem with ⟨⟨ks', v'⟩, hin, heq⟩ | hin
    · simp only [Prod.mk.injEq] at heq
      obtain ⟨rfl, rfl⟩ := heq
      refine ⟨⟨k, ks', rfl, .head _⟩, ?_⟩
      simpa [hk] using (ihm hm hin).2
    · obtain ⟨⟨k', ks', rfl, hk'⟩, names⟩ := ihrest hrest hin
      exact ⟨⟨k', ks', rfl, .tail _ hk'⟩, names⟩
  | case3 k v₀ rest hv ihrest =>
    have leaf : Datum.isMap v₀ = false := by
      cases v₀ <;> simp_all [Datum.isMap]
    obtain ⟨hk, -, hrest, -⟩ := h.cons
    rw [leaves_cons_of_isMap_false leaf, List.mem_cons] at hmem
    rcases hmem with heq | hin
    · simp only [Prod.mk.injEq] at heq
      obtain ⟨rfl, rfl⟩ := heq
      exact ⟨⟨k, [], rfl, .head _⟩, by simpa using hk⟩
    · obtain ⟨⟨k', ks', rfl, hk'⟩, names⟩ := ihrest hrest hin
      exact ⟨⟨k', ks', rfl, .tail _ hk'⟩, names⟩

/-- Every leaf of a plain tree has a name. -/
theorem nil_not_mem_leaves {t : Tree} (h : Datum.Plain (.map t)) (v : Datum) :
    ([], v) ∉ Tree.leaves t := fun hin ↦ by
  obtain ⟨⟨_, _, heq, -⟩, -⟩ := names_of_mem_leaves h hin
  cases heq

/-- No leaf of a plain tree starts at a name none of its entries has. -/
theorem not_mem_leaves_of_not_mem {t : Tree} (h : Datum.Plain (.map t)) {k : String}
    (hk : k ∉ t.map (·.1)) (ks : List String) (v : Datum) : (k :: ks, v) ∉ Tree.leaves t :=
  fun hin ↦ by
    obtain ⟨⟨_, _, heq, hk'⟩, -⟩ := names_of_mem_leaves h hin
    cases heq
    exact hk hk'

/-- Flattening under the path of plain names lists the leaves under their full paths. -/
theorem flattenUnder_pathOf {t : Tree} (h : Datum.Plain (.map t)) {ps : List String}
    (hps : ∀ k ∈ ps, PlainName k) :
    Tree.flattenUnder (pathOf ps) t = (Tree.leaves t).map fun e ↦ (pathOf (ps ++ e.1), e.2) := by
  induction t using Tree.leaves.induct generalizing ps with
  | case1 => simp [Tree.flattenUnder, Tree.leaves]
  | case2 k m rest ihm ihrest =>
    obtain ⟨hk, hm, hrest, -⟩ := h.cons
    have hps' : ∀ k' ∈ ps ++ [k], PlainName k' := by
      simpa [or_imp, forall_and] using ⟨hps, hk⟩
    rw [flattenUnder_cons_map, leaves_cons_map, joinKey_pathOf hps, ihm hm hps', ihrest hrest hps]
    simp [Function.comp_def]
  | case3 k v rest hv ihrest =>
    have leaf : Datum.isMap v = false := by
      cases v <;> simp_all [Datum.isMap]
    obtain ⟨-, -, hrest, -⟩ := h.cons
    rw [flattenUnder_cons_of_isMap_false leaf, leaves_cons_of_isMap_false leaf, joinKey_pathOf hps,
      ihrest hrest hps]
    simp

/-- **Flattening a plain tree** lists its leaves, each under the path of its names. -/
theorem flatten_eq_map_leaves {t : Tree} (h : Datum.Plain (.map t)) :
    Tree.flatten t = (Tree.leaves t).map fun e ↦ (pathOf e.1, e.2) := by
  simpa [Tree.flatten, pathOf] using @flattenUnder_pathOf _ h [] (by simp)

/-- No two leaves of a plain tree are reached through the same names. -/
theorem nodup_leaves {t : Tree} (h : Datum.Plain (.map t)) : ((Tree.leaves t).map (·.1)).Nodup := by
  induction t using Tree.leaves.induct with
  | case1 => simp [Tree.leaves]
  | case2 k m rest ihm ihrest =>
    obtain ⟨-, hm, hrest, fresh⟩ := h.cons
    rw [leaves_cons_map, List.map_append, List.nodup_append, List.map_map]
    refine ⟨?_, ihrest hrest, ?_⟩
    · have : ((fun e : List String × Datum ↦ e.1) ∘ fun e : List String × Datum ↦ (k :: e.1, e.2)) =
          List.cons k ∘ fun e : List String × Datum ↦ e.1 := rfl
      rw [this, ← List.map_map]
      exact (ihm hm).map List.cons_injective
    · -- the leaves below `k` start with `k`, those of the rest with another name
      intro a ha b hb hab
      obtain ⟨e, -, rfl⟩ := List.mem_map.1 ha
      obtain ⟨⟨ks', v'⟩, he', rfl⟩ := List.mem_map.1 hb
      dsimp only at hab
      subst hab
      exact not_mem_leaves_of_not_mem hrest fresh e.1 v' he'
  | case3 k v rest hv ihrest =>
    have leaf : Datum.isMap v = false := by
      cases v <;> simp_all [Datum.isMap]
    obtain ⟨-, -, hrest, fresh⟩ := h.cons
    rw [leaves_cons_of_isMap_false leaf, List.map_cons, List.nodup_cons]
    refine ⟨fun hmem ↦ ?_, ihrest hrest⟩
    obtain ⟨⟨ks', v'⟩, he, heq⟩ := List.mem_map.1 hmem
    dsimp only at heq
    subst heq
    exact not_mem_leaves_of_not_mem hrest fresh [] v' he

/-- The leaves of a plain tree are the values that are not maps, each with a non-empty list
of names that leads to it. -/
theorem mem_leaves_iff {t : Tree} (h : Datum.Plain (.map t)) {ks : List String} {v : Datum} :
    (ks, v) ∈ Tree.leaves t ↔
      ks ≠ [] ∧ Datum.follow (.map t) ks = some v ∧ Datum.isMap v = false := by
  induction t using Tree.leaves.induct generalizing ks v with
  | case1 => cases ks <;> simp [Tree.leaves, Datum.follow, Datum.lookup]
  | case2 k m rest ihm ihrest =>
    obtain ⟨-, hm, hrest, fresh⟩ := h.cons
    rw [leaves_cons_map, List.mem_append, List.mem_map]
    rcases ks with _ | ⟨k', ks'⟩
    · simp only [ne_eq, not_true_eq_false, false_and, iff_false, not_or, not_exists, not_and]
      exact ⟨fun e _ heq ↦ by simp at heq, nil_not_mem_leaves hrest v⟩
    · rw [follow_map_cons, lookup_cons]
      by_cases hk : k' = k
      · subst hk
        -- the rest holds no entry named `k'`, so the leaf lies below `k'`
        have notRest := not_mem_leaves_of_not_mem hrest fresh ks' v
        have below : (∃ e ∈ Tree.leaves m, (k' :: e.1, e.2) = (k' :: ks', v)) ↔
            (ks', v) ∈ Tree.leaves m := by
          constructor
          · rintro ⟨e, he, heq⟩
            simp only [Prod.mk.injEq, List.cons.injEq] at heq
            obtain ⟨⟨-, rfl⟩, rfl⟩ := heq
            exact he
          · exact fun hin ↦ ⟨_, hin, rfl⟩
        rw [below, ihm hm]
        rcases ks' with _ | ⟨k'', ks''⟩
        · -- the names end at the map itself, which is no leaf
          simp [notRest, follow_nil]
          rintro rfl
          rfl
        · simp [notRest]
      · have notBelow : ¬ ∃ e ∈ Tree.leaves m, (k :: e.1, e.2) = (k' :: ks', v) := by
          rintro ⟨e, -, heq⟩
          simp only [Prod.mk.injEq, List.cons.injEq] at heq
          exact hk heq.1.1.symm
        rw [ihrest hrest, follow_map_cons]
        simp [hk, Ne.symm hk]
  | case3 k v₀ rest hv ihrest =>
    have leaf : Datum.isMap v₀ = false := by
      cases v₀ <;> simp_all [Datum.isMap]
    obtain ⟨-, -, hrest, fresh⟩ := h.cons
    rw [leaves_cons_of_isMap_false leaf, List.mem_cons]
    rcases ks with _ | ⟨k', ks'⟩
    · simp only [ne_eq, not_true_eq_false, false_and, iff_false, not_or]
      exact ⟨by simp, nil_not_mem_leaves hrest v⟩
    · rw [follow_map_cons, lookup_cons]
      by_cases hk : k' = k
      · subst hk
        have notRest := not_mem_leaves_of_not_mem hrest fresh ks' v
        -- below a plain value only the empty list of names leads anywhere
        rcases ks' with _ | ⟨k'', ks''⟩
        · rw [if_pos rfl, Option.bind_some, follow_nil]
          simp only [ne_eq, reduceCtorEq, not_false_eq_true, true_and, notRest, or_false,
            Option.some.injEq, Prod.mk.injEq]
          constructor
          · rintro rfl
            exact ⟨rfl, leaf⟩
          · exact fun h ↦ h.1.symm
        · simp [notRest, follow_cons_of_isMap_false leaf]
      · rw [ihrest hrest, follow_map_cons]
        simp [hk]

/-- In entries that name each key once, the value at a key is the one entry with it. -/
theorem lookup_eq_some_iff_mem {es : List (String × Datum)} (h : (es.map (·.1)).Nodup)
    {k : String} {v : Datum} : Datum.lookup es k = some v ↔ (k, v) ∈ es := by
  induction es with
  | nil => simp [Datum.lookup]
  | cons e rest ih =>
    obtain ⟨k', w⟩ := e
    rw [List.map_cons, List.nodup_cons] at h
    rw [lookup_cons, List.mem_cons]
    by_cases hk : k = k'
    · subst hk
      have notRest : (k, v) ∉ rest := fun hin ↦ h.1 (List.mem_map.2 ⟨_, hin, rfl⟩)
      rw [if_pos rfl]
      simp only [Option.some.injEq, Prod.mk.injEq, true_and, notRest, or_false]
      exact eq_comm
    · simp [hk, ih h.2]

/-- No two settings of a plain tree flatten to one path. -/
theorem nodup_flatten_paths {t : Tree} (h : Datum.Plain (.map t)) :
    ((Tree.flatten t).map (·.1)).Nodup := by
  rw [flatten_eq_map_leaves h, List.map_map]
  have split : ((fun e : String × Datum ↦ e.1) ∘ fun e : List String × Datum ↦ (pathOf e.1, e.2)) =
      pathOf ∘ fun e : List String × Datum ↦ e.1 := rfl
  rw [split, ← List.map_map]
  -- the names of a leaf are read back from its path
  refine (nodup_leaves h).map_on fun a ha b hb hab ↦ ?_
  obtain ⟨e, he, rfl⟩ := List.mem_map.1 ha
  obtain ⟨e', he', rfl⟩ := List.mem_map.1 hb
  have back : ∀ e ∈ Tree.leaves t, segments? (pathOf e.1) = some e.1 := fun e he ↦
    segments?_pathOf ((mem_leaves_iff h).1 he).1 (names_of_mem_leaves h he).2
  simpa [back e he, back e' he'] using congrArg segments? hab

/-- **The flattened value at a path** of a plain tree is the value there, when that is not
a map. -/
theorem lookup_flatten_eq_some {t : Tree} (h : Datum.Plain (.map t)) {p : String} {v : Datum} :
    Datum.lookup (Tree.flatten t) p = some v ↔ t.get? p = some v ∧ Datum.isMap v = false := by
  rw [lookup_eq_some_iff_mem (nodup_flatten_paths h), flatten_eq_map_leaves h, List.mem_map]
  constructor
  · rintro ⟨⟨ks, w⟩, hmem, heq⟩
    simp only [Prod.mk.injEq] at heq
    obtain ⟨rfl, rfl⟩ := heq
    obtain ⟨hne, hfollow, hleaf⟩ := (mem_leaves_iff h).1 hmem
    refine ⟨?_, hleaf⟩
    simp [Tree.get?, segments?_pathOf hne (names_of_mem_leaves h hmem).2, hfollow]
  · rintro ⟨hget, hleaf⟩
    cases hseg : segments? p with
    | none => simp [Tree.get?, hseg] at hget
    | some ks =>
      obtain ⟨hne, -, hpath⟩ := segments?_eq_some hseg
      have hfollow : Datum.follow (.map t) ks = some v := by simpa [Tree.get?, hseg] using hget
      exact ⟨(ks, v), (mem_leaves_iff h).2 ⟨hne, hfollow, hleaf⟩, by simp [hpath]⟩

/-- The setting at a path: the value there, when it is not a map. -/
def Tree.setting? (t : Tree) (path : String) : Option Datum :=
  (t.get? path).filter fun v ↦ !Datum.isMap v

/-- A path of a plain tree has no flattened value exactly when it holds nothing or a map. -/
theorem lookup_flatten_eq_none {t : Tree} (h : Datum.Plain (.map t)) {p : String} :
    Datum.lookup (Tree.flatten t) p = none ↔ ∀ v, t.get? p = some v → Datum.isMap v = true := by
  rw [Option.eq_none_iff_forall_ne_some]
  refine forall_congr' fun v ↦ ?_
  rw [ne_eq, lookup_flatten_eq_some h]
  cases Datum.isMap v <;> simp

/-- **Flattening reads the settings**: in a plain tree, the flattened value at a path is the
setting there. -/
theorem lookup_flatten_eq_setting? {t : Tree} (h : Datum.Plain (.map t)) (p : String) :
    Datum.lookup (Tree.flatten t) p = t.setting? p := by
  cases hl : Datum.lookup (Tree.flatten t) p with
  | none =>
    cases hg : t.get? p with
    | none => simp [Tree.setting?, hg]
    | some v =>
      have := (lookup_flatten_eq_none h).1 hl v hg
      simp [Tree.setting?, hg, Option.filter_some, this]
  | some v =>
    obtain ⟨hg, hleaf⟩ := (lookup_flatten_eq_some h).1 hl
    simp [Tree.setting?, hg, Option.filter_some, hleaf]

/-! ### Plain trees stay plain -/

theorem mem_insertEntry {es : Tree} {k : String} {v : Datum} {e : String × Datum}
    (h : e ∈ Datum.insertEntry es k v) : e = (k, v) ∨ e ∈ es := by
  induction es with
  | nil => simpa [Datum.insertEntry] using h
  | cons x rest ih =>
    obtain ⟨k', w⟩ := x
    simp only [Datum.insertEntry] at h
    split_ifs at h with heq hlt
    · rcases List.mem_cons.1 h with rfl | h
      · exact .inl rfl
      · exact .inr (.tail _ h)
    · rcases List.mem_cons.1 h with rfl | h
      · exact .inl rfl
      · exact .inr h
    · rcases List.mem_cons.1 h with rfl | h
      · exact .inr (.head _)
      · exact (ih h).imp_right (.tail _)

/-- Setting a plain name to a plain value keeps a plain map plain. -/
theorem Datum.Plain.insertEntry {es : Tree} (h : Datum.Plain (.map es)) {k : String}
    (hk : PlainName k) {v : Datum} (hv : Datum.Plain v) :
    Datum.Plain (.map (Datum.insertEntry es k v)) := by
  induction es with
  | nil =>
    simp only [Datum.insertEntry]
    exact .map (List.pairwise_singleton _ _) (by simpa using hk) (by simpa using hv)
  | cons x rest ih =>
    obtain ⟨k', w⟩ := x
    obtain ⟨hk', hw, hrest, -⟩ := h.cons
    obtain ⟨sorted, -, -⟩ := (plain_map_iff _).1 h
    rw [List.pairwise_cons] at sorted
    simp only [Datum.insertEntry]
    by_cases heq : k = k'
    · -- the entry is replaced in place
      subst heq
      simp only [if_true]
      exact .map (List.pairwise_cons.2 ⟨sorted.1, sorted.2⟩)
        (by simpa [hk] using ((plain_map_iff _).1 hrest).2.1)
        (by simpa [hv] using ((plain_map_iff _).1 hrest).2.2)
    by_cases hlt : k < k'
    · simp only [heq, hlt, if_true, if_false]
      refine .map ?_ ?_ ?_
      · refine List.pairwise_cons.2 ⟨fun e he ↦ ?_, List.pairwise_cons.2 sorted⟩
        rcases List.mem_cons.1 he with rfl | he
        · exact hlt
        · exact String.lt_trans hlt (sorted.1 e he)
      · simpa [hk, hk'] using ((plain_map_iff _).1 hrest).2.1
      · simpa [hv, hw] using ((plain_map_iff _).1 hrest).2.2
    · -- the entry goes further down, past a smaller name
      have hgt : k' < k := lt_of_le_of_ne (not_lt.1 hlt) (Ne.symm heq)
      simp only [heq, hlt, if_false]
      obtain ⟨sorted', names', entries'⟩ := (plain_map_iff _).1 (ih hrest)
      refine .map (List.pairwise_cons.2 ⟨fun e he ↦ ?_, sorted'⟩) ?_ ?_
      · rcases mem_insertEntry he with rfl | he
        · exact hgt
        · exact sorted.1 e he
      · simpa [hk'] using names'
      · simpa [hw] using entries'

/-- **The merge of plain trees is plain.** -/
theorem Datum.Plain.merge {lower upper : Tree} (hl : Datum.Plain (.map lower))
    (hu : Datum.Plain (.map upper)) : Datum.Plain (.map (Tree.merge lower upper)) := by
  induction lower, upper using Tree.merge.induct with
  | case1 lower => rwa [Tree.merge]
  | case2 lower k s rest v below tail =>
    obtain ⟨hk, hs, hrest, -⟩ := hu.cons
    -- a map laid over a map merges with it, and over anything else replaces it
    have hv : Datum.Plain v := by
      dsimp only [v]
      split
      · rename_i d hd
        exact below d (hl.of_lookup hd).1 hs
      · exact hs
    rw [Tree.merge]
    exact tail (hl.insertEntry hk hv) hrest
  | case3 lower k v rest hv tail =>
    obtain ⟨hk, hv', hrest, -⟩ := hu.cons
    have leaf : Datum.isMap v = false := by
      cases v <;> simp_all [Datum.isMap]
    rw [merge_cons, overlay_of_isMap_false _ leaf]
    exact tail (hl.insertEntry hk hv') hrest

/-- The merge of plain layers is plain. -/
theorem plain_mergeAll {layers : List Layer} (h : ∀ l ∈ layers, Datum.Plain (.map l.data)) :
    Datum.Plain (.map (LayerSet.mergeAll layers)) := by
  rw [LayerSet.mergeAll]
  suffices ∀ acc : Tree, Datum.Plain (.map acc) →
      Datum.Plain (.map (layers.foldl (fun acc l ↦ Tree.merge acc l.data) acc)) from
    this [] (.map (by simp) (by simp) (by simp))
  induction layers with
  | nil => exact fun _ hacc ↦ hacc
  | cons l ls ih =>
    intro acc hacc
    exact ih (fun l' hl' ↦ h l' (.tail _ hl')) _ (hacc.merge (h l (.head _)))

/-- Setting a plain value under plain names keeps a plain tree plain. -/
theorem Datum.Plain.setAt {t : Tree} {ks : List String} {v : Datum} (ht : Datum.Plain (.map t))
    (names : ∀ k ∈ ks, PlainName k) (hv : Datum.Plain v) {t' : Tree}
    (h : t.setAt ks v = some t') : Datum.Plain (.map t') := by
  induction t, ks, v using Tree.setAt.induct generalizing t' with
  | case1 t x =>
    simp only [Tree.setAt, Option.some.injEq] at h
    exact h ▸ ht
  | case2 t k v =>
    simp only [Tree.setAt, Option.some.injEq] at h
    exact h ▸ ht.insertEntry (names k (.head _)) hv
  | case3 t k ks v hks hnone fresh =>
    obtain ⟨k₂, ks₂, rfl⟩ := List.exists_cons_of_ne_nil hks
    simp only [Tree.setAt, hnone, Option.map_eq_some_iff] at h
    obtain ⟨sub, hsub, rfl⟩ := h
    have names' : ∀ k' ∈ k₂ :: ks₂, PlainName k' := fun k' hk' ↦ names k' (.tail _ hk')
    exact ht.insertEntry (names k (.head _))
      (fresh (.map (by simp) (by simp) (by simp)) names' hv hsub)
  | case4 t k ks v hks sub hsub below =>
    obtain ⟨k₂, ks₂, rfl⟩ := List.exists_cons_of_ne_nil hks
    simp only [Tree.setAt, hsub, Option.map_eq_some_iff] at h
    obtain ⟨sub', hsub', rfl⟩ := h
    have names' : ∀ k' ∈ k₂ :: ks₂, PlainName k' := fun k' hk' ↦ names k' (.tail _ hk')
    exact ht.insertEntry (names k (.head _)) (below (ht.of_lookup hsub).1 names' hv hsub')
  | case5 t k ks v hks val hval hleaf =>
    obtain ⟨k₂, ks₂, rfl⟩ := List.exists_cons_of_ne_nil hks
    cases val with
    | map sub => exact absurd rfl (hval sub)
    | _ => simp [Tree.setAt, hleaf] at h

/-- Setting a plain value at a path keeps a plain tree plain. -/
theorem Datum.Plain.set? {t : Tree} (ht : Datum.Plain (.map t)) {path : String} {v : Datum}
    (hv : Datum.Plain v) {t' : Tree} (h : t.set? path v = some t') : Datum.Plain (.map t') := by
  cases hseg : segments? path with
  | none => simp [Tree.set?, hseg] at h
  | some ks =>
    simp only [Tree.set?, hseg, Option.bind_some] at h
    exact ht.setAt (segments?_eq_some hseg).2.1 hv h

end LuaDebugger.Config
