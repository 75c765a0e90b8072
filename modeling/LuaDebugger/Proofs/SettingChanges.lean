import LuaDebugger.Proofs.ChangeDelivery
/-!
# The changes between two configurations

`diff` compares two merged configurations through their flattened settings and lists one
change per path whose setting differs, sorted by path. Values compare deeply, and floats
compare as numbers: a NaN differs from itself and `-0` equals `0`. This module states what
a diff is, for configurations whose maps have plain names (not empty, without a dot), where
flattening gives each setting its own path.

* `applyChanges` reads a list of changes as edits of settings read by path, and
  `applyChanges_at` says what the edits leave at one path: the effect of the last change
  there, or the setting before.
* `diff_filter_length_le_one`, `mem_diff`: a diff has at most one change at a path, a set
  carrying the new setting and, unless the path had none, the old one, which compares
  unequal to it; a delete at a path that has lost its setting.
* `diff_is_sorted_and_applies`: the paths of a diff rise strictly; applying it to the old
  settings gives the new ones, except that a setting the diff passes over keeps its old
  value, which compares equal to the new one without being it (`0` for `-0`); and the diff of
  a configuration with itself is empty exactly when every setting compares equal to
  itself, which a NaN does not (`nan_and_negative_zero_escape_the_diff`).
-/

namespace LuaDebugger.Config

/-! ### Applying changes -/

/-- What a change leaves at its path: the new value of a set, nothing after a delete. -/
def Change.value (c : Change) : Option Datum :=
  match c.kind with
  | .set => some c.new
  | .delete => none

/-- Changes applied in order to settings read by path: each writes its value at its path. -/
def applyChanges (cs : List Change) (m : String → Option Datum) : String → Option Datum :=
  cs.foldl (fun m c ↦ Function.update m c.path c.value) m

/-- **Applying changes at one path** leaves the value of the last change there, or the
setting before when no change is there. -/
theorem applyChanges_at (cs : List Change) (m : String → Option Datum) (p : String) :
    applyChanges cs m p = match (cs.filter (·.path == p)).getLast? with
      | some c => c.value
      | none => m p := by
  induction cs generalizing m with
  | nil => rfl
  | cons c cs ih =>
    -- the first change is applied first, so a later one at the path overrides it
    rw [applyChanges, List.foldl_cons, ← applyChanges, ih, List.filter_cons]
    by_cases hp : c.path = p
    · subst hp
      rcases last : (cs.filter (·.path == c.path)).getLast? with _ | c'
      all_goals simp only [beq_self_eq_true, if_true, List.getLast?_cons, last, Option.getD_some,
        Option.getD_none, Function.update_self]
    · have hp' : p ≠ c.path := Ne.symm hp
      simp [hp, hp', Function.update]

/-! ### The changes at one path -/

/-- A diff of plain settings has at most one change at a path. -/
theorem diff_filter_length_le_one {before after : Tree} (hb : Datum.Plain (.map before))
    (ha : Datum.Plain (.map after)) (source : Source) (p : String) :
    ((diff before after source).filter (·.path == p)).length ≤ 1 := by
  rw [diff_filter_path (nodup_flatten_paths hb) (nodup_flatten_paths ha)]
  rcases Datum.lookup (Tree.flatten before) p with _ | ov <;>
    rcases Datum.lookup (Tree.flatten after) p with _ | nv
  all_goals simp only
  all_goals (try split) <;> simp

/-- **A change of a diff** is a set that carries the new setting at its path and the old one,
which compares unequal to it, or nothing when the path had none; or a delete of the old
setting at a path that has none afterwards. -/
theorem mem_diff {before after : Tree} (hb : Datum.Plain (.map before))
    (ha : Datum.Plain (.map after)) {source : Source} {c : Change}
    (hc : c ∈ diff before after source) :
    (c.kind = .set ∧ Datum.lookup (Tree.flatten after) c.path = some c.new ∧
      ((Datum.lookup (Tree.flatten before) c.path = none ∧ c.old = .null) ∨
        (Datum.lookup (Tree.flatten before) c.path = some c.old ∧ Datum.same c.old c.new = false))) ∨
    (c.kind = .delete ∧ Datum.lookup (Tree.flatten after) c.path = none ∧
      Datum.lookup (Tree.flatten before) c.path = some c.old) := by
  have here : c ∈ (diff before after source).filter (·.path == c.path) :=
    List.mem_filter.2 ⟨hc, by simp⟩
  rw [diff_filter_path (nodup_flatten_paths hb) (nodup_flatten_paths ha)] at here
  obtain ⟨p, kind, old, new, src⟩ := c
  dsimp only at here ⊢
  rcases hold : Datum.lookup (Tree.flatten before) p with _ | ov <;>
    rcases hnew : Datum.lookup (Tree.flatten after) p with _ | nv <;>
    simp only [hold, hnew, List.mem_singleton, Change.mk.injEq] at here
  · cases here
  · obtain ⟨-, rfl, rfl, rfl, -⟩ := here
    exact .inl ⟨rfl, rfl, .inl ⟨rfl, rfl⟩⟩
  · obtain ⟨-, rfl, rfl, rfl, -⟩ := here
    exact .inr ⟨rfl, rfl, rfl⟩
  · by_cases hs : Datum.same ov nv
    · simp [hs] at here
    · simp only [hs, Bool.false_eq_true, if_false, List.mem_singleton, Change.mk.injEq] at here
      obtain ⟨-, rfl, rfl, rfl, -⟩ := here
      exact .inl ⟨rfl, rfl, .inr ⟨rfl, by simpa using hs⟩⟩

/-! ### The order of a diff -/

/-- A diff of plain settings names each path once. -/
theorem diff_paths_nodup {before after : Tree} (hb : Datum.Plain (.map before))
    (ha : Datum.Plain (.map after)) (source : Source) :
    ((diff before after source).map (·.path)).Nodup := by
  rw [List.nodup_iff_count_le_one]
  intro p
  rw [List.count_eq_length_filter, List.filter_map, List.length_map]
  simpa [Function.comp_def] using diff_filter_length_le_one hb ha source p

/-- A diff is sorted by path. -/
theorem diff_paths_sorted (before after : Tree) (source : Source) :
    ((diff before after source).map (·.path)).Pairwise (· ≤ ·) := by
  rw [List.pairwise_map]
  exact @List.pairwise_mergeSort Change (fun a b ↦ decide (a.path ≤ b.path))
    (fun a b c hab hbc ↦ by simp only [decide_eq_true_eq] at *; exact le_trans hab hbc)
    (fun a b ↦ by simpa using le_total a.path b.path) _ |>.imp (by simp)

/-! ### A configuration against itself -/

/-- A diff of plain settings with themselves is empty exactly when every setting compares
equal to itself. -/
theorem diff_self_eq_nil_iff {t : Tree} (h : Datum.Plain (.map t)) (source : Source) :
    diff t t source = [] ↔ ∀ e ∈ Tree.flatten t, Datum.same e.2 e.2 = true := by
  have nodup := nodup_flatten_paths h
  -- at every path both sides hold the same setting, which the diff compares with itself
  have at_path := diff_filter_path nodup nodup source
  constructor
  · rintro empty ⟨p, v⟩ he
    have found : Datum.lookup (Tree.flatten t) p = some v := (lookup_eq_some_iff_mem nodup).2 he
    have none_here := at_path p
    rw [empty, found] at none_here
    by_contra hs
    simp [hs] at none_here
  · intro all
    refine List.eq_nil_iff_forall_not_mem.2 fun c hc ↦ ?_
    have here : c ∈ (diff t t source).filter (·.path == c.path) :=
      List.mem_filter.2 ⟨hc, by simp⟩
    rw [at_path] at here
    rcases found : Datum.lookup (Tree.flatten t) c.path with _ | v
    · simp [found] at here
    · have same : Datum.same v v = true :=
        all (c.path, v) ((lookup_eq_some_iff_mem nodup).1 found)
      simp [found, same] at here

/-! ### The laws of a diff -/

/-- **What a diff is.** Between merged configurations whose maps have plain names, the changes
of `diff` name strictly rising paths. A set carries the new setting at its path, and the old
one, which compares unequal to it, or nothing when the path had none; a delete is at a path
that has no setting afterwards. Applying the changes to the old settings gives, at every
path, the new setting, or a value that compares equal to it: a setting the diff passes over
keeps its old value. The diff of a configuration with itself is empty exactly when each of
its settings compares equal to itself. -/
theorem diff_is_sorted_and_applies (before after : Tree) (hb : Datum.Plain (.map before))
    (ha : Datum.Plain (.map after)) (source : Source) (t : Tree) (ht : Datum.Plain (.map t)) :
    let changes := diff before after source
    let old := Datum.lookup (Tree.flatten before)
    let new := Datum.lookup (Tree.flatten after)
    (changes.map (·.path)).Pairwise (· < ·) ∧
    (∀ p, applyChanges changes old p = new p ∨
      ∃ a b, applyChanges changes old p = some a ∧ new p = some b ∧ Datum.same a b = true) ∧
    (∀ c ∈ changes, c.kind = .set → new c.path = some c.new ∧
      ((old c.path = none ∧ c.old = .null) ∨ (old c.path = some c.old ∧ Datum.same c.old c.new = false))) ∧
    (∀ c ∈ changes, c.kind = .delete → new c.path = none) ∧
    (diff t t source = [] ↔ ∀ e ∈ Tree.flatten t, Datum.same e.2 e.2 = true) := by
  intro changes old new
  refine ⟨?_, ?_, ?_, ?_, diff_self_eq_nil_iff ht source⟩
  · -- sorted by path, and no path twice
    exact ((diff_paths_sorted before after source).and (diff_paths_nodup hb ha source)).imp
      fun ⟨hle, hne⟩ ↦ lt_of_le_of_ne hle hne
  · intro p
    rw [applyChanges_at, diff_filter_path (nodup_flatten_paths hb) (nodup_flatten_paths ha)]
    rcases hold : old p with _ | ov <;> rcases hnew : new p with _ | nv
    · exact .inl (by simp [old, new] at hold hnew; simp [hold, hnew])
    · exact .inl (by simp [old, new] at hold hnew; simp [hold, hnew, Change.value])
    · exact .inl (by simp [old, new] at hold hnew; simp [hold, hnew, Change.value])
    · simp only [old, new] at hold hnew
      by_cases hs : Datum.same ov nv
      · exact .inr ⟨ov, nv, by simp [hold, hnew, hs], rfl, hs⟩
      · exact .inl (by simp [hold, hnew, hs, Change.value])
  · intro c hc hset
    rcases mem_diff hb ha hc with ⟨-, hnew, hold⟩ | ⟨hdel, -⟩
    · exact ⟨hnew, hold⟩
    · rw [hset] at hdel
      cases hdel
  · intro c hc hdel
    rcases mem_diff hb ha hc with ⟨hset, -⟩ | ⟨-, hnew, -⟩
    · rw [hdel] at hset
      cases hset
    · exact hnew

/-- Dropping a nested setting and changing two others meets the conditions: the diff deletes
the dropped setting and sets the changed ones, in the order of their paths, and applying it
leaves nothing at the dropped path; the new settings have no change against themselves exactly
when each compares equal to itself. -/
theorem dropping_a_nested_setting_deletes_it :
    let before : Tree :=
      [("log", .map [("file", .text "debug.log"), ("level", .text "info")]), ("port", .int 1)]
    let after : Tree := [("log", .map [("level", .text "debug")]), ("port", .int 2)]
    Datum.Plain (.map before) ∧ Datum.Plain (.map after) ∧
      (diff before after .arguments).map (fun c ↦ (c.path, c.kind)) =
        [("log.file", .delete), ("log.level", .set), ("port", .set)] ∧
      ((diff before after .arguments).map (·.path)).Pairwise (· < ·) ∧
      applyChanges (diff before after .arguments) (Datum.lookup (Tree.flatten before))
        "log.file" = none ∧
      (diff after after .arguments = [] ↔ ∀ e ∈ Tree.flatten after, Datum.same e.2 e.2 = true) := by
  intro before after
  have flatBefore : Tree.flatten before =
      [("log.file", .text "debug.log"), ("log.level", .text "info"), ("port", .int 1)] := by
    simp [before, Tree.flatten, Tree.flattenUnder, Tree.joinKey]
  have flatAfter : Tree.flatten after = [("log.level", .text "debug"), ("port", .int 2)] := by
    simp [after, Tree.flatten, Tree.flattenUnder, Tree.joinKey]
  -- both configurations have sorted plain names, the inner map of `log` too
  have log : PlainName "log" := ⟨by decide, by decide⟩
  have port : PlainName "port" := ⟨by decide, by decide⟩
  have file : PlainName "file" := ⟨by decide, by decide⟩
  have level : PlainName "level" := ⟨by decide, by decide⟩
  have plainBefore : Datum.Plain (.map before) :=
    plain_pair (by decide) log port (plain_pair (by decide) file level (.leaf rfl) (.leaf rfl))
      (.leaf rfl)
  have plainAfter : Datum.Plain (.map after) :=
    plain_pair (by decide) log port (plain_single level (.leaf rfl)) (.leaf rfl)
  obtain ⟨sorted, applies, -, -, self⟩ :=
    diff_is_sorted_and_applies before after plainBefore plainAfter .arguments after plainAfter
  have dropped : Datum.lookup (Tree.flatten after) "log.file" = none := by
    simp +decide [flatAfter, Datum.lookup]
  refine ⟨plainBefore, plainAfter, ?_, sorted, ?_, self⟩
  · simp +decide [diff, flatBefore, flatAfter, Datum.lookup, List.mergeSort,
      List.MergeSort.Internal.splitInTwo]
  · -- the diff deletes the dropped path, so applying it leaves no value there
    rcases applies "log.file" with same | ⟨_, _, -, kept, -⟩
    · exact same.trans dropped
    · rw [dropped] at kept
      cases kept

/-- A NaN setting compares unequal to itself, so a configuration that holds one has a change
against itself; and `-0` over `0` compares equal, so the diff has no change and applying it
keeps `0` where the new settings hold `-0`. -/
theorem nan_and_negative_zero_escape_the_diff :
    let m : Tree := [("x", .float (0 / 0))]
    let before : Tree := [("y", .float 0)]
    let after : Tree := [("y", .float (-0))]
    Datum.Plain (.map m) ∧ Datum.Plain (.map before) ∧ Datum.Plain (.map after) ∧
      diff m m .arguments ≠ [] ∧
      applyChanges (diff before after .arguments) (Datum.lookup (Tree.flatten before)) "y" ≠
        Datum.lookup (Tree.flatten after) "y" := by
  intro m before after
  have flat : ∀ (k : String) (x : Float), Tree.flatten [(k, .float x)] = [(k, .float x)] := by
    intro k x
    simp [Tree.flatten, Tree.flattenUnder, Tree.joinKey]
  have nan : Datum.same (.float (0 / 0)) (.float (0 / 0)) = false := by decide
  have zeros : Datum.same (.float 0) (.float (-0)) = true := by decide
  have apart : (0 : Float) ≠ -0 := by decide
  have hx : PlainName "x" := ⟨by decide, by decide⟩
  have hy : PlainName "y" := ⟨by decide, by decide⟩
  refine ⟨plain_single hx (.leaf rfl), plain_single hy (.leaf rfl), plain_single hy (.leaf rfl),
    ?_, ?_⟩
  · rw [Ne, diff_self_eq_nil_iff (plain_single hx (.leaf rfl)), flat]
    simp [nan]
  · have quiet : diff before after .arguments = [] := by
      simp [before, after, diff, flat, Datum.lookup, zeros]
    rw [quiet, flat, flat]
    simp [applyChanges, Datum.lookup, apart]

end LuaDebugger.Config
