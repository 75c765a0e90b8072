import LuaDebugger.Debug.Program
import Mathlib.Data.List.Basic
/-!
# What instrumentation does to a source

The instrumenter works on the text of a program, line by line, and asks the syntax tree only
which words a line may start with. `instrument_hooks_lines_by_leading_word` says what that
amounts to, for every source:

* a source that parses is instrumented, and one that does not is refused with the parser's
  fault;
* the source is its lines joined by newlines (`Text.joinBytes_splitBytes`), and the
  instrumented source is the same lines, each statement line with the hook call put after its
  indentation (`withHook`), joined the same way: no other byte of the text changes;
* the statement lines are ascending, each once, and a line is one exactly when it lies in
  the source, a statement of the tree starts on it, and the line's own text starts with the
  leading word of such a statement.

The test is on the line's first word only, not on where that word sits in the tree. When a
statement starts on a line whose first word still belongs to an earlier statement, as the
argument `x` in `f(\nx) x = 1`, the hook lands inside that statement, and the instrumented
source no longer parses (`hook_inside_argument_list_breaks_parse`).
-/

namespace LuaDebugger

namespace Text

/-! ### Lines of bytes -/

/-- A byte array's list of bytes is the list of its data. -/
theorem toList_eq_data_toList (b : ByteArray) : b.toList = b.data.toList := by
  -- the loop conses the bytes before `i` in reverse onto `r`
  suffices h : ∀ i r, ByteArray.toList.loop b i r = r.reverse ++ b.data.toList.drop i by
    simpa [ByteArray.toList] using h 0 []
  intro i r
  fun_induction ByteArray.toList.loop b i r with
  | case1 i r hi ih =>
    rw [ih]
    have hi' : i < b.data.toList.length := by
      rw [Array.length_toList]
      exact hi
    rw [List.drop_eq_getElem_cons hi']
    rcases b with ⟨data⟩
    have hd : i < data.size := hi
    simp only [ByteArray.get!, List.reverse_cons, List.append_assoc, List.singleton_append,
      Array.getElem_toList]
    rw [getElem!_pos data i hd]
  | case2 i r hi =>
    have hle : b.data.toList.length ≤ i := by
      rw [Array.length_toList]
      exact Nat.le_of_not_lt hi
    rw [List.drop_eq_nil_of_le hle, List.append_nil]

/-- Splitting bytes is the library's `List.splitOn`. -/
theorem splitBytesList_eq_splitOn (sep : UInt8) (l : List UInt8) :
    splitBytesList sep l = l.splitOn sep := by
  induction l with
  | nil => rfl
  | cons b rest ih =>
    rw [splitBytesList, List.splitOn_cons_eq_if_modifyHead, ih]
    by_cases hb : b = sep
    · simp [hb]
    · rw [if_neg hb, if_neg (by simpa using hb)]
      -- the split of the rest is never empty, so `b` joins its first part
      obtain ⟨part, parts, hp⟩ := List.exists_cons_of_ne_nil (List.splitOn_ne_nil sep rest)
      rw [hp]
      rfl

theorem data_joinBytes (sep : ByteArray) (ls : List ByteArray) :
    (joinBytes sep ls).data.toList = sep.data.toList.intercalate (ls.map (·.data.toList)) := by
  fun_induction joinBytes sep ls with
  | case1 => rfl
  | case2 b => simp
  | case3 b rest hrest ih =>
    obtain ⟨c, cs, rfl⟩ := List.exists_cons_of_ne_nil hrest
    rw [ByteArray.toList_data_append, ByteArray.toList_data_append, ih]
    simp [List.intercalate_cons_cons]

theorem data_splitBytes (sep : UInt8) (bs : ByteArray) :
    (splitBytes sep bs).map (·.data.toList) = bs.data.toList.splitOn sep := by
  rw [splitBytes, List.map_map, ← splitBytesList_eq_splitOn, ← toList_eq_data_toList]
  exact List.map_id'' (fun part ↦ List.toList_toArray) _

/-- **A source is its lines joined by newlines.** -/
theorem joinBytes_splitBytes (src : ByteArray) :
    joinBytes "\n".toUTF8 (splitBytes 10 src) = src := by
  have hnl : ("\n".toUTF8).data.toList = [10] := by decide
  have h : (joinBytes "\n".toUTF8 (splitBytes 10 src)).data.toList = src.data.toList := by
    rw [data_joinBytes, data_splitBytes, hnl]
    exact List.intercalate_splitOn 10
  rcases src with ⟨data⟩
  rcases hj : joinBytes "\n".toUTF8 (splitBytes 10 ⟨data⟩) with ⟨data'⟩
  rw [hj] at h
  exact congrArg ByteArray.mk (Array.toList_inj.1 h)

end Text

/-! ### Ascending statement lines -/

theorem mem_insertSorted {x y : Nat} {l : List Nat} : y ∈ insertSorted x l ↔ y = x ∨ y ∈ l := by
  induction l with
  | nil => simp [insertSorted]
  | cons z zs ih =>
    unfold insertSorted
    split
    · simp
    · split
      · rename_i h
        subst h
        simp
      · simp only [List.mem_cons, ih]
        tauto

theorem pairwise_insertSorted {x : Nat} {l : List Nat} (h : l.Pairwise (· < ·)) :
    (insertSorted x l).Pairwise (· < ·) := by
  induction l with
  | nil => simp [insertSorted]
  | cons y ys ih =>
    obtain ⟨hy, hys⟩ := List.pairwise_cons.1 h
    unfold insertSorted
    split
    · rename_i hxy
      exact List.Pairwise.cons (fun z hz ↦ by
        rcases List.mem_cons.1 hz with rfl | hz
        · exact hxy
        · exact Nat.lt_trans hxy (hy z hz)) h
    · split
      · exact h
      · rename_i hxy hne
        refine List.Pairwise.cons (fun z hz ↦ ?_) (ih hys)
        rcases mem_insertSorted.1 hz with rfl | hz
        · omega
        · exact hy z hz

/-- Inserting the lines of a list of pairs one by one into an ascending list gives an
ascending list of the lines seen. -/
theorem foldl_insertSorted {α : Type} (xs : List (Nat × α)) (acc : List Nat) :
    (∀ y, y ∈ xs.foldl (fun acc x ↦ insertSorted x.1 acc) acc ↔ y ∈ acc ∨ ∃ w, (y, w) ∈ xs) ∧
    (acc.Pairwise (· < ·) →
      (xs.foldl (fun acc x ↦ insertSorted x.1 acc) acc).Pairwise (· < ·)) := by
  induction xs generalizing acc with
  | nil => simp
  | cons x xs ih =>
    obtain ⟨hmem, hsort⟩ := ih (insertSorted x.1 acc)
    refine ⟨fun y ↦ ?_, fun h ↦ hsort (pairwise_insertSorted h)⟩
    rw [List.foldl_cons, hmem, mem_insertSorted]
    constructor
    · rintro ((rfl | h) | ⟨w, hw⟩)
      · exact Or.inr ⟨x.2, List.mem_cons_self ..⟩
      · exact Or.inl h
      · exact Or.inr ⟨w, List.mem_cons_of_mem _ hw⟩
    · rintro (h | ⟨w, hw⟩)
      · exact Or.inl (Or.inr h)
      · rcases List.mem_cons.1 hw with rfl | hw
        · exact Or.inl (Or.inl rfl)
        · exact Or.inr ⟨w, hw⟩

/-- A line the test accepts has a statement starting on it. -/
theorem exists_lead_of_startsStatement {text : ByteArray} {leads : List String}
    (h : startsStatement text leads = true) : ∃ lead, lead ∈ leads := by
  unfold startsStatement at h
  simp only [Bool.and_eq_true, List.any_eq_true] at h
  obtain ⟨-, lead, hl, -⟩ := h
  exact ⟨lead, hl⟩

/-! ### Instrumentation -/

/-- **Instrumentation inserts hook calls and nothing else.** A source that does not parse is
refused with the parser's fault. A source that parses is its lines joined by newlines, and its
instrumented source is the same lines, the hook call put after the indentation of each
statement line. The statement lines ascend, and a line is one exactly when it lies in the
source and its first word is the leading word of a statement of the tree that starts on it. -/
theorem instrument_hooks_lines_by_leading_word (cwd : String) (index : Nat) (path : String)
    (src : ByteArray) :
    match Program.instrument cwd index path src with
    | .error f => Lua.parseChunk src = .error f
    | .ok p => ∃ chunk, Lua.parseChunk src = .ok chunk ∧
        Text.joinBytes "\n".toUTF8 (Text.splitBytes 10 src) = src ∧
        p.source = Text.joinBytes "\n".toUTF8 ((Text.splitBytes 10 src).mapIdx fun i text ↦
          if i + 1 ∈ p.statements then withHook index (i + 1) text else text) ∧
        p.statements.Pairwise (· < ·) ∧
        ∀ line, line ∈ p.statements ↔ 1 ≤ line ∧ line ≤ (Text.splitBytes 10 src).length ∧
          startsStatement ((Text.splitBytes 10 src).getD (line - 1) .empty)
            (((factsStmts .main {} chunk).leads.toList.filter (·.1 = line)).map (·.2)) := by
  cases hp : Lua.parseChunk src with
  | error f =>
    have h : Program.instrument cwd index path src = .error f := by
      unfold Program.instrument
      rw [hp]
      rfl
    rw [h]
  | ok chunk =>
    unfold Program.instrument
    rw [hp]
    dsimp only [bind, Except.bind, pure, Except.pure]
    refine ⟨chunk, rfl, Text.joinBytes_splitBytes src, ?_, ?_, fun line ↦ ?_⟩
    · simp only [Array.toList_mapIdx, List.contains_iff_mem]
    · exact ((foldl_insertSorted _ []).2 List.Pairwise.nil).filter _
    · simp only [List.mem_filter, (foldl_insertSorted _ []).1, List.not_mem_nil, false_or,
        List.size_toArray, Array.getD_eq_getD_getElem?, List.getElem?_toArray, decide_eq_true_eq]
      constructor
      · exact fun h ↦ h.2
      · rintro ⟨h1, h2, h3⟩
        -- the words the test compares with come from statements starting on the line
        obtain ⟨lead, hlead⟩ := exists_lead_of_startsStatement h3
        obtain ⟨⟨l, w⟩, hw, rfl⟩ := List.mem_map.1 hlead
        obtain ⟨hmem, hl⟩ := List.mem_filter.1 hw
        rw [decide_eq_true_eq] at hl
        subst hl
        exact ⟨⟨w, hmem⟩, h1, h2, h3⟩

/-- On `f(\nx) x = 1` the second line starts with `x`, the leading word of `x = 1`, which
starts there; but that `x` is the argument of `f`. Both lines get a hook, and the hook on the
second lands inside the argument list: the source parses, its instrumented source does not. -/
theorem hook_inside_argument_list_breaks_parse :
    (match Program.instrument "/" 0 "/tmp/p.lua" "f(\nx) x = 1\n".toUTF8 with
      | .ok p => (Lua.parseChunk "f(\nx) x = 1\n".toUTF8).isOk && p.statements == [1, 2] &&
          !(Lua.parseChunk p.source).isOk
      | .error _ => false) = true := by
  decide +kernel

end LuaDebugger
