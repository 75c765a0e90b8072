import LuaDebugger.Proofs.Framing
import LuaDebugger.Proofs.SettingPaths
import Mathlib.Data.List.TakeWhile
/-!
# Instrumentation keeps the lines of a source

Errors and frames are reported by line number, so the instrumented source must keep every line
where it was. `instrument_keeps_line_structure` says so for every source:

* a source that parses is instrumented, one that does not is refused with the parser's fault;
* the instrumented source, cut at line feeds, has as many lines as the source, and line `L` is
  the source's line `L`, or, when `L` is a statement line, that line with the hook call put
  right after the spaces and tabs it starts with (`InsertedAfterIndent`); the source is its
  lines joined by line feeds, so taking the hook calls out gives it back byte for byte;
* the statement lines ascend and lie among the source's lines;
* the display lines are the source's lines without a last empty one, each without one
  trailing carriage return.

The hook call holds no line feed (`lf_not_mem_hookCall`) and neither does a line of the source
(`Text.lf_not_mem_of_mem_splitBytes`), so joining the hooked lines and cutting them again gives
them back (`splitBytes_hooked`).
-/

namespace LuaDebugger

namespace Text

/-! ### Cutting and joining lines -/

theorem splitBytes_ne_nil (sep : UInt8) (bs : ByteArray) : splitBytes sep bs ≠ [] := by
  rw [splitBytes, Ne, List.map_eq_nil_iff, splitBytesList_eq_splitOn]
  exact List.splitOn_ne_nil sep _

/-- No line of a source holds a line feed. -/
theorem lf_not_mem_of_mem_splitBytes {src l : ByteArray} (h : l ∈ splitBytes 10 src) :
    (10 : UInt8) ∉ l.data.toList := by
  have hl : l.data.toList ∈ src.data.toList.splitOn 10 := by
    rw [← data_splitBytes]
    exact List.mem_map_of_mem h
  exact Config.not_mem_of_mem_splitOn hl

/-- Lines without line feeds, joined by line feeds, are cut back into the same lines. -/
theorem splitBytes_joinBytes {ls : List ByteArray} (hne : ls ≠ [])
    (h : ∀ l ∈ ls, (10 : UInt8) ∉ l.data.toList) :
    splitBytes 10 (joinBytes "\n".toUTF8 ls) = ls := by
  have hnl : ("\n".toUTF8).data.toList = [10] := by decide
  apply List.map_injective_iff.2 data_toList_injective
  rw [data_splitBytes, data_joinBytes, hnl]
  refine List.splitOn_intercalate 10 ?_ (by simpa using hne)
  intro l hl
  obtain ⟨b, hb, rfl⟩ := List.mem_map.1 hl
  exact h b hb

theorem data_extract_zero (b : ByteArray) (n : Nat) :
    (b.extract 0 n).data.toList = b.data.toList.take n := by
  simp

theorem data_extract_size (b : ByteArray) (n : Nat) :
    (b.extract n b.size).data.toList = b.data.toList.drop n := by
  simp only [ByteArray.data_extract, Array.toList_extract, List.extract_eq_take_drop]
  exact List.take_of_length_le (by simp)

/-! ### Carriage returns -/

theorem endsWithByte_iff (l : ByteArray) (b : UInt8) :
    endsWithByte l b = true ↔ l.data.toList.getLast? = some b := by
  rcases l with ⟨data⟩
  have hs : ({ data := data } : ByteArray).size = data.size := rfl
  rw [List.getLast?_eq_getElem?]
  unfold endsWithByte
  by_cases h : 0 < data.size
  · have hi : data.size - 1 < data.size := by omega
    simp [hs, h, ByteArray.get!, hi]
  · have h0 : data.size = 0 := by omega
    simp [hs, h0]

theorem data_dropLastByte (l : ByteArray) :
    (dropLastByte l).data.toList = l.data.toList.dropLast := by
  simp [dropLastByte, List.dropLast_eq_take]

end Text

/-! ### The hook call -/

/-- `out` is `text` with `ins` put right after the spaces and tabs it starts with. -/
def InsertedAfterIndent (ins text out : ByteArray) : Prop :=
  ∃ pre rest, text = pre ++ rest ∧ out = pre ++ ins ++ rest ∧
    (∀ b ∈ pre.data.toList, isIndentByte b = true) ∧
    ∀ b ∈ rest.data.toList.head?, isIndentByte b = false

/-- The hook call goes right after the line's indentation. -/
theorem withHook_inserts_after_indent (index line : Nat) (text : ByteArray) :
    InsertedAfterIndent (hookCall index line) text (withHook index line text) := by
  have hsplit := (List.takeWhile_append_dropWhile (p := isIndentByte)
    (l := text.data.toList)).symm
  set n := (text.toList.takeWhile isIndentByte).length with hn
  rw [Text.toList_eq_data_toList] at hn
  have hle : n ≤ text.size := by
    have := congrArg List.length hsplit
    simp only [List.length_append, Array.length_toList, ByteArray.size_data] at this
    omega
  -- the cut at `n` splits the bytes into the indentation and what follows it
  have hpre : text.data.toList.take n = text.data.toList.takeWhile isIndentByte := by
    rw [hn]
    conv_lhs => arg 2; rw [hsplit]
    exact List.take_left
  have hrest : text.data.toList.drop n = text.data.toList.dropWhile isIndentByte := by
    rw [hn]
    conv_lhs => arg 2; rw [hsplit]
    exact List.drop_left
  refine ⟨text.extract 0 n, text.extract n text.size, ?_, rfl, ?_, ?_⟩
  · rw [← ByteArray.extract_eq_extract_append_extract n (Nat.zero_le n) hle,
      ByteArray.extract_zero_size]
  · intro b hb
    rw [Text.data_extract_zero, hpre] at hb
    exact List.mem_takeWhile_imp hb
  · intro b hb
    rw [Text.data_extract_size, hrest] at hb
    obtain ⟨tl, htl⟩ := List.head?_eq_some_iff.1 hb
    have hb' := List.head_dropWhile_not isIndentByte (l := text.data.toList) (by simp [htl])
    simpa [htl] using hb'

theorem lf_not_mem_hookCall (index line : Nat) :
    (10 : UInt8) ∉ (hookCall index line).data.toList := by
  rw [hookCall, Text.lf_mem_toUTF8]
  simp only [String.toList_append, List.mem_append, not_or]
  exact ⟨⟨⟨⟨by decide, Text.lf_not_mem_natRepr index⟩, by decide⟩,
    Text.lf_not_mem_natRepr line⟩, by decide⟩

theorem InsertedAfterIndent.lf_not_mem {ins text out : ByteArray}
    (h : InsertedAfterIndent ins text out) (hins : (10 : UInt8) ∉ ins.data.toList)
    (htext : (10 : UInt8) ∉ text.data.toList) : (10 : UInt8) ∉ out.data.toList := by
  obtain ⟨pre, rest, rfl, rfl, -, -⟩ := h
  simp only [ByteArray.toList_data_append, List.mem_append, not_or] at htext ⊢
  exact ⟨⟨htext.1, hins⟩, htext.2⟩

/-- The instrumented source, cut at line feeds, gives back the hooked lines one by one. -/
theorem splitBytes_hooked (index : Nat) (S : List Nat) (src : ByteArray) :
    Text.splitBytes 10 (Text.joinBytes "\n".toUTF8 ((Text.splitBytes 10 src).toArray.mapIdx
        fun i text ↦ if S.contains (i + 1) = true then withHook index (i + 1) text
          else text).toList) =
      (Text.splitBytes 10 src).mapIdx fun i text ↦
        if i + 1 ∈ S then withHook index (i + 1) text else text := by
  simp only [Array.toList_mapIdx, List.contains_iff_mem]
  apply Text.splitBytes_joinBytes
  · rw [Ne, List.mapIdx_eq_nil_iff]
    exact Text.splitBytes_ne_nil 10 src
  · intro l hl
    obtain ⟨i, hi, rfl⟩ := List.mem_mapIdx.1 hl
    have hraw := Text.lf_not_mem_of_mem_splitBytes (List.getElem_mem hi)
    split
    · exact (withHook_inserts_after_indent index (i + 1) _).lf_not_mem
        (lf_not_mem_hookCall _ _) hraw
    · exact hraw

/-! ### Instrumentation -/

/-- **Instrumentation keeps the lines of a source.** A source that parses is instrumented.
Its instrumented source has as many lines as it, each line the same but for the hook call put
after the indentation of each statement line; the statement lines ascend and lie within the
source; the display lines are the source's lines without a last empty one and without one
trailing carriage return each. -/
theorem instrument_keeps_line_structure (cwd : String) (index : Nat) (path : String)
    (src : ByteArray) :
    match Program.instrument cwd index path src with
    | .error f => Lua.parseChunk src = .error f
    | .ok p =>
      (Text.splitBytes 10 p.source).length = (Text.splitBytes 10 src).length ∧
      Text.splitBytes 10 p.source = (Text.splitBytes 10 src).mapIdx (fun i text ↦
        if i + 1 ∈ p.statements then withHook index (i + 1) text else text) ∧
      (∀ line text, InsertedAfterIndent (hookCall index line) text (withHook index line text)) ∧
      Text.joinBytes "\n".toUTF8 (Text.splitBytes 10 src) = src ∧
      p.statements.Pairwise (· < ·) ∧
      (∀ line ∈ p.statements, 1 ≤ line ∧ line ≤ (Text.splitBytes 10 src).length) ∧
      p.lines.toList.map (·.data.toList) =
        (if (Text.splitBytes 10 src).getLast? = some .empty then (Text.splitBytes 10 src).dropLast
          else Text.splitBytes 10 src).map fun l ↦
            if l.data.toList.getLast? = some 13 then l.data.toList.dropLast
            else l.data.toList := by
  cases hp : Lua.parseChunk src with
  | error f =>
    have h : Program.instrument cwd index path src = .error f := by
      unfold Program.instrument
      rw [hp]
      rfl
    rw [h]
  | ok chunk =>
    unfold Program.instrument
    rw [hp]
    dsimp only [bind, Except.bind, pure, Except.pure]
    refine ⟨?_, splitBytes_hooked _ _ _, withHook_inserts_after_indent index,
      Text.joinBytes_splitBytes src, ?_, ?_, ?_⟩
    · rw [splitBytes_hooked, List.length_mapIdx]
    · exact ((foldl_insertSorted _ []).2 List.Pairwise.nil).filter _
    · intro line hl
      simp only [List.mem_filter, decide_eq_true_eq, List.size_toArray] at hl
      exact ⟨hl.2.1, hl.2.2.1⟩
    · rw [Array.toList_map, List.map_map]
      congr 1
      · -- each display line drops one trailing carriage return
        funext l
        rw [Function.comp_apply]
        by_cases h : l.data.toList.getLast? = some 13
        · rw [if_pos ((Text.endsWithByte_iff l 13).2 h), if_pos h, Text.data_dropLastByte]
        · rw [if_neg (mt (Text.endsWithByte_iff l 13).1 h), if_neg h]
      · -- and the lines lose a last empty one
        by_cases h : (Text.splitBytes 10 src).getLast? = some .empty
        · have hpos : 0 < (Text.splitBytes 10 src).length := by
            cases hs : Text.splitBytes 10 src
            · simp [hs] at h
            · simp
          simp [h, hpos]
        · simp [h]

end LuaDebugger
