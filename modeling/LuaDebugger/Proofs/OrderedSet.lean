import Std.Data.HashSet.Lemmas
import LuaDebugger.Debug.Breakpoint
/-!
# The breakpoint registry is an ordered set

The registry keeps its breakpoints twice: a list in the order they were first added, and a
hash index. Its operations read one view or the other: a lookup and the checks of adding and
removing read the index, the listing and the count read the list. This module proves that the
two views never drift apart, so that the registry behaves as a plain ordered set.

* `Registry.Coherent` is the representation invariant: the list has no duplicates and the
  index holds exactly its elements. The empty registry has it, and every operation keeps it
  (`coherent_empty`, `Coherent.add`, `Coherent.remove`).
* Under the invariant each operation is the operation of the ordered set that the list is:
  `add_of_mem`, `add_of_not_mem`, `remove_of_mem`, `remove_of_not_mem`, `has_eq`.
* `Registry.setCall` is the reference, an ordered set given as a list: adding appends a
  breakpoint that is absent, removing filters out the one equal to it on file and line.
  `registry_behaves_as_ordered_set` says that every sequence of operations (`Registry.Op`)
  from the empty registry gives the answers of the reference, leaves the list of the
  reference, and keeps the invariant. Each operation runs under the registry's lock, so the
  operations of any number of clients form one such sequence.
-/

namespace LuaDebugger

namespace Registry

/-- The reference: an operation on an ordered set given as a list. Adding appends a
breakpoint that is absent, removing keeps every breakpoint that differs from the one removed
in file or line, and a check leaves the set alone. -/
def setCall (M : List Breakpoint) : Op → Answer × List Breakpoint
  | .add b => if b ∈ M then (.flag false, M) else (.flag true, M ++ [b])
  | .remove b => if b ∈ M then (.flag true, M.filter (· ≠ b)) else (.flag false, M)
  | .clear => (.cleared, [])
  | .has file line => (.flag (decide (⟨file, line⟩ ∈ M)), M)
  | .list => (.breakpoints M, M)
  | .len => (.count M.length, M)
  | .validate cwd files path line => (.checked (Breakpoint.validate cwd files path line), M)

/-- Operations in order on the reference. -/
def setRun (M : List Breakpoint) : List Op → List Answer × List Breakpoint
  | [] => ([], M)
  | o :: os => ((setCall M o).1 :: (setRun (setCall M o).2 os).1, (setRun (setCall M o).2 os).2)

/-! ### The representation invariant -/

/-- The two views agree: the list has no duplicates, and the index holds exactly the
breakpoints of the list. -/
structure Coherent (r : Registry) : Prop where
  /-- Each breakpoint is listed once. -/
  nodup : r.entries.Nodup
  /-- The index holds what the list holds. -/
  mem_index : ∀ b, b ∈ r.index ↔ b ∈ r.entries

variable {r : Registry} {b : Breakpoint}

theorem coherent_empty : empty.Coherent :=
  ⟨List.nodup_nil, fun _ ↦ by simp [empty]⟩

/-- Under the invariant, the index answers membership in the list. -/
theorem Coherent.contains (h : r.Coherent) (b : Breakpoint) :
    r.index.contains b = decide (b ∈ r.entries) := by
  rw [Bool.eq_iff_iff, Std.HashSet.contains_iff_mem, h.mem_index, decide_eq_true_iff]

/-- Under the invariant, a lookup is membership in the list. -/
theorem has_eq (h : r.Coherent) (file : FileId) (line : Int) :
    r.has file line = decide (⟨file, line⟩ ∈ r.entries) :=
  h.contains _

theorem add_of_mem (h : r.Coherent) (hb : b ∈ r.entries) : r.add b = (false, r) := by
  simp [add, h.contains, hb]

theorem add_of_not_mem (h : r.Coherent) (hb : b ∉ r.entries) :
    r.add b = (true, ⟨r.entries ++ [b], r.index.insert b⟩) := by
  simp [add, h.contains, hb]

theorem remove_of_mem (h : r.Coherent) (hb : b ∈ r.entries) :
    r.remove b = (true, ⟨r.entries.erase b, r.index.erase b⟩) := by
  simp [remove, h.contains, hb]

theorem remove_of_not_mem (h : r.Coherent) (hb : b ∉ r.entries) : r.remove b = (false, r) := by
  simp [remove, h.contains, hb]

/-- Removing from a list without duplicates drops exactly the breakpoint removed. -/
theorem erase_eq_filter (h : r.Coherent) (b : Breakpoint) :
    r.entries.erase b = r.entries.filter (· ≠ b) := by
  rw [h.nodup.erase_eq_filter]
  congr 1
  funext x
  rw [Bool.eq_iff_iff, bne_iff_ne, decide_eq_true_iff]

theorem Coherent.add (h : r.Coherent) (b : Breakpoint) : (r.add b).2.Coherent := by
  by_cases hb : b ∈ r.entries
  · rwa [add_of_mem h hb]
  · rw [add_of_not_mem h hb]
    refine ⟨?_, fun a ↦ ?_⟩
    · -- the new breakpoint is none of the old ones
      exact List.nodup_append.2 ⟨h.nodup,
        List.nodup_cons.2 ⟨List.not_mem_nil, List.nodup_nil⟩,
        fun a ha c hc ↦ by rintro rfl; exact hb (List.mem_singleton.1 hc ▸ ha)⟩
    · rw [Std.HashSet.mem_insert, h.mem_index, List.mem_append, List.mem_singleton, beq_iff_eq]
      exact ⟨fun h' ↦ h'.symm.imp id Eq.symm, fun h' ↦ h'.symm.imp Eq.symm id⟩

theorem Coherent.remove (h : r.Coherent) (b : Breakpoint) : (r.remove b).2.Coherent := by
  by_cases hb : b ∈ r.entries
  · rw [remove_of_mem h hb]
    refine ⟨h.nodup.erase b, fun a ↦ ?_⟩
    rw [Std.HashSet.mem_erase, h.mem_index, h.nodup.mem_erase_iff, beq_eq_false_iff_ne]
    exact ⟨fun ⟨hne, ha⟩ ↦ ⟨Ne.symm hne, ha⟩,
      fun ⟨hne, ha⟩ ↦ ⟨Ne.symm hne, ha⟩⟩
  · rwa [remove_of_not_mem h hb]

/-! ### Every operation is the reference's -/

/-- **One operation.** On a coherent registry an operation answers as the reference does on
the list, leaves the list the reference leaves, and keeps the invariant. -/
theorem Coherent.call (h : r.Coherent) (o : Op) :
    (r.call o).1 = (setCall r.entries o).1 ∧ (r.call o).2.entries = (setCall r.entries o).2 ∧
      (r.call o).2.Coherent := by
  cases o with
  | add b =>
    refine ⟨?_, ?_, h.add b⟩ <;> by_cases hb : b ∈ r.entries <;>
      simp [Registry.call, setCall, hb, add_of_mem, add_of_not_mem, h]
  | remove b =>
    refine ⟨?_, ?_, h.remove b⟩ <;> by_cases hb : b ∈ r.entries <;>
      simp [Registry.call, setCall, hb, remove_of_mem, remove_of_not_mem, h, erase_eq_filter]
  | clear => exact ⟨rfl, rfl, coherent_empty⟩
  | has file line => exact ⟨by simp [Registry.call, setCall, has_eq h], rfl, h⟩
  | list => exact ⟨rfl, rfl, h⟩
  | len => exact ⟨rfl, rfl, h⟩
  | validate cwd files path line => exact ⟨rfl, rfl, h⟩

/-- **A sequence of operations**, by induction on it from a coherent registry. -/
theorem Coherent.run (h : r.Coherent) (os : List Op) :
    (r.run os).1 = (setRun r.entries os).1 ∧ (r.run os).2.entries = (setRun r.entries os).2 ∧
      (r.run os).2.Coherent := by
  induction os generalizing r with
  | nil => exact ⟨rfl, rfl, h⟩
  | cons o os ih =>
    obtain ⟨ha, he, hc⟩ := h.call o
    obtain ⟨has, hes, hcs⟩ := ih hc
    refine ⟨?_, ?_, hcs⟩
    · simp only [Registry.run, setRun, ha, ← he, has]
    · simp only [Registry.run, setRun, ← he, hes]

/-- **The registry behaves as an ordered set.** Every sequence of operations on a new
registry answers exactly as the ordered set `setRun` does, at every step: adding reports
whether the breakpoint was absent and appends it, removing reports whether it was present
and drops only it, keeping the order of the rest, clearing empties the set, the listing is
the set in insertion order, the count is its size, a lookup is membership, and a check
changes nothing. The registry left lists that set, and its list and index still agree. -/
theorem registry_behaves_as_ordered_set (os : List Op) :
    (empty.run os).1 = (setRun [] os).1 ∧ (empty.run os).2.entries = (setRun [] os).2 ∧
      (empty.run os).2.Coherent :=
  coherent_empty.run os

end Registry

end LuaDebugger
