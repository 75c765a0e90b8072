import Mathlib.Data.List.Induction
import Mathlib.Data.List.Nodup
import LuaDebugger.Proofs.VariableReading
import LuaDebugger.Proofs.Instrumentation
/-!
# The locals of a paused frame

The debugger reads a frame's locals from the listing of the variables in scope, in slot
order: the `n`-th listed name reads register `n - 1` (`Machine.scopeLocals`). The names it
shows are the listed ones that do not start with `(`, each once, in the order of its first
slot (`shownNames`); each with the slot and the register of its *last* slot
(`lastEntry`), the innermost of the names a block redeclares. `visibleLocals` gets there in
one pass, overwriting an entry in place when its name comes again, so each entry's place and
its slot come from different occurrences; `visibleLocals_keepsLastEntries` says the pass
gives the declarative listing.

* Writing a register changes only the values of the listing, never its names or slots
  (`visibleLocals_map_values`). So `assign`, which writes the register of the entry that
  `lookup` finds (`writeRegister_spec`), is read back by `lookup` (`assign_then_lookup`):
  a variable in scope through its slot, a name listed past the variables in scope through
  the register of the call in progress, which the frame keeps written until the call
  returns.
* The variable listing names each variable once: the names of the locals are distinct, the
  string keys of a table are distinct (`Table.nodup_strKeys`), and the globals exclude the
  locals' names (`variableList_listsVariables`).
-/

namespace LuaDebugger

namespace Lua

namespace Machine

/-! ### The listing of a frame's locals -/

/-- The names a listing shows: those not starting with `(`, each once, in the order of their
first occurrence. -/
def shownNames (ls : List (String × Nat × Option Value)) : List String :=
  ((ls.map (·.1)).filter fun name ↦ !name.startsWith "(").eraseDups

/-- The last entry of a listing under a name. -/
def lastEntry (ls : List (String × Nat × Option Value)) (name : String) :
    Option (String × Nat × Option Value) :=
  ls.reverse.find? (·.1 = name)

/-- `kept` shows each name that `ls` shows once, in the order of its first occurrence, with
the last entry of `ls` under it. -/
def KeepsLastEntries (ls kept : List (String × Nat × Option Value)) : Prop :=
  kept.map (·.1) = shownNames ls ∧ ∀ x ∈ kept, lastEntry ls x.1 = some x

theorem lastEntry_append_singleton (ls : List (String × Nat × Option Value))
    (x : String × Nat × Option Value) (name : String) :
    lastEntry (ls ++ [x]) name = if x.1 = name then some x else lastEntry ls name := by
  simp only [lastEntry, List.reverse_append, List.reverse_singleton, List.singleton_append,
    List.find?_cons]
  split <;> simp_all

theorem not_hidden_of_mem_shownNames {ls : List (String × Nat × Option Value)} {name : String}
    (h : name ∈ shownNames ls) : name.startsWith "(" = false := by
  simp only [shownNames, List.mem_eraseDups, List.mem_filter, Bool.not_eq_eq_eq_not,
    Bool.not_true] at h
  exact h.2

theorem shownNames_append_hidden (ls : List (String × Nat × Option Value))
    {x : String × Nat × Option Value} (hx : x.1.startsWith "(" = true) :
    shownNames (ls ++ [x]) = shownNames ls := by
  simp [shownNames, hx]

theorem shownNames_append_of_mem (ls : List (String × Nat × Option Value))
    {x : String × Nat × Option Value} (hx : x.1 ∈ shownNames ls) :
    shownNames (ls ++ [x]) = shownNames ls := by
  have hvis := not_hidden_of_mem_shownNames hx
  simp only [shownNames, List.mem_eraseDups] at hx
  simp [shownNames, hvis, List.eraseDups_append, List.removeAll, hx]

theorem shownNames_append_of_not_mem (ls : List (String × Nat × Option Value))
    {x : String × Nat × Option Value} (hvis : x.1.startsWith "(" = false)
    (hx : x.1 ∉ shownNames ls) :
    shownNames (ls ++ [x]) = shownNames ls ++ [x.1] := by
  simp only [shownNames, List.mem_eraseDups] at hx
  simp [shownNames, hvis, List.eraseDups_append, List.removeAll, hx, List.eraseDups_cons]

/-- One step of the pass: a hidden name is skipped, a name met before takes the place it
has, a new name goes last. -/
theorem visibleLocals_append_singleton (ls : List (String × Nat × Option Value))
    (x : String × Nat × Option Value) :
    visibleLocals (ls ++ [x]) =
      if x.1.startsWith "(" then visibleLocals ls
      else match (visibleLocals ls).findIdx? (·.1 = x.1) with
        | some i => (visibleLocals ls).set i x
        | none => visibleLocals ls ++ [x] := by
  obtain ⟨name, n, v⟩ := x
  unfold visibleLocals
  rw [List.foldl_append]
  rfl

/-- Putting in place of an entry one with the same name keeps the names. -/
theorem map_fst_set {α β : Type} {l : List (α × β)} {i : Nat} (hi : i < l.length) {x : α × β}
    (h : l[i].1 = x.1) : (l.set i x).map (·.1) = l.map (·.1) := by
  rw [List.map_set, ← h]
  exact List.ext_getElem (by simp) fun j h1 _ ↦ by
    rw [List.getElem_set]
    split
    · next hij => simp [hij]
    · rfl

/-- **The pass keeps the first place and the last entry of each shown name.** -/
theorem visibleLocals_keepsLastEntries (ls : List (String × Nat × Option Value)) :
    KeepsLastEntries ls (visibleLocals ls) := by
  induction ls using List.reverseRecOn with
  | nil => exact ⟨rfl, by simp [visibleLocals]⟩
  | append_singleton ls x ih =>
    obtain ⟨hnames, hlast⟩ := ih
    rw [visibleLocals_append_singleton]
    -- the name of the new entry is hidden, met before, or new
    by_cases hx : x.1.startsWith "(" = true
    · rw [if_pos hx]
      refine ⟨by rw [hnames, shownNames_append_hidden ls hx], fun y hy ↦ ?_⟩
      have hvis : y.1.startsWith "(" = false :=
        not_hidden_of_mem_shownNames (hnames ▸ List.mem_map_of_mem hy)
      have hne : x.1 ≠ y.1 := fun h ↦ by rw [h, hvis] at hx; cases hx
      rw [lastEntry_append_singleton, if_neg hne, hlast y hy]
    · rw [if_neg hx]
      split
      · next i hi =>
        obtain ⟨hlt, hname, -⟩ := List.findIdx?_eq_some_iff_getElem.1 hi
        simp only [decide_eq_true_eq] at hname
        have hmem : x.1 ∈ shownNames ls := by
          rw [← hnames, ← hname]
          exact List.mem_map_of_mem (List.getElem_mem hlt)
        refine ⟨by rw [map_fst_set hlt hname, hnames, shownNames_append_of_mem ls hmem],
          fun y hy ↦ ?_⟩
        obtain ⟨j, hj, rfl⟩ := List.getElem_of_mem hy
        rw [List.getElem_set]
        split
        · rw [lastEntry_append_singleton, if_pos rfl]
        · next hij =>
          rw [List.length_set] at hj
          -- two entries of the pass with the same name are one, the names being distinct
          have hne : x.1 ≠ (visibleLocals ls)[j].1 := fun h ↦ hij <|
            (@List.Nodup.getElem_inj_iff _ _ (visibleLocals_nodup ls) i (by simpa using hlt) j
              (by simpa using hj)).1 (by simp [hname, h])
          rw [lastEntry_append_singleton, if_neg hne, hlast _ (List.getElem_mem hj)]
      · next hnone =>
        rw [List.findIdx?_eq_none_iff] at hnone
        have hnew : ∀ y ∈ visibleLocals ls, x.1 ≠ y.1 := fun y hy h ↦ by
          simpa [h] using hnone y hy
        have hnot : x.1 ∉ shownNames ls := fun h ↦ by
          rw [← hnames] at h
          obtain ⟨y, hy, hyx⟩ := List.mem_map.1 h
          exact hnew y hy hyx.symm
        refine ⟨?_, fun y hy ↦ ?_⟩
        · rw [List.map_append, hnames, shownNames_append_of_not_mem ls (by simpa using hx) hnot]
          rfl
        rcases List.mem_append.1 hy with hy | hy
        · rw [lastEntry_append_singleton, if_neg (hnew y hy), hlast y hy]
        · rw [List.mem_singleton.1 hy, lastEntry_append_singleton, if_pos rfl]

/-- Recomputing the values of a listing from its slots leaves the pass's choices as they are. -/
theorem visibleLocals_map_values (g : Nat → Option Value) (ls : List (String × Nat × Option Value)) :
    visibleLocals (ls.map fun x ↦ (x.1, x.2.1, g x.2.1)) =
      (visibleLocals ls).map fun x ↦ (x.1, x.2.1, g x.2.1) := by
  induction ls using List.reverseRecOn with
  | nil => rfl
  | append_singleton ls x ih =>
    rw [List.map_append, List.map_singleton, visibleLocals_append_singleton,
      visibleLocals_append_singleton, ih, List.findIdx?_map]
    dsimp only
    by_cases hx : x.1.startsWith "(" = true
    · rw [if_pos hx, if_pos hx]
    · rw [if_neg hx, if_neg hx]
      have hp : ((fun y : String × Nat × Option Value ↦ decide (y.1 = x.1)) ∘
          fun y : String × Nat × Option Value ↦ (y.1, y.2.1, g y.2.1)) =
          fun y ↦ decide (y.1 = x.1) := rfl
      rw [hp]
      cases (visibleLocals ls).findIdx? (·.1 = x.1) with
      | some i => simp [List.map_set]
      | none => simp

/-! ### Writing the register a lookup reads -/

/-- Slot `k` of a script frame can take a value: the frame has the slot, and the cell it
holds, when it holds one, is allocated. -/
def SlotWritable (m : Machine) (f : LuaFrame) (k : Nat) : Prop :=
  ∃ s, f.slots[k]? = some s ∧ ∀ c, s = .cell c → c < m.heap.cells.size

variable {m : Machine} {f : LuaFrame} {pending : Array Value}

/-- A register below the variables in scope reads its slot. -/
theorem register_of_lt {k : Nat} (hk : k < liveCount f) :
    m.register f pending k = some (m.heap.read (f.slots.getD k (.val .nil))) := by
  simp [register, hk]

/-- A register among the values held aside reads the one held there. -/
theorem register_of_stack {k : Nat} (h₁ : liveCount f ≤ k) (h₂ : k < liveCount f + f.stack.size) :
    m.register f pending k = f.stack[k - liveCount f]? := by
  unfold register
  rw [if_neg (Nat.not_lt.2 h₁), if_pos h₂]

/-- A register past the values held aside reads the value last written there, if any. -/
theorem register_of_held {k : Nat} {v : Value} (h : liveCount f + f.stack.size ≤ k)
    (hheld : f.held.find? (·.1 = k) = some (k, v)) : m.register f pending k = some v := by
  unfold register
  rw [if_neg (by omega), if_neg (Nat.not_lt.2 h), hheld]

/-- Two frames of one function at one place list the same names at the same slots; only the
registers they read differ. -/
theorem scopeLocals_eq_map {m' : Machine} {f' : LuaFrame} (hc : f'.closure = f.closure)
    (hpc : f'.pc = f.pc) :
    m'.scopeLocals f' pending = (m.scopeLocals f pending).map
      fun x ↦ (x.1, x.2.1, m'.register f' pending (x.2.1 - 1)) := by
  simp only [scopeLocals, hc, hpc, List.map_map]
  congr 1

theorem framesOf_modifyFrameOf (m : Machine) (t pos : Nat) (g : Frame → Frame) :
    ((m.modifyFrameOf t pos g).framesOf t)[pos]? = ((m.framesOf t)[pos]?).map g := by
  unfold modifyFrameOf framesOf
  by_cases ht : t = m.current
  · simp [ht, Array.getElem?_modify]
  · simp only [ht, if_false, modifyThread, Array.getD_eq_getD_getElem?, Array.getElem?_modify]
    cases m.threads[t]? <;> simp [Array.getElem?_modify]

/-- Writing a slot that can take a value: the frame runs the same function at the same place
afterwards, and the slot reads the value written. -/
theorem writeSlot_spec {t pos k : Nat} {v : Value} (hf : (m.framesOf t)[pos]? = some (.lua f))
    (hw : SlotWritable m f k) :
    ∃ f', ((m.writeSlot t pos k v).framesOf t)[pos]? = some (.lua f') ∧
      f'.closure = f.closure ∧ f'.pc = f.pc ∧
      (m.writeSlot t pos k v).heap.read (f'.slots.getD k (.val .nil)) = v := by
  obtain ⟨s, hs, hcell⟩ := hw
  cases s with
  | cell c =>
    -- the cell is written; the frame stays as it is
    refine ⟨f, ?_, rfl, rfl, ?_⟩
    · simp only [writeSlot, hf, hs]
      exact hf
    · have hc := hcell c rfl
      simp [writeSlot, hf, hs, Array.getD_eq_getD_getElem?, Heap.read, Heap.cell, Heap.setCell, hc]
  | val w =>
    refine ⟨{ f with slots := f.slots.set! k (.val v) }, ?_, rfl, rfl, ?_⟩
    · simp only [writeSlot, hf, hs]
      rw [framesOf_modifyFrameOf, hf]
      rfl
    · have hk : k < f.slots.size := (Array.getElem?_eq_some_iff.1 hs).1
      simp [Array.getD_eq_getD_getElem?, Heap.read, hk]

/-- **Writing a register, it reads the value written.** A register of a variable in scope is
written through its slot, which must take a value; a register above is written where the
frame holds it. Either way the frame runs the same function at the same place afterwards. -/
theorem writeRegister_spec (pending : Array Value) {t pos k : Nat} {v : Value}
    (hf : (m.framesOf t)[pos]? = some (.lua f))
    (hw : k < liveCount f → SlotWritable m f k) :
    ∃ f', ((m.writeRegister t pos f k v).framesOf t)[pos]? = some (.lua f') ∧
      f'.closure = f.closure ∧ f'.pc = f.pc ∧
      (m.writeRegister t pos f k v).register f' pending k = some v := by
  by_cases hlive : k < liveCount f
  · -- a variable in scope: its slot
    obtain ⟨f', hf', hc, hpc, hread⟩ := writeSlot_spec (v := v) hf (hw hlive)
    have hlive' : k < liveCount f' := by simpa only [liveCount, hc, hpc] using hlive
    refine ⟨f', by simpa only [writeRegister, if_pos hlive] using hf', hc, hpc, ?_⟩
    simp only [writeRegister, if_pos hlive]
    rw [register_of_lt hlive', hread]
  have hle : liveCount f ≤ k := Nat.le_of_not_lt hlive
  by_cases hstack : k < liveCount f + f.stack.size
  · -- a value held aside
    refine ⟨{ f with stack := f.stack.set! (k - liveCount f) v }, ?_, rfl, rfl, ?_⟩
    · simp only [writeRegister, if_neg hlive]
      rw [framesOf_modifyFrameOf, hf]
      simp [hstack]
    · have hin : k - liveCount f < f.stack.size := by omega
      rw [register_of_stack (f := { f with stack := f.stack.set! (k - liveCount f) v }) hle
        (by simpa [liveCount] using hstack)]
      unfold liveCount at hin ⊢
      simp [hin]
  · -- a register of the call in progress: the frame keeps the write
    refine ⟨{ f with held := (k, v) :: f.held }, ?_, rfl, rfl, ?_⟩
    · simp only [writeRegister, if_neg hlive]
      rw [framesOf_modifyFrameOf, hf]
      simp [hstack]
    · exact register_of_held (f := { f with held := (k, v) :: f.held }) (Nat.le_of_not_lt hstack)
        (by simp)

/-- `assign` writes the register of the local that `lookup` finds. -/
theorem assign_of_mem {t pos : Nat} {name : String} {n : Nat} {w : Option Value} {v : Value}
    (hf : (m.framesOf t)[pos]? = some (.lua f)) (hl : (name, n, w) ∈ m.locals f pending) :
    m.assign t pos pending name v = some (m.writeRegister t pos f (n - 1) v) := by
  have hfind : (m.locals f pending).find? (·.1 = name) = some (name, n, w) :=
    find?_name_of_nodup (visibleLocals_nodup _) hl
  simp only [assign, hf, hfind]

/-- **What `assign` writes, `lookup` reads.** Assigning a listed local, whose slot can take a
value when it is in scope, leaves the frame running the same function at the same place,
where looking the name up gives the value assigned: in scope through the slot, and past the
variables in scope through the register of the frame that the name reads. -/
theorem assign_then_lookup {t pos : Nat} {name : String} {n : Nat} {w : Option Value}
    {v : Value} (hf : (m.framesOf t)[pos]? = some (.lua f))
    (hl : (name, n, w) ∈ m.locals f pending) (hw : n - 1 < liveCount f → SlotWritable m f (n - 1)) :
    ∃ m' f', m.assign t pos pending name v = some m' ∧
      (m'.framesOf t)[pos]? = some (.lua f') ∧ m'.lookup f' pending name = some v := by
  obtain ⟨f', hf', hc, hpc, hread⟩ := writeRegister_spec pending (v := v) hf hw
  refine ⟨_, f', assign_of_mem hf hl, hf', Machine.lookup_of_mem_locals (n := n) ?_⟩
  -- the written frame lists the same names at the same slots, with the registers it reads
  have hlocals : (m.writeRegister t pos f (n - 1) v).locals f' pending = (m.locals f pending).map
      fun x ↦ (x.1, x.2.1, (m.writeRegister t pos f (n - 1) v).register f' pending (x.2.1 - 1)) := by
    rw [locals, scopeLocals_eq_map (m := m) hc hpc]
    exact visibleLocals_map_values
      (fun k ↦ (m.writeRegister t pos f (n - 1) v).register f' pending (k - 1)) _
  rw [hlocals, ← hread]
  exact List.mem_map_of_mem hl

theorem lastEntry_mem {ls : List (String × Nat × Option Value)} {name : String}
    {x : String × Nat × Option Value} (h : lastEntry ls name = some x) : x ∈ ls :=
  List.mem_reverse.1 (List.mem_of_find?_eq_some h)

/-- An entry of the listing holds the register of its slot. -/
theorem mem_scopeLocals {x : String × Nat × Option Value} (h : x ∈ m.scopeLocals f pending) :
    x.2.2 = m.register f pending (x.2.1 - 1) := by
  simp only [scopeLocals, List.mem_map] at h
  obtain ⟨⟨l, k⟩, -, rfl⟩ := h
  simp

/-- `lookup` reads the register of the slot of the local it finds. -/
theorem lookup_eq_register {name : String} {n : Nat} {w : Option Value}
    (hl : (name, n, w) ∈ m.locals f pending) :
    m.lookup f pending name = some ((m.register f pending (n - 1)).getD .nil) := by
  have hfind : (m.locals f pending).find? (·.1 = name) = some (name, n, w) :=
    find?_name_of_nodup (visibleLocals_nodup _) hl
  have hw : w = m.register f pending (n - 1) :=
    mem_scopeLocals (lastEntry_mem ((visibleLocals_keepsLastEntries _).2 _ hl))
  rw [lookup, hfind, hw]

end Machine

namespace Table

/-- A value's bytes, when it is a string. -/
def strOf? : Value → Option ByteArray
  | .str s => some s
  | _ => none

/-- The string keys of a list of entries, in order. -/
def strKeys (es : List (Value × Value)) : List ByteArray := es.filterMap (strOf? ·.1)

theorem strOf?_toValue {k : Key} {s : ByteArray} (h : strOf? k.toValue = some s) : k = .str s := by
  cases k <;> simp_all [strOf?, Key.toValue]

/-- The string keys of a table's entries are keys of its order. -/
theorem strKeys_entries (t : Table) :
    strKeys t.entries = t.order.toList.filterMap fun k ↦
      (t.hash.get? k).bind fun _ ↦ strOf? k.toValue := by
  -- the array part has number keys, and the hash part's other keys are not strings
  have hstr : ∀ k : Key, (if k.isStr then strOf? k.toValue else none) = strOf? k.toValue := by
    intro k
    cases k <;> rfl
  have hother : ∀ k : Key, (if !k.isStr then strOf? k.toValue else none) = none := by
    intro k
    cases k <;> rfl
  simp only [strKeys, entries, List.filterMap_append, List.filterMap_map, List.filterMap_filter,
    List.filterMap_filterMap, Function.comp_def, hstr, hother, Option.bind_map]
  rw [List.filterMap_eq_nil_iff.2 (fun x _ ↦ ?_), List.nil_append]
  · simp
  · split <;> rfl

/-- **A table has each string key once.** -/
theorem nodup_strKeys (t : Table) : (strKeys t.entries).Nodup := by
  rw [strKeys_entries]
  refine t.order_nodup.filterMap fun a a' s ha ha' ↦ ?_
  obtain ⟨_, -, ha⟩ := Option.bind_eq_some_iff.1 ha
  obtain ⟨_, -, ha'⟩ := Option.bind_eq_some_iff.1 ha'
  rw [strOf?_toValue ha, strOf?_toValue ha']

end Table

end Lua

theorem map_of_mapM_eq_ok {α β γ ε : Type} {f : α → Except ε β} {l : List α} {ys : List β}
    {g : β → γ} {k : α → γ} (h : l.mapM f = .ok ys) (hg : ∀ a b, f a = .ok b → g b = k a) :
    ys.map g = l.map k := by
  induction l generalizing ys with
  | nil =>
    cases h
    rfl
  | cons a l ih =>
    rw [List.mapM_cons] at h
    cases hfa : f a with
    | error e => simp [hfa, bind, Except.bind] at h
    | ok b =>
      cases hl : l.mapM f with
      | error e => simp [hfa, hl, bind, Except.bind] at h
      | ok bs =>
        simp only [hfa, hl, bind, Except.bind, pure, Except.pure, Except.ok.injEq] at h
        subst h
        rw [List.map_cons, List.map_cons, hg a b hfa, ih hl]

/-- Byte strings are equal when their lists of bytes are. -/
theorem bytes_eq_of_toList_eq {a b : ByteArray} (h : a.toList = b.toList) : a = b := by
  rw [Text.toList_eq_data_toList, Text.toList_eq_data_toList] at h
  exact ByteArray.ext (Array.toList_inj.1 h)

namespace Script

open Lua (Machine Value)

namespace Engine

variable {e : Engine}

/-- The locals of the innermost program frame as the pass keeps them; none without a program
frame. -/
def topLocals (e : Engine) : List (String × Nat × Option Value) :=
  match e.topFrame? with
  | some (_, f, pending) => e.machine.locals f pending
  | none => []

/-- The listed locals are named as the pass keeps them. -/
theorem localList_names {ls : List Variable} (h : e.localList = .ok ls) :
    ls.map (·.name) = e.topLocals.map (·.1.toUTF8) := by
  unfold localList at h
  unfold topLocals
  cases ht : e.topFrame? with
  | none =>
    rw [ht] at h
    cases h
    rfl
  | some p =>
    obtain ⟨pos, f, pending⟩ := p
    rw [ht] at h
    refine map_of_mapM_eq_ok h fun ⟨name, n, v⟩ x hx ↦ ?_
    cases v with
    | none => cases hx
    | some v =>
      cases hx
      rfl

theorem nodup_topLocals_names : (e.topLocals.map (·.1.toUTF8)).Nodup := by
  have h : e.topLocals.map (·.1.toUTF8) = (e.topLocals.map (·.1)).map String.toUTF8 := by
    rw [List.map_map]
    rfl
  rw [h]
  refine List.Nodup.map (fun _ _ h ↦ String.toByteArray_inj.1 h) ?_
  unfold topLocals
  split
  · exact Machine.visibleLocals_nodup _
  · exact List.nodup_nil

/-- The names `globalList` lists are the string keys of the globals that are neither built in
nor in `seen`, in some order. -/
theorem globalList_names_perm (seen : List ByteArray) :
    ((e.globalList seen).map (·.name)).Perm
      ((Lua.Table.strKeys (e.machine.table e.machine.globals).entries).filter
        fun s ↦ !(e.builtins.contains s || seen.contains s)) := by
  unfold globalList
  rw [List.map_map]
  refine ((List.mergeSort_perm _ _).map _).trans ?_
  rw [Lua.Table.strKeys, List.filter_filterMap, List.map_filterMap]
  refine List.Perm.of_eq (congrArg₂ _ (funext fun ⟨k, v⟩ ↦ ?_) rfl)
  cases k <;> simp [Lua.Table.strOf?, shownVariable, Option.filter, apply_ite]

/-- `globalList` sorts by bytes. -/
theorem globalList_sorted (seen : List ByteArray) :
    ((e.globalList seen).map (·.name)).Pairwise fun a b ↦ bytesLe a b = true := by
  unfold globalList
  rw [List.map_map, List.pairwise_map]
  refine List.pairwise_mergeSort (fun a b c hab hbc ↦ ?_) (fun a b ↦ ?_) _
  · simp only [bytesLe, decide_eq_true_eq] at hab hbc ⊢
    exact List.le_trans hab hbc
  · simp only [bytesLe, Bool.or_eq_true, decide_eq_true_eq]
    exact List.le_total _ _

/-- How the engine lists the variables of the paused program: each name once, first the
locals of the innermost program frame as the pass keeps them, then, in the order of their
bytes, the string keys of the globals that are neither built in nor the name of a listed
local. -/
def ListsVariables (e : Engine) (vars : List Variable) : Prop :=
  (vars.map (·.name)).Nodup ∧
  ∃ ls gs, vars = ls ++ gs ∧ ls.map (·.name) = e.topLocals.map (·.1.toUTF8) ∧
    (gs.map (·.name)).Pairwise (fun a b ↦ a.toList < b.toList) ∧
    ∀ s, s ∈ gs.map (·.name) ↔
      s ∈ Lua.Table.strKeys (e.machine.table e.machine.globals).entries ∧ s ∉ e.builtins ∧
        s ∉ ls.map (·.name)

/-- **The listing names each variable once.** -/
theorem variableList_listsVariables {vars : List Variable} (h : e.variableList = .ok vars) :
    e.ListsVariables vars := by
  obtain ⟨ls, hls, rfl⟩ := variableList_eq_ok h
  have hnames := localList_names hls
  have hperm := globalList_names_perm (e := e) (ls.map (·.name))
  have hmem : ∀ s, s ∈ (e.globalList (ls.map (·.name))).map (·.name) ↔
      s ∈ Lua.Table.strKeys (e.machine.table e.machine.globals).entries ∧ s ∉ e.builtins ∧
        s ∉ ls.map (·.name) := fun s ↦ by
    rw [hperm.mem_iff, List.mem_filter]
    simp
  have hgnd : ((e.globalList (ls.map (·.name))).map (·.name)).Nodup :=
    hperm.nodup_iff.2 ((Lua.Table.nodup_strKeys _).filter _)
  refine ⟨?_, ls, _, rfl, hnames, ?_, hmem⟩
  · rw [List.map_append, List.nodup_append]
    refine ⟨hnames ▸ nodup_topLocals_names, hgnd, fun a ha b hb hab ↦ ?_⟩
    subst hab
    exact ((hmem a).1 hb).2.2 ha
  · -- sorted by bytes and without repeats: sorted strictly
    refine List.Pairwise.imp₂ (fun a b hab hne ↦ ?_) (globalList_sorted _) hgnd
    simp only [bytesLe, decide_eq_true_eq] at hab
    rcases List.le_iff_lt_or_eq.1 hab with hlt | heq
    · exact hlt
    · exact absurd (bytes_eq_of_toList_eq heq) hne

/-- **The paused frame's locals are listed once each, and written where they are read.**
The locals of the innermost program frame show each name of its listing once, at the place
of its first slot, with the slot and register of its last. Looking a local up reads the
register of its slot, and assigning it writes that register, so looking it up again reads the
value assigned: for a variable in scope through its slot, for a name listed past the
variables in scope through the register of the call in progress. The variable listing names
each variable once: these locals in this order, then the string-named globals neither built
in nor named as a local, in the order of their bytes. -/
theorem frame_locals_listed_once_and_assigned_in_place (e : Engine) :
    (∀ pos f pending, e.topFrame? = some (pos, f, pending) →
      Machine.KeepsLastEntries (e.machine.scopeLocals f pending) (e.machine.locals f pending) ∧
      ∀ name n w v, (name, n, w) ∈ e.machine.locals f pending →
        e.machine.lookup f pending name =
            some ((e.machine.register f pending (n - 1)).getD .nil) ∧
          e.machine.assign 0 pos pending name v =
            some (e.machine.writeRegister 0 pos f (n - 1) v) ∧
          ((n - 1 < Machine.liveCount f → e.machine.SlotWritable f (n - 1)) →
            ∃ m' f', e.machine.assign 0 pos pending name v = some m' ∧
              (m'.framesOf 0)[pos]? = some (.lua f') ∧ m'.lookup f' pending name = some v)) ∧
    ∀ vars, e.variableList = .ok vars → e.ListsVariables vars := by
  refine ⟨fun pos f pending ht ↦ ⟨Machine.visibleLocals_keepsLastEntries _,
    fun name n w v hl ↦ ?_⟩, fun vars h ↦ variableList_listsVariables h⟩
  have hf := topFrame?_eq_some ht
  exact ⟨Machine.lookup_eq_register hl, Machine.assign_of_mem hf hl,
    Machine.assign_then_lookup hf hl⟩

end Engine

end Script

end LuaDebugger
