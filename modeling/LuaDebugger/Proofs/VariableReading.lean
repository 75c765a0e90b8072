import LuaDebugger.Script.Scope
import LuaDebugger.Proofs.Utf8Reading
import LuaDebugger.Proofs.EngineSteps
import Mathlib.Data.List.Basic
/-!
# Reading the variables the engine lists

Three views of a paused program's variables meet here: the listing (`variableList`), reading
one name (`readVariable`), and the environment of an evaluation (`frameEnv`), whose `__index`
is the built-in `frameIndex`. Reading a name and the environment resolve it the same way: a
local of the innermost program frame, else an upvalue of its function, else a global
(`ReadsAs`). The listing shows the frame's locals and then the globals that no local hides;
a global that an upvalue hides is still listed, with the global's value, while the other two
read the upvalue. `listed_variables_read_back` says all of it.

* `visibleLocals_nodup`: the listed locals have distinct names, so looking a name up finds
  the very entry listed under it (`lookup_of_mem_locals`); a name no listed local has is
  looked up among the upvalues (`lookup_of_not_mem_locals`).
* `rawGetStr_of_mem_entries`: a string entry of a table is what reading its key gives, and
  never `nil`.
* `variableList_eq_ok`, `localList_eq_ok` and `mem_globalList` take the listing apart.
* A listed name is the bytes of a text, which both readers decode back to it
  (`Text.decodeLossy_encode`, `text_toUTF8`).
-/

/-- Byte strings compare by their bytes. -/
instance instLawfulBEqByteArray : LawfulBEq ByteArray where
  eq_of_beq {a b} h := ByteArray.ext (eq_of_beq (show a.data == b.data from h))
  rfl {a} := show a.data == a.data from beq_self_eq_true a.data

namespace LuaDebugger

namespace Lua

namespace Machine

/-- The kept names are distinct: a name listed again takes the place it already has. -/
theorem visibleLocals_nodup (ls : List (String × Nat × Option Value)) :
    ((visibleLocals ls).map (·.1)).Nodup := by
  unfold visibleLocals
  -- the invariant of the fold: the names kept so far are distinct
  refine List.foldlRecOn (motive := fun acc : List (String × Nat × Option Value) ↦
    (acc.map (·.1)).Nodup) ls _ ?_ ?_
  · exact List.nodup_nil
  · rintro acc hacc ⟨name, n, v⟩ -
    dsimp only
    split
    · exact hacc
    · split
      · next i hi =>
        obtain ⟨hlt, hname, -⟩ := List.findIdx?_eq_some_iff_getElem.1 hi
        have hset : (acc.set i (name, n, v)).map (·.1) = acc.map (·.1) := by
          simp only [decide_eq_true_eq] at hname
          rw [List.map_set, ← hname]
          refine List.ext_getElem (by simp) fun j h1 h2 ↦ ?_
          rw [List.getElem_set]
          split
          · next hij => simp [hij]
          · rfl
        rw [hset]
        exact hacc
      · next hnone =>
        rw [List.findIdx?_eq_none_iff] at hnone
        rw [List.map_append, List.nodup_append]
        refine ⟨hacc, by simp, ?_⟩
        simp only [List.mem_map, List.map_cons, List.map_nil, List.mem_singleton]
        rintro _ ⟨y, hy, rfl⟩ _ rfl
        simpa using hnone y hy

/-- In a list of distinct names, the first entry with the name of a listed entry is that
entry. -/
theorem find?_name_of_nodup {β : Type} {l : List (String × β)} (hnd : (l.map (·.1)).Nodup)
    {x : String × β} (hx : x ∈ l) : l.find? (·.1 = x.1) = some x := by
  induction l with
  | nil => cases hx
  | cons y l ih =>
    rw [List.map_cons, List.nodup_cons] at hnd
    rcases List.mem_cons.1 hx with rfl | hx
    · simp
    · have hne : y.1 ≠ x.1 := fun h ↦ hnd.1 (h ▸ List.mem_map_of_mem hx)
      rw [List.find?_cons_of_neg (by simpa using hne), ih hnd.2 hx]

variable {m : Machine} {f : LuaFrame} {pending : Array Value}

/-- A local the debugger lists is found by its name, with the value it lists. -/
theorem lookup_of_mem_locals {name : String} {n : Nat} {v : Value}
    (h : (name, n, some v) ∈ m.locals f pending) : m.lookup f pending name = some v := by
  have hfind : (m.locals f pending).find? (·.1 = name) = some (name, n, some v) :=
    find?_name_of_nodup (visibleLocals_nodup _) h
  rw [lookup, hfind]
  rfl

/-- A name that no listed local has is found among the upvalues. -/
theorem lookup_of_not_mem_locals {name : String}
    (h : ∀ x ∈ m.locals f pending, x.1 ≠ name) :
    m.lookup f pending name =
      (f.closure.proto.upvalueNames.findIdx? (· = name)).map fun i ↦
        m.heap.cell (f.closure.upvalues.getD i 0) := by
  have hfind : (m.locals f pending).find? (·.1 = name) = none :=
    List.find?_eq_none.2 fun x hx ↦ by simpa using h x hx
  rw [lookup, hfind]
  dsimp only
  cases f.closure.proto.upvalueNames.findIdx? (· = name) <;> rfl

end Machine

namespace Table

/-- A string entry of a table is what reading its key gives, and never `nil`. -/
theorem rawGetStr_of_mem_entries {t : Table} {s : ByteArray} {v : Value}
    (h : (Value.str s, v) ∈ t.entries) : t.rawGetStr s = v ∧ v ≠ .nil := by
  -- a string key comes from the hash part, where a key is listed with its value
  have hkey : t.hash.get? (.str s) = some v := by
    simp only [entries, List.mem_append, List.mem_filterMap, List.mem_map, List.mem_filter] at h
    rcases h with (⟨⟨a, i⟩, -, ha⟩ | ⟨⟨k, w⟩, ⟨⟨k', -, hk'⟩, -⟩, he⟩) | ⟨⟨k, w⟩, ⟨⟨k', -, hk'⟩, -⟩, he⟩
    · cases a <;> simp at ha
    all_goals
      obtain ⟨w', hw', he'⟩ := Option.map_eq_some_iff.1 hk'
      cases he'
      cases k <;> simp only [Key.toValue, Prod.mk.injEq, reduceCtorEq, false_and,
        Value.str.injEq] at he
      obtain ⟨rfl, rfl⟩ := he
      exact hw'
  refine ⟨?_, t.hash_ne_nil _ _ hkey⟩
  rw [rawGetStr, hashGet, hkey, Option.getD_some]

/-- Writing a string key other than `nil` changes what that key reads, and no other. -/
theorem rawGetStr_rawSetStr (t : Table) (s s' : ByteArray) {v : Value} (hv : v.isNil = false) :
    (t.rawSetStr s v).rawGetStr s' = if s = s' then v else t.rawGetStr s' := by
  have hins : (t.rawSetStr s v).hash = t.hash.insert (.str s) v := by
    unfold rawSetStr hashSet
    rw [dif_neg (by simp [hv])]
    dsimp only
    split <;> rfl
  unfold rawGetStr hashGet
  rw [hins, Std.HashMap.get?_insert]
  by_cases h : s = s'
  · simp [h]
  · simp [h]

section NewKey

variable (t : Table) (s : ByteArray) {v : Value} (hv : v.isNil = false)
  (hnew : t.position.contains (.str s) = false)
include hv hnew

/-- A value written at a string key the table never had: the key joins the order, last, and
the hash part holds the value. -/
theorem rawSetStr_of_new :
    (t.rawSetStr s v).order = t.order.push (.str s) ∧
      (t.rawSetStr s v).position = t.position.insert (.str s) t.order.size ∧
      (t.rawSetStr s v).hash = t.hash.insert (.str s) v ∧ (t.rawSetStr s v).array = t.array := by
  unfold rawSetStr hashSet
  rw [dif_neg (by simp [hv])]
  dsimp only
  rw [dif_neg (by simp [hnew])]
  exact ⟨rfl, rfl, rfl, rfl⟩

/-- The entries of a table of string keys alone gain the new key last. -/
theorem entries_rawSetStr_of_new (harr : t.array = #[]) (hstr : ∀ k ∈ t.order, k.isStr = true) :
    (t.rawSetStr s v).entries = t.entries ++ [(.str s, v)] := by
  obtain ⟨hord, -, hhash, harr'⟩ := rawSetStr_of_new t s hv hnew
  -- the keys already there are other than the new one, so they read as before
  have hother : ∀ k ∈ t.order.toList, ((t.hash.insert (.str s) v).get? k) = t.hash.get? k := by
    intro k hk
    rw [Std.HashMap.get?_insert]
    have hne : Key.str s ≠ k := by
      rintro rfl
      have := t.position_of_mem _ (Array.mem_toList_iff.1 hk)
      rw [hnew] at this
      cases this
    simp [hne]
  have hpresent : (t.order.toList.filterMap fun k ↦ ((t.hash.insert (.str s) v).get? k).map
      fun w ↦ (k, w)) = t.order.toList.filterMap fun k ↦ (t.hash.get? k).map fun w ↦ (k, w) :=
    List.filterMap_congr fun k hk ↦ by rw [hother k hk]
  have hallStr : ∀ x ∈ (t.order.toList.filterMap fun k ↦ (t.hash.get? k).map fun w ↦ (k, w)),
      x.1.isStr = true := by
    intro x hx
    obtain ⟨k, hk, hkx⟩ := List.mem_filterMap.1 hx
    obtain ⟨w, -, rfl⟩ := Option.map_eq_some_iff.1 hkx
    exact hstr k (Array.mem_toList_iff.1 hk)
  have hnone : (t.order.toList.filterMap fun k ↦ (t.hash.get? k).map fun w ↦ (k, w)).filter
      (!·.1.isStr) = [] :=
    List.filter_eq_nil_iff.2 fun x hx ↦ by simp [hallStr x hx]
  unfold entries
  dsimp only
  rw [hord, hhash, harr', harr, Array.toList_push, List.filterMap_append, hpresent,
    List.filter_append, List.filter_append, hnone, List.filter_eq_self.2 hallStr]
  simp [Key.isStr, Key.toValue]

end NewKey

end Table

end Lua

theorem except_bind_eq_ok {α β ε : Type} {x : Except ε α} {g : α → Except ε β} {b : β}
    (h : x >>= g = .ok b) : ∃ a, x = .ok a ∧ g a = .ok b := by
  cases x with
  | error e => cases h
  | ok a => exact ⟨a, rfl, h⟩

/-- A list mapped without failure: each element gives one of the results, and each result
comes from one of the elements. -/
theorem mem_of_mapM_eq_ok {α β ε : Type} {f : α → Except ε β} {l : List α} {ys : List β}
    (h : l.mapM f = .ok ys) :
    (∀ a ∈ l, ∃ b ∈ ys, f a = .ok b) ∧ ∀ b ∈ ys, ∃ a ∈ l, f a = .ok b := by
  induction l generalizing ys with
  | nil =>
    cases h
    simp
  | cons a l ih =>
    rw [List.mapM_cons] at h
    cases hfa : f a with
    | error e => simp [hfa, bind, Except.bind] at h
    | ok b =>
      cases hl : l.mapM f with
      | error e => simp [hfa, hl, bind, Except.bind] at h
      | ok bs =>
        simp only [hfa, hl, bind, Except.bind, pure, Except.pure, Except.ok.injEq] at h
        subst h
        obtain ⟨ih1, ih2⟩ := ih hl
        refine ⟨?_, ?_⟩
        · intro x hx
          rcases List.mem_cons.1 hx with rfl | hx
          · exact ⟨b, List.mem_cons_self, hfa⟩
          · obtain ⟨y, hy, hxy⟩ := ih1 x hx
            exact ⟨y, List.mem_cons_of_mem _ hy, hxy⟩
        · intro y hy
          rcases List.mem_cons.1 hy with rfl | hy
          · exact ⟨a, List.mem_cons_self, hfa⟩
          · obtain ⟨x, hx, hxy⟩ := ih2 y hy
            exact ⟨x, List.mem_cons_of_mem _ hx, hxy⟩

namespace Script

open Lua (Machine Value)

namespace Engine

variable {e : Engine}

/-! ### The listing -/

theorem variableList_eq_ok {vars : List Variable} (h : e.variableList = .ok vars) :
    ∃ ls, e.localList = .ok ls ∧ vars = ls ++ e.globalList (ls.map (·.name)) := by
  obtain ⟨ls, hls, hvars⟩ := except_bind_eq_ok h
  exact ⟨ls, hls, (Except.ok.inj hvars).symm⟩

/-- The listed locals are those of the innermost program frame, each shown with its value. -/
theorem localList_eq_ok {ls : List Variable} (h : e.localList = .ok ls) :
    (∀ x ∈ ls, ∃ pos f pending n k v, e.topFrame? = some (pos, f, pending) ∧
      (n, k, some v) ∈ e.machine.locals f pending ∧ x = shownVariable e.machine n.toUTF8 v) ∧
    ∀ pos f pending, e.topFrame? = some (pos, f, pending) →
      ∀ l ∈ e.machine.locals f pending, l.1.toUTF8 ∈ ls.map (·.name) := by
  unfold localList at h
  cases ht : e.topFrame? with
  | none =>
    rw [ht] at h
    cases h
    simp
  | some p =>
    obtain ⟨pos, f, pending⟩ := p
    rw [ht] at h
    obtain ⟨hall, hlisted⟩ := mem_of_mapM_eq_ok h
    refine ⟨fun x hx ↦ ?_, fun pos' f' pending' he l hl ↦ ?_⟩
    · obtain ⟨⟨n, k, v⟩, hl, hx⟩ := hlisted x hx
      cases v with
      | none => cases hx
      | some v => exact ⟨pos, f, pending, n, k, v, rfl, hl, (Except.ok.inj hx).symm⟩
    · cases he
      obtain ⟨x, hx, hlx⟩ := hall l hl
      obtain ⟨n, k, v⟩ := l
      cases v with
      | none => cases hlx
      | some v =>
        cases hlx
        exact List.mem_map_of_mem hx

/-- A listed global is a string entry of the globals, shown with its value, under a name
not in `seen`. -/
theorem mem_globalList {seen : List ByteArray} {x : Variable} (hx : x ∈ e.globalList seen) :
    ∃ v, (Value.str x.name, v) ∈ (e.machine.table e.machine.globals).entries ∧
      x = shownVariable e.machine x.name v ∧ x.name ∉ seen := by
  simp only [globalList, List.mem_map, List.mem_mergeSort, List.mem_filterMap] at hx
  obtain ⟨⟨s, v⟩, ⟨⟨k, w⟩, hkw, hsome⟩, rfl⟩ := hx
  cases k with
  | str s' =>
    dsimp only at hsome
    split at hsome
    · cases hsome
    · next hnot =>
      cases hsome
      refine ⟨v, hkw, rfl, fun hs ↦ hnot (Or.inr (List.contains_iff_mem.2 hs))⟩
  | _ => cases hsome

/-! ### Reading a name -/

/-- The innermost program frame is a script frame of the main coroutine. -/
theorem topFrame?_eq_some {pos : Nat} {f : Lua.LuaFrame} {pending : Array Value}
    (h : e.topFrame? = some (pos, f, pending)) :
    (e.machine.framesOf 0)[pos]? = some (.lua f) := by
  obtain ⟨p, -, hp⟩ := List.exists_of_findSome?_eq_some h
  obtain ⟨⟨prog, g⟩, hpg, heq⟩ := Option.map_eq_some_iff.1 hp
  cases heq
  unfold programFrame? at hpg
  split at hpg
  · next g' hg' =>
    obtain ⟨_, -, heq⟩ := Option.map_eq_some_iff.1 hpg
    cases heq
    exact hg'
  · cases hpg

/-- The value of the upvalue named `name` of the function of the innermost program frame. -/
def frameUpvalue? (e : Engine) (name : String) : Option Value :=
  e.topFrame?.bind fun (_, f, _) ↦
    (f.closure.proto.upvalueNames.findIdx? (· = name)).map fun i ↦
      e.machine.heap.cell (f.closure.upvalues.getD i 0)

/-- The environment `frameEnv` makes reads the names it lacks through `frameIndex` at the
frame `pos`, whose call in progress is `pending`: that built-in function is the `__index` of
its metatable. -/
def IndexesFrame (e : Engine) (pos : Nat) (pending : Array Value) : Prop :=
  ∃ e' env mt g, e.frameEnv = (e', some env) ∧ (e'.machine.table env).metatable = some mt ∧
    (e'.machine.table mt).rawGetStr "__index".toUTF8 = .fn g ∧
    e'.machine.heap.fn g = .native (.frameIndex 0 pos pending) e.machine.globals

/-- `name` reads as `w` in the paused program, both ways a client reads a name: by
`readVariable`, and, when there is a program frame, through the `__index` of the environment
an evaluation in it runs in. -/
def ReadsAs (e : Engine) (name : ByteArray) (w : Value) : Prop :=
  e.readVariable name = .ok (e.machine.toDatum w) ∧
  ∀ pos f pending, e.topFrame? = some (pos, f, pending) →
    e.IndexesFrame pos pending ∧ ∀ env : Value,
      (Lua.frameIndex 0 pos pending #[env, .str name]).run e.machine = .ok (.ret #[w], e.machine)

theorem getD_push_push_left {α : Type} (xs : Array α) (a b d : α) :
    ((xs.push a).push b).getD xs.size d = a := by
  rw [Array.getD_eq_getD_getElem?, Array.getElem?_push, if_neg (by simp), Array.getElem?_push_size,
    Option.getD_some]

theorem getD_push_push_right {α : Type} (xs : Array α) (a b d : α) :
    ((xs.push a).push b).getD (xs.size + 1) d = b := by
  rw [Array.getD_eq_getD_getElem?, ← Array.size_push a, Array.getElem?_push_size, Option.getD_some]

/-- The environment of an evaluation in the innermost program frame reads through
`frameIndex` at that frame: its metatable is the table made before it, whose `__index` is the
function made first. -/
theorem frameEnv_indexesFrame {pos : Nat} {f : Lua.LuaFrame} {pending : Array Value}
    (ht : e.topFrame? = some (pos, f, pending)) : e.IndexesFrame pos pending := by
  have hfe : e.frameEnv = (e.frameEnv.1, some (e.machine.heap.tables.size + 1)) := by
    simp only [frameEnv, ht, Machine.newTable, Lua.Heap.newTable, Machine.newNative, Lua.Heap.newFn,
      Array.size_push]
  refine ⟨e.frameEnv.1, _, e.machine.heap.tables.size, e.machine.heap.fns.size, hfe, ?_, ?_, ?_⟩
  · simp only [frameEnv, ht, Machine.newTable, Lua.Heap.newTable, Machine.table, Lua.Heap.table,
      Machine.newNative, Lua.Heap.newFn, getD_push_push_right]
  · simp only [frameEnv, ht, Machine.newTable, Lua.Heap.newTable, Machine.table, Lua.Heap.table,
      Machine.newNative, Lua.Heap.newFn, getD_push_push_left]
    -- the metatable holds `__index` and then `__newindex`, two different keys
    rw [Lua.Table.rawGetStr_rawSetStr _ _ _ rfl, if_neg (by decide),
      Lua.Table.rawGetStr_rawSetStr _ _ _ rfl, if_pos rfl]
  · simp only [frameEnv, ht, Machine.newTable, Lua.Heap.newTable, Machine.newNative, Lua.Heap.newFn,
      Lua.Heap.fn, getD_push_push_left]

/-- The text of a string value holding the bytes of a text is that text. -/
theorem text_toUTF8 (n : String) : Lua.Heap.text (.str n.toUTF8) = n := by
  simp only [Lua.Heap.text, String.fromUTF8?, String.toUTF8_eq_toByteArray, dif_pos n.isValidUTF8]
  rfl

/-- `frameIndex` reads a string key as the frame's binding of its text, else as the global. -/
theorem frameIndex_run {m : Machine} {pos : Nat} {f : Lua.LuaFrame}
    (hf : (m.framesOf 0)[pos]? = some (.lua f)) (pending : Array Value) (env : Value)
    (s : ByteArray) :
    (Lua.frameIndex 0 pos pending #[env, .str s]).run m =
      .ok (.ret #[(m.lookup f pending (Lua.Heap.text (.str s))).getD (m.rawGet m.globals (.str s))],
        m) := by
  have hkey : Lua.NativeM.arg #[env, .str s] 2 = .str s := rfl
  simp only [Lua.frameIndex, StateT.run_bind, StateT.run_get, pure_bind, hkey, Lua.NativeM.ret1, hf]
  cases m.lookup f pending (Lua.Heap.text (.str s)) <;> rfl

/-- A name the innermost program frame binds, by a local or an upvalue, reads as that
binding. -/
theorem readsAs_of_bound {n : String} {w : Value}
    (h : (e.topFrame?.bind fun (_, f, pending) ↦ e.machine.lookup f pending n) = some w) :
    ReadsAs e n.toUTF8 w := by
  refine ⟨?_, fun pos f pending ht ↦ ⟨frameEnv_indexesFrame ht, fun env ↦ ?_⟩⟩
  · simp only [readVariable, Text.decodeLossy_encode, h]
  · rw [ht, Option.bind_some] at h
    dsimp only at h
    rw [frameIndex_run (topFrame?_eq_some ht), text_toUTF8, h]
    rfl

/-- A name the frame does not bind reads as its global, when that is not `nil`. -/
theorem readsAs_of_unbound {n : String}
    (h : (e.topFrame?.bind fun (_, f, pending) ↦ e.machine.lookup f pending n) = none)
    (hw : (e.machine.table e.machine.globals).rawGetStr n.toUTF8 ≠ .nil) :
    ReadsAs e n.toUTF8 ((e.machine.table e.machine.globals).rawGetStr n.toUTF8) := by
  refine ⟨?_, fun pos f pending ht ↦ ⟨frameEnv_indexesFrame ht, fun env ↦ ?_⟩⟩
  · dsimp only [readVariable]
    rw [Text.decodeLossy_encode, h]
    dsimp only
    -- the global is read only when it is not `nil`
    split
    · next hnil => exact absurd hnil hw
    · rfl
  · rw [ht, Option.bind_some] at h
    dsimp only at h
    rw [frameIndex_run (topFrame?_eq_some ht), text_toUTF8, h]
    rfl

/-! ### The listing read back -/

/-- **What the listing shows is what reading gives, but for globals an upvalue hides.** Every
variable the engine lists is shown with a value `v`. A listed local reads as `v`, by
`readVariable` and by the evaluation environment alike. A listed global is the globals' entry
`v` under its name; but it reads as the upvalue of that name of the paused function, when the
function has one, and as `v` only otherwise: the listing hides the globals a local hides, not
those an upvalue hides. -/
theorem listed_variables_read_back (e : Engine) (vars : List Variable)
    (h : e.variableList = .ok vars) :
    ∃ ls gs, vars = ls ++ gs ∧
      (∀ x ∈ ls, ∃ v, x = shownVariable e.machine x.name v ∧ ReadsAs e x.name v) ∧
      (∀ x ∈ gs, ∃ v, x = shownVariable e.machine x.name v ∧
        (e.machine.table e.machine.globals).rawGetStr x.name = v ∧
        ∀ n : String, x.name = n.toUTF8 → ReadsAs e x.name ((e.frameUpvalue? n).getD v)) := by
  obtain ⟨ls, hls, rfl⟩ := variableList_eq_ok h
  obtain ⟨hlocal, hseen⟩ := localList_eq_ok hls
  refine ⟨ls, _, rfl, fun x hx ↦ ?_, fun x hx ↦ ?_⟩
  · obtain ⟨pos, f, pending, n, k, v, ht, hl, rfl⟩ := hlocal x hx
    refine ⟨v, rfl, readsAs_of_bound ?_⟩
    rw [ht, Option.bind_some]
    exact Machine.lookup_of_mem_locals hl
  · obtain ⟨v, hent, hx', hnot⟩ := mem_globalList hx
    obtain ⟨hget, hne⟩ := Lua.Table.rawGetStr_of_mem_entries hent
    refine ⟨v, hx', hget, fun n hn ↦ ?_⟩
    rw [hn] at hget hnot ⊢
    -- no listed local has the name, so the frame can bind it by an upvalue only
    have hbind : (e.topFrame?.bind fun (_, f, pending) ↦ e.machine.lookup f pending n) =
        e.frameUpvalue? n := by
      unfold frameUpvalue?
      cases ht : e.topFrame? with
      | none => rfl
      | some p =>
        obtain ⟨pos, f, pending⟩ := p
        exact Machine.lookup_of_not_mem_locals fun l hl hname ↦
          hnot (hname ▸ hseen pos f pending ht l hl)
    cases hu : e.frameUpvalue? n with
    | none =>
      rw [Option.getD_none, ← hget]
      exact readsAs_of_unbound (hbind.trans hu) (hget ▸ hne)
    | some u => exact readsAs_of_bound (hbind.trans hu)

/-- The globals of the paused program, in the order they were written. -/
theorem printGlobals_entries :
    printGlobals.entries = [(.str "print".toUTF8, .fn 0), (.str hookName.toUTF8, .fn 1),
      (.str "g".toUTF8, .str "b".toUTF8)] := by
  have hk : (Lua.Key.str "print".toUTF8 == Lua.Key.str hookName.toUTF8) = false ∧
      (Lua.Key.str "print".toUTF8 == Lua.Key.str "g".toUTF8) = false ∧
      (Lua.Key.str hookName.toUTF8 == Lua.Key.str "g".toUTF8) = false := by decide
  have hp₀ : Lua.Table.empty.position = ∅ := rfl
  have ho₀ : Lua.Table.empty.order = #[] := rfl
  -- the three globals go in one after the other, each under a key the table lacks
  obtain ⟨ho₁, hp₁, -, ha₁⟩ := Lua.Table.rawSetStr_of_new Lua.Table.empty "print".toUTF8 (v := .fn 0) rfl
    (by rw [hp₀]; exact Std.HashMap.contains_empty)
  have hn₂ : (Lua.Table.empty.rawSetStr "print".toUTF8 (.fn 0)).position.contains
      (.str hookName.toUTF8) = false := by
    rw [hp₁, Std.HashMap.contains_insert, hk.1, hp₀, Std.HashMap.contains_empty]
    rfl
  obtain ⟨ho₂, hp₂, -, ha₂⟩ := Lua.Table.rawSetStr_of_new _ hookName.toUTF8 (v := .fn 1) rfl hn₂
  have hn₃ : ((Lua.Table.empty.rawSetStr "print".toUTF8 (.fn 0)).rawSetStr hookName.toUTF8
      (.fn 1)).position.contains (.str "g".toUTF8) = false := by
    rw [hp₂, Std.HashMap.contains_insert, hk.2.2, hp₁, Std.HashMap.contains_insert, hk.2.1, hp₀,
      Std.HashMap.contains_empty]
    rfl
  have he₁ := Lua.Table.entries_rawSetStr_of_new Lua.Table.empty "print".toUTF8 (v := .fn 0) rfl
    (by rw [hp₀]; exact Std.HashMap.contains_empty) rfl (by simp [ho₀])
  have he₂ := Lua.Table.entries_rawSetStr_of_new _ _ (v := .fn 1) rfl hn₂ (by rw [ha₁]; rfl)
    (by rw [ho₁, ho₀]; simp [Lua.Key.isStr])
  have he₃ := Lua.Table.entries_rawSetStr_of_new _ _ (v := .str "b".toUTF8) rfl hn₃
    (by rw [ha₂, ha₁]; rfl) (by rw [ho₂, ho₁, ho₀]; simp [Lua.Key.isStr])
  rw [printGlobals, he₃, he₂, he₁]
  rfl

/-- Paused on line 3, the program lists its local `s` and then the global `g`, the built-ins
left out. -/
theorem variableList_pausedAtPrint :
    pausedAtPrint.variableList =
      .ok [⟨"s".toUTF8, "string", "a".toUTF8⟩, ⟨"g".toUTF8, "string", "b".toUTF8⟩] := by
  have hg : (pausedAtPrint.machine.table pausedAtPrint.machine.globals).entries =
      printGlobals.entries := rfl
  have h : pausedAtPrint.variableList.toOption =
      some [⟨"s".toUTF8, "string", "a".toUTF8⟩, ⟨"g".toUTF8, "string", "b".toUTF8⟩] := by
    simp only [variableList, globalList, hg, printGlobals_entries]
    decide +kernel
  cases hv : pausedAtPrint.variableList with
  | error f => rw [hv] at h; cases h
  | ok vs => rw [hv] at h; cases h; rfl

/-- Paused on line 3, the program lists `s` and `g`, and the guarantee holds of the listing. -/
theorem variables_of_paused_print_program :
    let vars : List Variable :=
      [⟨"s".toUTF8, "string", "a".toUTF8⟩, ⟨"g".toUTF8, "string", "b".toUTF8⟩]
    pausedAtPrint.variableList = .ok vars ∧
    ∃ ls gs, vars = ls ++ gs ∧
      (∀ x ∈ ls, ∃ v, x = shownVariable pausedAtPrint.machine x.name v ∧
        ReadsAs pausedAtPrint x.name v) ∧
      (∀ x ∈ gs, ∃ v, x = shownVariable pausedAtPrint.machine x.name v ∧
        (pausedAtPrint.machine.table pausedAtPrint.machine.globals).rawGetStr x.name = v ∧
        ∀ n : String, x.name = n.toUTF8 →
          ReadsAs pausedAtPrint x.name ((pausedAtPrint.frameUpvalue? n).getD v)) :=
  ⟨variableList_pausedAtPrint,
    listed_variables_read_back pausedAtPrint _ variableList_pausedAtPrint⟩

end Engine

end Script

end LuaDebugger
