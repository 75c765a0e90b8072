import Mathlib.Data.List.Nodup
import Mathlib.Data.List.Perm.Subperm
import LuaDebugger.Lua.Export
/-!
# Script values as plain data

What a client sees of a value of the script is `Machine.toDatum`, the value converted to
plain data. Its rules are the relation `Converts`, which keeps the tables being converted
around a value as its only memory:

* `nil` is `null`, a boolean and a string are themselves, a number follows the number rule
  `numberDatum`, and a function, a coroutine or a bare object is its text;
* a table already on the path is cut to `null`;
* any other table converts in full, inside the path with it added: to the list of its values
  at `1 … n` when its keys stand for those indices (`IsSequence`), else to the map from the
  texts of its keys to their values.

So a table met again inside itself is cut, while a table shared by two branches is converted
in full in both. Main statement: `toDatum_is_the_conversion`, the conversion relates each
value to its `toDatum` and to nothing else. The conversion runs on fuel, and the point is
that the fuel never runs out (`Fits`): the tables on a path are distinct, and a table with
entries is one of the heap's, so a path holds at most as many tables as the heap has.
-/

namespace LuaDebugger.Lua.Machine

/-! ### Tables that convert to lists -/

/-- The keys of a table's entries stand for the indices `1 … n`: each is an index at most
`n`, one is `n` itself, and there are `n` of them. -/
def IsSequence (es : List (Value × Value)) (n : Nat) : Prop :=
  es.length = n ∧ (∀ e ∈ es, ∃ i, keyIndex? e.1 = some i ∧ i ≤ n) ∧
    ∃ e ∈ es, keyIndex? e.1 = some n

/-- The running maximum that `sequenceLength?` takes bounds its start and every index it
passes, and it is its start or one of them. -/
theorem foldl_maxIndex (l : List (Option Nat)) (a : Nat) :
    a ≤ l.foldl (fun acc i ↦ max acc (i.getD 0)) a ∧
      (∀ i ∈ l, i.getD 0 ≤ l.foldl (fun acc i ↦ max acc (i.getD 0)) a) ∧
      (l.foldl (fun acc i ↦ max acc (i.getD 0)) a = a ∨
        ∃ i ∈ l, l.foldl (fun acc i ↦ max acc (i.getD 0)) a = i.getD 0) := by
  induction l generalizing a with
  | nil => simp
  | cons i l ih =>
    obtain ⟨hle, hall, hwhich⟩ := ih (max a (i.getD 0))
    simp only [List.foldl_cons, List.mem_cons, forall_eq_or_imp, exists_eq_or_imp]
    refine ⟨by omega, ⟨by omega, hall⟩, ?_⟩
    rcases hwhich with h | h
    · by_cases hai : a ≤ i.getD 0
      · exact .inr (.inl (h.trans (Nat.max_eq_right hai)))
      · exact .inl (h.trans (Nat.max_eq_left (by omega)))
    · exact .inr (.inr h)

theorem keyIndex?_mem_map {es : List (Value × Value)} {e : Value × Value} (he : e ∈ es) :
    keyIndex? e.1 ∈ es.map (keyIndex? ·.1) :=
  List.mem_map_of_mem he

/-- The list test of a table's conversion is `IsSequence`, with the list's length. -/
theorem sequenceLength?_eq_some_iff {es : List (Value × Value)} {n : Nat} :
    sequenceLength? es = some n ↔ IsSequence es n := by
  obtain ⟨-, hbound, hwhich⟩ := foldl_maxIndex (es.map (keyIndex? ·.1)) 0
  simp only [sequenceLength?]
  set top := (es.map (keyIndex? ·.1)).foldl (fun acc i ↦ max acc (i.getD 0)) 0
  constructor
  · intro h
    split at h
    next hcond =>
      obtain ⟨hsome, hpos, hlen⟩ := hcond
      obtain rfl : top = n := Option.some.inj h
      refine ⟨hlen, fun e he ↦ ?_, ?_⟩
      · have hmem := keyIndex?_mem_map he
        obtain ⟨i, hi⟩ := Option.isSome_iff_exists.1 (List.all_eq_true.1 hsome _ hmem)
        have := hbound _ hmem
        rw [hi] at this
        exact ⟨i, hi, this⟩
      · rcases hwhich with h0 | ⟨i, hi, htop⟩
        · omega
        · obtain ⟨e, he, rfl⟩ := List.mem_map.1 hi
          obtain ⟨j, hj⟩ := Option.isSome_iff_exists.1 (List.all_eq_true.1 hsome _ hi)
          rw [hj] at htop
          exact ⟨e, he, hj.trans (congrArg some htop.symm)⟩
    next => cases h
  · rintro ⟨hlen, hall, e, he, hn⟩
    have hsome : (es.map (keyIndex? ·.1)).all Option.isSome := by
      refine List.all_eq_true.2 fun i hi ↦ ?_
      obtain ⟨e, he, rfl⟩ := List.mem_map.1 hi
      obtain ⟨j, hj, -⟩ := hall e he
      simp [hj]
    -- the largest index is `n`: no index passes it, and one reaches it
    have hle : top ≤ n := by
      rcases hwhich with h0 | ⟨i, hi, htop⟩
      · omega
      · obtain ⟨e, he, rfl⟩ := List.mem_map.1 hi
        obtain ⟨j, hj, hjn⟩ := hall e he
        rw [htop, hj]
        exact hjn
    have hge : n ≤ top := by
      have := hbound _ (keyIndex?_mem_map he)
      rwa [hn] at this
    have hpos : 0 < n := hlen ▸ List.length_pos_of_mem he
    rw [if_pos ⟨hsome, by omega, by omega⟩, show top = n by omega]

theorem keyIndex?_pos {k : Value} {i : Nat} (h : keyIndex? k = some i) : 0 < i := by
  cases k with
  | number x =>
    simp only [keyIndex?, positiveIndex?] at h
    split at h
    · split at h
      · cases h
        omega
      · cases h
    · cases h
  | _ => cases h

/-- For keys that stand for distinct indices, as the keys of a table do, `IsSequence` says
that they stand for the indices `1 … n` each once. -/
theorem isSequence_iff_perm {es : List (Value × Value)} {n : Nat} (hn : 0 < n)
    (hd : (es.filterMap (keyIndex? ·.1)).Nodup) :
    IsSequence es n ↔
      (es.map (keyIndex? ·.1)).Perm ((List.range n).map fun i ↦ some (i + 1)) := by
  have hrange : ∀ j, j ∈ (List.range n).map (fun i ↦ some (i + 1)) ↔
      ∃ i, j = some i ∧ 0 < i ∧ i ≤ n := by
    intro j
    simp only [List.mem_map, List.mem_range]
    constructor
    · rintro ⟨i, hi, rfl⟩
      exact ⟨i + 1, rfl, by omega, by omega⟩
    · rintro ⟨i, rfl, hpos, hle⟩
      exact ⟨i - 1, by omega, by congr 1; omega⟩
  constructor
  · rintro ⟨hlen, hall, -⟩
    -- every key is an index, so the indices are the distinct ones of `hd`
    have hsome : ∀ j ∈ es.map (keyIndex? ·.1), j.isSome := by
      intro j hj
      obtain ⟨e, he, rfl⟩ := List.mem_map.1 hj
      obtain ⟨i, hi, -⟩ := hall e he
      simp [hi]
    have hnodup : (es.map (keyIndex? ·.1)).Nodup := by
      have := @List.map_filterMap_some_eq_filter_map_isSome _ _ (keyIndex? ·.1) es
      rw [List.filter_eq_self.2 hsome] at this
      exact this ▸ hd.map fun _ _ ↦ Option.some.inj
    refine (hnodup.subperm fun j hj ↦ ?_).perm_of_length_le (by simp [hlen])
    obtain ⟨e, he, rfl⟩ := List.mem_map.1 hj
    obtain ⟨i, hi, hle⟩ := hall e he
    exact (hrange _).2 ⟨i, hi, keyIndex?_pos hi, hle⟩
  · intro hperm
    refine ⟨by simpa using hperm.length_eq, fun e he ↦ ?_, ?_⟩
    · obtain ⟨i, hi, -, hle⟩ :=
        (hrange _).1 (hperm.subset (keyIndex?_mem_map he))
      exact ⟨i, hi, hle⟩
    · have hlast := (hrange (some n)).2 ⟨n, rfl, hn, Nat.le_refl n⟩
      obtain ⟨e, he, hi⟩ := List.mem_map.1 (hperm.symm.subset hlast)
      exact ⟨e, he, hi⟩

theorem IsSequence.unique {es : List (Value × Value)} {n n' : Nat} (h : IsSequence es n)
    (h' : IsSequence es n') : n = n' := by
  have := (sequenceLength?_eq_some_iff.2 h).symm.trans (sequenceLength?_eq_some_iff.2 h')
  exact Option.some.inj this

/-! ### Maps: the last pair with a key wins -/

/-- `p` is the last of the pairs with its key. -/
def IsLastWithKey (pairs : List (List UInt8 × Datum)) (p : List UInt8 × Datum) : Prop :=
  ∃ l₁ l₂, pairs = l₁ ++ p :: l₂ ∧ ∀ q ∈ l₂, q.1 ≠ p.1

theorem isLastWithKey_cons {q p : List UInt8 × Datum} {qs : List (List UInt8 × Datum)} :
    IsLastWithKey (q :: qs) p ↔ (p = q ∧ ∀ r ∈ qs, r.1 ≠ p.1) ∨ IsLastWithKey qs p := by
  constructor
  · rintro ⟨l₁, l₂, h, hl₂⟩
    cases l₁ with
    | nil =>
      obtain ⟨rfl, rfl⟩ := List.cons.inj h
      exact .inl ⟨rfl, hl₂⟩
    | cons r l₁ =>
      obtain ⟨-, rfl⟩ := List.cons.inj h
      exact .inr ⟨l₁, l₂, rfl, hl₂⟩
  · rintro (⟨rfl, h⟩ | ⟨l₁, l₂, rfl, hl₂⟩)
    · exact ⟨[], qs, rfl, h⟩
    · exact ⟨q :: l₁, l₂, rfl, hl₂⟩

theorem IsLastWithKey.mem {pairs : List (List UInt8 × Datum)} {p : List UInt8 × Datum}
    (h : IsLastWithKey pairs p) : p ∈ pairs := by
  obtain ⟨l₁, l₂, rfl, -⟩ := h
  exact List.mem_append_right _ List.mem_cons_self

/-- The pass of `keyedEntries` keeps, of the pairs it started with, those whose key does not
come again, and of the pairs it goes through, the last with each key. -/
theorem mem_foldl_lastWins_iff {pairs acc : List (List UInt8 × Datum)}
    {p : List UInt8 × Datum} :
    p ∈ pairs.foldl (fun acc p ↦ acc.filter (·.1 != p.1) ++ [p]) acc ↔
      (p ∈ acc ∧ ∀ q ∈ pairs, q.1 ≠ p.1) ∨ IsLastWithKey pairs p := by
  induction pairs generalizing acc with
  | nil => simp [IsLastWithKey]
  | cons q qs ih =>
    rw [List.foldl_cons, ih, isLastWithKey_cons]
    simp only [List.mem_append, List.mem_filter, bne_iff_ne, ne_eq, List.mem_cons,
      List.not_mem_nil, or_false, forall_eq_or_imp]
    constructor
    · rintro (⟨⟨hp, hq⟩ | rfl, hrest⟩ | hlast)
      · exact .inl ⟨hp, Ne.symm hq, hrest⟩
      · exact .inr (.inl ⟨rfl, hrest⟩)
      · exact .inr (.inr hlast)
    · rintro (⟨hp, hq, hrest⟩ | ⟨rfl, hrest⟩ | hlast)
      · exact .inl ⟨.inl ⟨hp, Ne.symm hq⟩, hrest⟩
      · exact .inl ⟨.inr rfl, hrest⟩
      · exact .inr hlast

/-- **The entries of a map made by `keyedEntries`** are, for each key, the last pair with that
key, its bytes shown as text. -/
theorem mem_keyedEntries_iff {pairs : List (List UInt8 × Datum)} {k : String} {d : Datum} :
    (k, d) ∈ keyedEntries pairs ↔
      ∃ b, Text.decodeLossy ⟨b.toArray⟩ = k ∧ IsLastWithKey pairs (b, d) := by
  simp only [keyedEntries, List.mem_map, List.mem_mergeSort, mem_foldl_lastWins_iff,
    List.not_mem_nil, false_and, false_or, Prod.mk.injEq]
  constructor
  · rintro ⟨p, hp, hk, rfl⟩
    exact ⟨p.1, hk, hp⟩
  · rintro ⟨b, hk, hp⟩
    exact ⟨(b, d), hp, hk, rfl⟩

/-! ### The conversion -/

/-- How a value converts to plain data while the tables of `path` are being converted around
it: a table on the path is cut to `null`, any other table converts in full, its values inside
the path with it added. -/
inductive Converts (m : Machine) : List Nat → Value → Datum → Prop
  | nil (path : List Nat) : Converts m path .nil .null
  | bool (path : List Nat) (b : Bool) : Converts m path (.bool b) (.bool b)
  | number (path : List Nat) (x : Float) : Converts m path (.number x) (numberDatum x)
  | str (path : List Nat) (s : ByteArray) : Converts m path (.str s) (Datum.ofBytes s)
  | fn (path : List Nat) (i : Nat) : Converts m path (.fn i) (.text (Heap.text (.fn i)))
  | thread (path : List Nat) (i : Nat) :
      Converts m path (.thread i) (.text (Heap.text (.thread i)))
  | userdata (path : List Nat) (i : Nat) :
      Converts m path (.userdata i) (.text (Heap.text (.userdata i)))
  | cut {path : List Nat} {t : Nat} (h : t ∈ path) : Converts m path (.table t) .null
  | list {path : List Nat} {t n : Nat} (item : Nat → Datum) (h : t ∉ path)
      (hseq : IsSequence (m.table t).entries n)
      (hitem : ∀ i < n, Converts m (t :: path) ((m.table t).rawGetIndex (i + 1)) (item i)) :
      Converts m path (.table t) (.list ((List.range n).map item))
  | map {path : List Nat} {t : Nat} (value : Value → Datum) (h : t ∉ path)
      (hseq : ∀ n, ¬IsSequence (m.table t).entries n)
      (hvalue : ∀ e ∈ (m.table t).entries, Converts m (t :: path) e.2 (value e.2)) :
      Converts m path (.table t) (.map (keyedEntries ((m.table t).entries.map fun e ↦
        ((Heap.textBytes e.1).toList, value e.2))))

variable {m : Machine}

/-- A value converts to one datum at most. -/
theorem Converts.unique {path : List Nat} {v : Value} {d d' : Datum}
    (h : Converts m path v d) (h' : Converts m path v d') : d = d' := by
  induction h generalizing d' with
  | nil | bool | number | str | fn | thread | userdata => cases h'; rfl
  | cut ht =>
    cases h' with
    | cut => rfl
    | list _ ht' => exact absurd ht ht'
    | map _ ht' => exact absurd ht ht'
  | list item ht hseq _ ih =>
    cases h' with
    | cut ht' => exact absurd ht' ht
    | list item' _ hseq' hitem' =>
      obtain rfl := hseq.unique hseq'
      refine congrArg Datum.list (List.map_congr_left fun i hi ↦ ?_)
      have hi := List.mem_range.1 hi
      exact ih i hi (hitem' i hi)
    | map _ _ hseq' => exact absurd hseq (hseq' _)
  | map value ht hseq _ ih =>
    cases h' with
    | cut ht' => exact absurd ht' ht
    | list _ _ hseq' => exact absurd hseq' (hseq _)
    | map value' _ _ hvalue' =>
      have hsame : ∀ e ∈ (m.table _).entries, value e.2 = value' e.2 :=
        fun e he ↦ ih e he (hvalue' e he)
      simp only [List.map_congr_left fun e he ↦ congrArg (((Heap.textBytes e.1).toList, ·))
        (hsame e he)]

/-! ### The fuel suffices -/

/-- A table index past the heap's tables reads as a table without entries. -/
theorem entries_table_of_le {t : Nat} (h : m.tableCount ≤ t) : (m.table t).entries = [] := by
  have hnone : m.table t = .empty := by
    simp only [Machine.table, Heap.table, Array.getD, tableCount] at h ⊢
    simp [show ¬t < m.heap.tables.size by omega]
  rw [hnone]
  rfl

theorem lt_tableCount_of_entries {t : Nat} (h : (m.table t).entries ≠ []) :
    t < m.tableCount := by
  by_contra hge
  exact h (entries_table_of_le (Nat.le_of_not_lt hge))

/-- The fuel left at a conversion below `path` suffices: the tables on the path are distinct
tables of the heap, and the heap has fewer tables than the fuel and the path together. -/
structure Fits (m : Machine) (fuel : Nat) (path : List Nat) : Prop where
  nodup : path.Nodup
  lt : ∀ t ∈ path, t < m.tableCount
  enough : m.tableCount < fuel + path.length

theorem fits_start (m : Machine) : Fits m (m.tableCount + 2) [] :=
  ⟨List.nodup_nil, by simp, by simp⟩

theorem Fits.length_le {fuel : Nat} {path : List Nat} (h : Fits m fuel path) :
    path.length ≤ m.tableCount := by
  have := (h.nodup.subperm fun t ht ↦ List.mem_range.2 (h.lt t ht)).length_le
  simpa using this

theorem Fits.pos {fuel : Nat} {path : List Nat} (h : Fits m fuel path) : 0 < fuel := by
  have := h.length_le
  have := h.enough
  omega

/-- Going down into a table of the heap that is not on the path takes one unit of fuel and
keeps the fuel sufficient. -/
theorem Fits.push {fuel t : Nat} {path : List Nat} (h : Fits m (fuel + 1) path) (ht : t ∉ path)
    (hlt : t < m.tableCount) : Fits m fuel (t :: path) where
  nodup := List.nodup_cons.2 ⟨ht, h.nodup⟩
  lt := List.forall_mem_cons.2 ⟨hlt, h.lt⟩
  enough := by
    have := h.enough
    simp only [List.length_cons]
    omega

theorem toDatumAt_table_of_mem {fuel t : Nat} {path : List Nat} (h : t ∈ path) :
    m.toDatumAt (fuel + 1) path (.table t) = .null := by
  simp [toDatumAt, h]

theorem toDatumAt_table_of_sequence {fuel t n : Nat} {path : List Nat} (h : t ∉ path)
    (hs : sequenceLength? (m.table t).entries = some n) :
    m.toDatumAt (fuel + 1) path (.table t) = .list ((List.range n).map fun i ↦
      m.toDatumAt fuel (t :: path) ((m.table t).rawGetIndex (i + 1))) := by
  simp [toDatumAt, h, visitEntries, hs]

theorem toDatumAt_table_of_not_sequence {fuel t : Nat} {path : List Nat} (h : t ∉ path)
    (hs : sequenceLength? (m.table t).entries = none) :
    m.toDatumAt (fuel + 1) path (.table t) = .map (keyedEntries ((m.table t).entries.map
      fun e ↦ ((Heap.textBytes e.1).toList, m.toDatumAt fuel (t :: path) e.2))) := by
  simp [toDatumAt, h, visitEntries, hs]

/-- With sufficient fuel, the bounded conversion follows the rules. -/
theorem converts_toDatumAt {fuel : Nat} {path : List Nat} (h : Fits m fuel path) (v : Value) :
    Converts m path v (m.toDatumAt fuel path v) := by
  -- on the fuel: each table not on the path passes sufficient fuel to its values
  induction fuel generalizing path v with
  | zero => exact absurd h.pos (Nat.lt_irrefl 0)
  | succ fuel ih =>
    cases v with
    | nil => exact .nil path
    | bool b => exact .bool path b
    | number x => exact .number path x
    | str s => exact .str path s
    | fn i => exact .fn path i
    | thread i => exact .thread path i
    | userdata i => exact .userdata path i
    | table t =>
      by_cases ht : t ∈ path
      · rw [toDatumAt_table_of_mem ht]
        exact .cut ht
      have hdown : (m.table t).entries ≠ [] → Fits m fuel (t :: path) :=
        fun hne ↦ h.push ht (lt_tableCount_of_entries hne)
      cases hs : sequenceLength? (m.table t).entries with
      | some n =>
        have hseq := sequenceLength?_eq_some_iff.1 hs
        obtain ⟨e, he, -⟩ := hseq.2.2
        rw [toDatumAt_table_of_sequence ht hs]
        exact .list _ ht hseq fun i _ ↦ ih (hdown (List.ne_nil_of_mem he)) _
      | none =>
        rw [toDatumAt_table_of_not_sequence ht hs]
        refine .map _ ht (fun n hn ↦ ?_) fun e he ↦ ih (hdown (List.ne_nil_of_mem he)) _
        rw [sequenceLength?_eq_some_iff.2 hn] at hs
        cases hs

theorem converts_toDatum (m : Machine) (v : Value) : Converts m [] v (m.toDatum v) :=
  converts_toDatumAt (fits_start m) v

/-- **The conversion of a value is its `toDatum`.** Converting a value from an empty path
relates it to `toDatum` and to nothing else: the bounded conversion never runs out of fuel,
however the tables refer to each other. -/
theorem toDatum_is_the_conversion (m : Machine) (v : Value) (d : Datum) :
    Converts m [] v d ↔ m.toDatum v = d :=
  ⟨(converts_toDatum m v).unique, fun h ↦ h ▸ converts_toDatum m v⟩

end LuaDebugger.Lua.Machine
