import LuaDebugger.Lua.Native
import LuaDebugger.Lua.Meta
import LuaDebugger.Sorting.Quicksort
/-!
# The table library

Functions on the array part of tables: `getn` and `maxn` (the last index that holds a
value), `concat`, `insert`, `remove` and `sort`.

* `insert(t, v)` puts `v` after the last value of the array part; `insert(t, i, v)` shifts
  the values from `i` up by one, or writes `i` directly when it lies beyond the array part;
* `remove(t, i)` takes a value out of the array part and closes the gap; without `i` it
  takes the last slot of the array part;
* `sort` sorts the array part in place by pattern-defeating quicksort, by the comparator
  or else by `<`; a comparator sees the items as they stand.
-/

namespace LuaDebugger.Lua

namespace Tables

open NativeM

/-- `table.getn(t)` and `table.maxn(t)`. -/
def getn (args : Array Value) : NativeM Outcome := do
  let t ← checkTable args 1
  ret1 (.number (Float.ofNat ((← get).table t).border))

/-- `table.concat(t, sep, i, j)`. -/
def concat (args : Array Value) : NativeM Outcome := do
  let t ← checkTable args 1
  let sep ← optString args 2 ByteArray.empty
  let len : Int := ((← get).table t).border
  let i ← optInt args 3 1
  let j ← optInt args 4 len
  if args.size = 3 ∧ (i > len ∨ i < 1) then ret1 (.str ByteArray.empty)
  else
    let i := max (min i len) 1
    let j := min j len
    if i > j then ret1 (.str ByteArray.empty)
    else
      let m ← get
      let mut out := ByteArray.empty
      for k in List.range (j - i + 1).toNat do
        let idx := i + (k : Int)
        let v := m.rawGet t (.number (floatOfInt idx))
        match v with
        | .str _ | .number _ =>
          out := out ++ Heap.textBytes v
          if idx ≠ j then out := out ++ sep
        | _ => raise ("invalid value (" ++ v.typeName ++ ") at index " ++ toString idx ++
            " in table for concat")
      ret1 (.str out)

/-- Puts a value after the last value of the array part, into the first hole of a run of
holes at its end. -/
def append (tb : Table) (v : Value) : Table :=
  if v.isNil then tb
  else
    match tb.array.back? with
    | some .nil =>
      let last := tb.border
      { tb with array := tb.array.set! last v }
    | _ => tb.pushValue v

/-- Inserts a value at index `i`, shifting the array part from there by one more slot at its
end. The array part gets its first room even when the index lies outside it. -/
def insertAt (tb : Table) (i : Int) (v : Value) : Table :=
  let tb := if tb.room = 0 then { tb with room := firstRoom } else tb
  if i > tb.array.size then tb.setIndexGrowing i v
  else if i ≤ 0 then tb.rawSet (.number (floatOfInt i)) v
  else
    let k := i.toNat - 1
    let old := tb.array
    let tb := tb.pushValue .nil
    { tb with array := (old.extract 0 k).push v ++ old.extract k old.size }

/-- `table.insert(t, [i,] v)`. -/
def insert (args : Array Value) : NativeM Outcome := do
  let t ← checkTable args 1
  if args.size ≤ 1 then raise "wrong number of arguments"
  else if args.size = 2 then
    modify fun m ↦ m.modifyTable t (append · (arg args 2))
    ret0
  else
    let i ← checkInt args 2
    let v ← checkAny args 3
    modify fun m ↦ m.modifyTable t (insertAt · i v)
    ret0

/-- Removes the value at `pos` of the array part and closes the gap: a position below one
removes the last value, and one past the end removes nothing and gives `nil`. -/
def removeAt (tb : Table) (pos : Int) : Table × Value :=
  let n := tb.array.size
  if n = 0 ∨ pos > n then (tb, .nil)
  else
    let k := if pos < 1 then n - 1 else pos.toNat - 1
    ({ tb with array := tb.array.extract 0 k ++ tb.array.extract (k + 1) tb.array.size },
      tb.array.getD k .nil)

/-- `table.remove(t, pos)`. -/
def remove (args : Array Value) : NativeM Outcome := do
  let t ← checkTable args 1
  let pos ← if args.size = 1 then pure (-1) else checkInt args 2
  let m ← get
  let (tb, v) := removeAt (m.table t) pos
  set (m.modifyTable t fun _ ↦ tb)
  ret1 v

/-- The operations of a sort of the items of a table: a comparison asks its question, and
its answer brings the items as they then stand. -/
def sortOps : Sorting.Ops (StateT (Array Value) (Asking SortQuestion SortAnswer)) where
  less i j := fun items ↦ .ask (items, i, j) fun answer ↦ .done answer
  swap i j := modify fun items ↦ items.swapIfInBounds i j

/-- Writes the items of a sort into the table's array part, where the two still share their
store: at the indices both have. -/
def shareItems (job : SortJob) (items : Array Value) : NativeM Unit :=
  modify fun m ↦ m.modifyTable job.table fun tb ↦
    if tb.moves = job.moves then
      { tb with array := tb.array.mapIdx fun k v ↦ items.getD k v }
    else tb

/-- The items of a sort after a call, where the table still shares their store: what the
table holds at the indices both have. -/
def sharedItems (job : SortJob) (items : Array Value) : NativeM (Array Value) := do
  let tb := (← get).table job.table
  if tb.moves = job.moves then pure (items.mapIdx fun k v ↦ tb.array.getD k v)
  else pure items

/-- Goes on sorting: answers the questions of the sort that `<` settles at once, and calls
the comparator, or the metamethod `__lt`, for the others. Before a call the table is given
the items as they stand, and after it the items take what the table then holds, for as long
as the two share their store; a table whose array part moved keeps what it had. -/
def sortFrom (job : SortJob) : SortRun → NativeM Outcome
  | .done (_, items) => do
    shareItems job items
    ret0
  | .ask (items, i, j) next => do
    let a := items.getD i .nil
    let b := items.getD j .nil
    match job.comparator with
    | .nil =>
      match (← get).lessThan a b with
      | .value v => sortFrom job (next (v.truthy, items))
      | .test h hargs negate => do
        shareItems job items
        pure (.call h hargs (.sort job negate items next))
      | .call h hargs => do
        shareItems job items
        pure (.call h hargs (.sort job false items next))
      | .fail msg => do
        shareItems job items
        raiseBytes msg
    | f => do
      shareItems job items
      pure (.call f #[a, b] (.sort job false items next))

/-- Goes on with a sort after a call answered `answer` to its question about `items`. -/
def resumeSort (job : SortJob) (items : Array Value) (next : SortAnswer → SortRun)
    (answer : Bool) : NativeM Outcome := do
  let items ← sharedItems job items
  sortFrom job (next (answer, items))

/-- `table.sort(t, comparator)`: a second argument, when given, must be a function. The sort
works through the array part as it stands when it begins. -/
def sort (args : Array Value) : NativeM Outcome := do
  let t ← checkTable args 1
  if args.size ≠ 1 then
    let _ ← checkFunction args 2
  let tb := (← get).table t
  let items := tb.array
  sortFrom { table := t, comparator := arg args 2, moves := tb.moves }
    ((Sorting.sort sortOps items.size).run items)

end Tables

end LuaDebugger.Lua
