import Std.Data.HashMap
import Std.Data.HashMap.Lemmas
import LuaDebugger.Lua.Value
/-!
# Tables

A table keeps an array part for the integer keys from 1 below `arrayLimit` and a hash part
for every other key, with the order in which keys first entered the hash part. Writing an
index past the end of the array part grows it up to that index, leaving holes; a nil value in
the array part is a hole, in the hash part it removes the entry but the key keeps its place in
the order.

* `rawGet`/`rawSet` read and write without metamethods; `setIndexGrowing` writes an integer
  index the same way.
* `border` is the length operator: the last index of the array part that holds a value.
* `next?` walks the array part and then the hash part in order of first entry, which is the
  order `pairs` visits.
* `entries` lists the entries array part first, then the hash part: string keys before the
  others.

The array part also has a room: the number of values it holds before it has to move to a
larger store. Appending to a full array part moves it, and `moves` counts the moves, so
that a sort working through the array part can tell whether the table still holds the
same store. A first write gives an array part that has none a room of 32; a full one grows
as a list of 16-byte slots does: to twice its room below 256 slots, else by a quarter and
192 slots at a time, and then to the slots the memory block of that size takes.
-/

namespace LuaDebugger.Lua

/-- The largest array index plus one. -/
def arrayLimit : Nat := 67108864

/-- A table. -/
structure Table where
  /-- Values at `1, 2, …`; `nil` marks a hole. -/
  array : Array Value := #[]
  /-- The entries of the hash part. -/
  hash : Std.HashMap Key Value := {}
  /-- Every key that ever entered the hash part, in order of first entry. -/
  order : Array Key := #[]
  /-- The position of each key of `order`. -/
  position : Std.HashMap Key Nat := {}
  /-- The metatable, if any. -/
  metatable : Option Nat := none
  /-- The room of the array part; zero while it has none. -/
  room : Nat := 0
  /-- How many times the array part moved to a larger store. -/
  moves : Nat := 0
  /-- The hash part holds no `nil`: writing `nil` removes the entry. -/
  hash_ne_nil : ∀ k v, hash.get? k = some v → v ≠ .nil := by
    intro k v h
    simp at h
  /-- A key takes one place in the order. -/
  order_nodup : order.toList.Nodup := by simp
  /-- A key of the order has its place recorded. -/
  position_of_mem : ∀ k ∈ order, position.contains k = true := by simp
  deriving Inhabited

/-- The room a first write gives an array part. -/
def firstRoom : Nat := 32

/-- The byte sizes of the small memory blocks. -/
def blockSizes : List Nat :=
  [8, 16, 24, 32, 48, 64, 80, 96, 112, 128, 144, 160, 176, 192, 208, 224, 240, 256, 288, 320,
    352, 384, 416, 448, 480, 512, 576, 640, 704, 768, 896, 1024, 1152, 1280, 1408, 1536, 1792,
    2048, 2304, 2688, 3072, 3200, 3456, 4096, 4864, 5376, 6144, 6528, 6784, 6912, 8192, 9472,
    9728, 10240, 10880, 12288, 13568, 14336, 16384, 18432, 19072, 20480, 21760, 24576, 27264,
    28672, 32768]

/-- The usable bytes of the memory block for `size` bytes of slots: the least block that fits
them, with an eight-byte header when they are over 512 bytes, less the header; past the
small blocks, whole pages of 8192 bytes. -/
def blockBytes (size : Nat) : Nat :=
  if size ≤ 32760 then
    let req := if size > 512 then size + 8 else size
    match blockSizes.find? (req ≤ ·) with
    | some b => b - (req - size)
    | none => size
  else (size + 8191) / 8192 * 8192

/-- Grows a room of `c` slots by a quarter and 192 slots at a time until it reaches `len`;
`fuel` bounds the steps. -/
def quarterSteps : Nat → Nat → Nat → Nat
  | 0, c, _ => c
  | fuel + 1, c, len =>
    let c := c + (c + 768) / 4
    if c ≥ len then c else quarterSteps fuel c len

/-- The room of an array part that had room for `room` values and must hold `len`. -/
def grownRoom (room len : Nat) : Nat :=
  let slots :=
    if len > 2 * room then len
    else if room < 256 then 2 * room
    else quarterSteps len room len
  blockBytes (16 * slots) / 16

namespace Table

/-- The table with no entries and no metatable, from which every new table starts. -/
def empty : Table := {}

/-- Appends a value to the array part, moving the part to a larger store when it is full and
giving it its first room when it has none. -/
def pushValue (t : Table) (v : Value) : Table :=
  let t := if t.room = 0 then { t with room := firstRoom } else t
  let t := if t.array.size < t.room then t
    else { t with room := grownRoom t.room (t.array.size + 1), moves := t.moves + 1 }
  { t with array := t.array.push v }

/-- Appends `k` holes and then `v` to the array part, one at a time. -/
def pushAfterHoles (t : Table) : Nat → Value → Table
  | 0, v => t.pushValue v
  | k + 1, v => (t.pushValue .nil).pushAfterHoles k v

/-- Writes index `i` (from zero) of the array part, growing it with holes when `i` lies past
its end. -/
def setArray (t : Table) (i : Nat) (v : Value) : Table :=
  if h : i < t.array.size then { t with array := t.array.set i v h }
  else t.pushAfterHoles (i - t.array.size) v

/-- The array index a number stands for, if it is an integer from 1 below the limit. -/
def arrayIndex? (x : Float) : Option Nat :=
  match Decimal.integralValue? x with
  | some n => if 1 ≤ n ∧ n < arrayLimit then some (n.toNat - 1) else none
  | none => none

/-- The value at a key of the hash part. -/
def hashGet (t : Table) (k : Key) : Value := (t.hash.get? k).getD .nil

/-- Writes a key of the hash part; `nil` removes the entry and keeps the key's place, and a
key takes its place in the order when it first gets a value. -/
def hashSet (t : Table) (k : Key) (v : Value) : Table :=
  if hv : v.isNil then
    { t with
      hash := t.hash.erase k
      hash_ne_nil := fun k' v' h ↦ by
        rw [Std.HashMap.get?_erase] at h
        split at h
        · cases h
        · exact t.hash_ne_nil k' v' h }
  else
    let t := if hk : t.position.contains k then t
      else
        { t with
          order := t.order.push k
          position := t.position.insert k t.order.size
          order_nodup := by
            rw [Array.toList_push, List.nodup_append]
            refine ⟨t.order_nodup, by simp, fun k' hk' b hb hkb ↦ ?_⟩
            rw [List.mem_singleton] at hb
            subst hb hkb
            exact hk (t.position_of_mem _ (Array.mem_toList_iff.1 hk'))
          position_of_mem := fun k' hk' ↦ by
            rw [Std.HashMap.contains_insert]
            rcases Array.mem_push.1 hk' with hk' | rfl
            · simp [t.position_of_mem k' hk']
            · simp }
    { t with
      hash := t.hash.insert k v
      hash_ne_nil := fun k' v' h ↦ by
        rw [Std.HashMap.get?_insert] at h
        split at h
        · cases h
          rintro rfl
          exact hv rfl
        · exact t.hash_ne_nil k' v' h }

/-- The value at a key, without metamethods. -/
def rawGet (t : Table) (key : Value) : Value :=
  match key with
  | .number x =>
    match arrayIndex? x with
    | some i => if h : i < t.array.size then t.array[i] else t.hashGet (Key.ofNumber x)
    | none => t.hashGet (Key.ofNumber x)
  | _ =>
    match Key.ofValue key with
    | some k => t.hashGet k
    | none => .nil

/-- The value at a string key. -/
def rawGetStr (t : Table) (s : ByteArray) : Value := t.hashGet (.str s)

/-- The value at an integer index. -/
def rawGetIndex (t : Table) (n : Nat) : Value := t.rawGet (.number (Float.ofNat n))

/-- Writes a key without metamethods; the key is neither `nil` nor NaN. -/
def rawSet (t : Table) (key v : Value) : Table :=
  match key with
  | .number x =>
    match arrayIndex? x with
    | some i => t.setArray i v
    | none => t.hashSet (Key.ofNumber x) v
  | _ =>
    match Key.ofValue key with
    | some k => t.hashSet k v
    | none => t

/-- Writes a string key. -/
def rawSetStr (t : Table) (s : ByteArray) (v : Value) : Table := t.hashSet (.str s) v

/-- Writes an integer index. -/
def rawSetIndex (t : Table) (n : Nat) (v : Value) : Table := t.rawSet (.number (Float.ofNat n)) v

/-- Writes an integer index: a positive one below the limit into the array part, growing it
with holes up to the index, any other into the hash part. -/
def setIndexGrowing (t : Table) (n : Int) (v : Value) : Table :=
  if n < 1 ∨ n ≥ arrayLimit then t.hashSet (Key.ofNumber (floatOfInt n)) v
  else t.setArray (n.toNat - 1) v

/-- The last index of the array part that holds a value, or zero. -/
def border (t : Table) : Nat :=
  let rec go : Nat → Nat
    | 0 => 0
    | i + 1 =>
      match t.array[i]? with
      | some .nil => go i
      | some _ => i + 1
      | none => go i
  go t.array.size

/-- The first entry of the hash part at or after position `i` of the order. -/
def hashFrom (t : Table) (i : Nat) : Option (Value × Value) :=
  let rec go (j : Nat) (fuel : Nat) : Option (Value × Value) :=
    match fuel with
    | 0 => none
    | fuel + 1 =>
      match t.order[j]? with
      | none => none
      | some k =>
        match t.hash.get? k with
        | some v => some (k.toValue, v)
        | none => go (j + 1) fuel
  go i (t.order.size - i)

/-- The first entry of the array part at or after index `i`. -/
def arrayFrom (t : Table) (i : Nat) : Option (Value × Value) :=
  let rec go (j : Nat) (fuel : Nat) : Option (Value × Value) :=
    match fuel with
    | 0 => none
    | fuel + 1 =>
      match t.array[j]? with
      | none => none
      | some .nil => go (j + 1) fuel
      | some v => some (.number (Float.ofNat (j + 1)), v)
  go i (t.array.size - i)

/-- The entry after `key` in the order `pairs` visits, `none` at the end. A positive integer
key continues the array part after it, and once the array part is done the hash part starts
from its first key; a key past the array part, and any other key, continues the hash part
after its own place (from the second key when it has none). -/
def next? (t : Table) (key : Value) : Option (Value × Value) :=
  let afterKey (k : Key) : Option (Value × Value) :=
    t.hashFrom ((t.position.get? k).getD 0 + 1)
  let startHash : Option (Value × Value) :=
    if t.hash.isEmpty then none
    else
      match t.order[0]? with
      | none => none
      | some k0 =>
        match t.hash.get? k0 with
        | some v => some (k0.toValue, v)
        | none => afterKey k0
  let fromArray (index : Nat) : Option (Value × Value) :=
    match t.arrayFrom index with
    | some e => some e
    | none => if index ≤ t.array.size then startHash else afterKey (Key.ofNumber (Float.ofNat index))
  match key with
  | .nil => fromArray 0
  | .number x =>
    match Decimal.integralValue? x with
    | some n =>
      if n = 0 then afterKey (Key.ofNumber x)
      else if 0 < n ∧ n < arrayLimit then fromArray n.toNat
      else afterKey (Key.ofNumber x)
    | none => afterKey (Key.ofNumber x)
  | _ =>
    match Key.ofValue key with
    | some k => afterKey k
    | none => none

/-- The entries: the array part in index order, then the string keys of the hash part, then
its other keys, each part in order of first entry. -/
def entries (t : Table) : List (Value × Value) :=
  let arr := (t.array.toList.zipIdx 1).filterMap fun (v, i) ↦
    match v with
    | .nil => none
    | _ => some (.number (Float.ofNat i), v)
  let present := t.order.toList.filterMap fun k ↦ (t.hash.get? k).map fun v ↦ (k, v)
  arr ++ (present.filter (·.1.isStr)).map (fun (k, v) ↦ (k.toValue, v))
    ++ (present.filter (!·.1.isStr)).map (fun (k, v) ↦ (k.toValue, v))

/-- The number of entries. -/
def count (t : Table) : Nat := (t.array.toList.filter (!·.isNil)).length + t.hash.size

/-- A table holding `vs` at `1, 2, …`, with room for them alone. -/
def ofList (vs : List Value) : Table := { array := vs.toArray, room := vs.length }

end Table

end LuaDebugger.Lua
