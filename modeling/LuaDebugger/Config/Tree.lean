import LuaDebugger.Datum.Basic
import LuaDebugger.Config.Fault
/-!
# Trees of settings

Settings form a tree: a map from names to values, where a value that is itself a map holds
more settings. A setting is named by its dotted path, as `server.port`; a path is refused
when it is empty or has an empty segment.

* `Tree.get?` follows a path through maps, and finds nothing past a value that is not a map;
* `Tree.set?` writes a value at a path, making the maps on the way, and refuses a path that
  runs through a value that is not a map;
* `Tree.write` is the same write done in place, as on a shared map: it gives back the tree as
  the walk left it together with the fault, if any, that stopped the walk;
* `Tree.merge` lays one tree over another: where both hold maps they merge, and otherwise
  the upper value wins;
* `Tree.flatten` lists the values that are not maps by their dotted paths, so an empty map
  leaves no trace in it.
-/

namespace LuaDebugger.Config

/-- A tree of settings: the sorted entries of a map. -/
abbrev Tree := List (String × Datum)

/-- The segments of a dotted path, or none when the path is empty or has an empty
segment. -/
def segments? (path : String) : Option (List String) :=
  if path = "" then none
  else
    let parts := (path.toList.splitOn '.').map String.ofList
    if parts.any (· = "") then none else some parts

/-- The value a list of names leads to from a value. -/
def Datum.follow : Datum → List String → Option Datum
  | d, [] => some d
  | .map es, k :: ks => (Datum.lookup es k).bind fun d ↦ Datum.follow d ks
  | _, _ :: _ => none

namespace Tree

/-- The value at a dotted path. -/
def get? (t : Tree) (path : String) : Option Datum :=
  (segments? path).bind (Datum.follow (.map t))

/-- The tree with `v` at the names `ks`, making the maps on the way; none when the way
runs through a value that is not a map. -/
def setAt (t : Tree) : List String → Datum → Option Tree
  | [], _ => some t
  | [k], v => some (Datum.insertEntry t k v)
  | k :: ks, v =>
    match Datum.lookup t k with
    | none => (setAt [] ks v).map fun sub ↦ Datum.insertEntry t k (.map sub)
    | some (.map sub) => (setAt sub ks v).map fun sub ↦ Datum.insertEntry t k (.map sub)
    | some _ => none

/-- The tree with `v` at a dotted path; none when the path is refused or runs through a
value that is not a map. -/
def set? (t : Tree) (path : String) (v : Datum) : Option Tree :=
  (segments? path).bind fun ks ↦ t.setAt ks v

/-- Writes `v` at the names `ks` in place. A name missing on the way gets a new map, stored
before the walk goes down into it; a value that is not a map on the way stops the walk with
`invalidPath`, leaving what was written before it. -/
def writeAt (t : Tree) : List String → Datum → Tree × Except ConfigFault Unit
  | [], _ => (t, .ok ())
  | [k], v => (Datum.insertEntry t k v, .ok ())
  | k :: ks, v =>
    match Datum.lookup t k with
    | none =>
      let (sub, r) := writeAt [] ks v
      (Datum.insertEntry t k (.map sub), r)
    | some (.map sub) =>
      let (sub, r) := writeAt sub ks v
      (Datum.insertEntry t k (.map sub), r)
    | some _ => (t, .error .invalidPath)

/-- Writes `v` at a dotted path in place: the tree as the write left it, with `invalidPath`
when the path is refused or runs through a value that is not a map. -/
def write (t : Tree) (path : String) (v : Datum) : Tree × Except ConfigFault Unit :=
  match segments? path with
  | none => (t, .error .invalidPath)
  | some ks => t.writeAt ks v

/-- The tree `upper` laid over `lower`: maps present in both merge, any other value of
`upper` replaces the one below. -/
def merge (lower : Tree) : Tree → Tree
  | [] => lower
  | (k, .map s) :: rest =>
    let v := match Datum.lookup lower k with
      | some (.map d) => .map (merge d s)
      | _ => .map s
    merge (Datum.insertEntry lower k v) rest
  | (k, v) :: rest => merge (Datum.insertEntry lower k v) rest
termination_by upper => sizeOf upper

/-- A name under a prefix: joined by a dot, or alone at the top. -/
def joinKey (pre k : String) : String := if pre = "" then k else pre ++ "." ++ k

/-- The values that are not maps under their dotted paths, each prefixed by `pre`. -/
def flattenUnder (pre : String) : Tree → List (String × Datum)
  | [] => []
  | (k, .map m) :: rest => flattenUnder (joinKey pre k) m ++ flattenUnder pre rest
  | (k, v) :: rest => (joinKey pre k, v) :: flattenUnder pre rest
termination_by t => sizeOf t

/-- The values that are not maps under their dotted paths. -/
def flatten (t : Tree) : List (String × Datum) := flattenUnder "" t

end Tree

end LuaDebugger.Config
