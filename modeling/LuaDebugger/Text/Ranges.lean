import LuaDebugger.CoreInstances
/-!
# Character classes given by sorted ranges

A Unicode property is a set of code points that comes in long runs, so it is stored as an
array of closed ranges sorted by their first point. Membership is a bisection over that
array, which recurses on the width of the window still to search.
-/

namespace LuaDebugger.Text

/-- Whether `c` lies in one of the closed ranges `rs`, which are sorted and disjoint. -/
def inRanges (rs : Array (Nat × Nat)) (c : Nat) : Bool :=
  go 0 rs.size
where
  /-- Searches the ranges with index in `[lo, hi)`. -/
  go (lo hi : Nat) : Bool :=
    if _h : lo < hi then
      let mid := (lo + hi) / 2
      match rs[mid]? with
      | none => false
      | some (a, b) =>
        if c < a then go lo mid
        else if b < c then go (mid + 1) hi
        else true
    else false
  termination_by hi - lo

/-- The last entry of `xs` whose key is at most `c`, where the keys rise along `xs`. -/
def lastAtMost {α : Type} (xs : Array α) (key : α → Nat) (c : Nat) : Option α :=
  go 0 xs.size none
where
  /-- Searches indices `[lo, hi)`; `best` is the answer found left of `lo`. -/
  go (lo hi : Nat) (best : Option α) : Option α :=
    if _h : lo < hi then
      let mid := (lo + hi) / 2
      match xs[mid]? with
      | none => best
      | some x =>
        if c < key x then go lo mid best
        else go (mid + 1) hi (some x)
    else best
  termination_by hi - lo

end LuaDebugger.Text
