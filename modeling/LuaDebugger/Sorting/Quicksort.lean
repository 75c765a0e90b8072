import LuaDebugger.CoreInstances
/-!
# Pattern-defeating quicksort

An unstable sort in place, in any monad that can compare two items of a sequence by their
indices and swap two of them. The order of its comparisons and swaps is fixed, so that a
comparator that is not a strict order, or one that watches the sequence while it is being
sorted, sees what it would see in any other run of the same algorithm.

* A range of at most twelve items is sorted by insertion.
* Otherwise a pivot is chosen: the median of three items spread over the range, or of three
  such medians (the ninther) on a range of fifty items or more. If choosing it never had to
  reorder a pair the range may be sorted already; if it always had to, it is reversed first.
* A range that looked sorted gets a partial insertion sort, which gives up after five
  misplaced items, and at once on a range shorter than fifty.
* When the item before the range does not sort before the pivot, the range holds many items
  equal to it: it is split into those equal to the pivot, which are then in place, and the
  rest.
* Otherwise the range is split around the pivot; the smaller side is sorted by a recursive
  call and the larger one in the same loop. After a split that leaves one side under an
  eighth of the range, a few items are swapped by a fixed pseudo-random sequence, and after
  as many bad splits as the length has bits, the range is heap-sorted.

Every loop is bounded: the indices it moves stay in the range it works on, and each round of
the main loop makes that range shorter.
-/

namespace LuaDebugger

namespace Sorting

/-- The operations of a sort in place: whether the item at one index sorts before the item
at another, and swapping two items. -/
structure Ops (m : Type → Type) where
  less : Nat → Nat → m Bool
  swap : Nat → Nat → m Unit

/-- What choosing a pivot saw of the order of a range. -/
inductive Hint where
  | unknown
  | increasing
  | decreasing
  deriving DecidableEq

variable {m : Type → Type} [Monad m] (o : Ops m)

/-- Moves the item `d` places after `a` to the left while it sorts before its neighbour. -/
def sinkLeft (a : Nat) : Nat → m Unit
  | 0 => pure ()
  | d + 1 => do
    let j := a + d + 1
    if ← o.less j (j - 1) then
      o.swap j (j - 1)
      sinkLeft a d

/-- Sorts the range `[a, b)` by insertion. -/
def insertionSort (a b : Nat) : m Unit := do
  for i in [a + 1:b] do
    sinkLeft o a (i - a)

/-- Moves the item at `root` of the heap at `first` with `hi` items down while a child sorts
after it, the later child first. -/
def siftDown (hi first : Nat) : Nat → Nat → m Unit
  | 0, _ => pure ()
  | fuel + 1, root => do
    let child := 2 * root + 1
    if child ≥ hi then return
    let child ← if child + 1 < hi then do
        if ← o.less (first + child) (first + child + 1) then pure (child + 1) else pure child
      else pure child
    if !(← o.less (first + root) (first + child)) then return
    o.swap (first + root) (first + child)
    siftDown hi first fuel child

/-- Sorts the range `[a, b)` as a heap: builds it, then moves its greatest item to the end
one at a time. -/
def heapSort (a b : Nat) : m Unit := do
  let hi := b - a
  let top := (hi - 1) / 2
  for k in [0:top + 1] do
    siftDown o hi a hi (top - k)
  for k in [0:hi] do
    let i := hi - 1 - k
    o.swap a (a + i)
    siftDown o i a i 0

/-- One step of the generator of pseudo-random numbers of `breakPatterns`. -/
def xorshift (x : UInt64) : UInt64 :=
  let x := x ^^^ (x <<< 13)
  let x := x ^^^ (x >>> 7)
  x ^^^ (x <<< 17)

/-- Swaps three items near the middle of a range of eight or more with items at places
drawn from a generator seeded with the length. -/
def breakPatterns (a b : Nat) : m Unit := do
  let length := b - a
  if length ≥ 8 then
    let modulus := 2 ^ (Nat.log2 length + 1)
    let idx := a + (length / 4) * 2 - 1
    let mut r : UInt64 := length.toUInt64
    for i in [0:3] do
      r := xorshift r
      let other := r.toNat % modulus
      let other := if other ≥ length then other - length else other
      o.swap (idx + i) (a + other)

/-- Orders two indices by their items, counting a reorder in `swaps`. -/
def order2 (x y swaps : Nat) : m (Nat × Nat × Nat) := do
  if ← o.less y x then pure (y, x, swaps + 1) else pure (x, y, swaps)

/-- The index of the median item of three, with the reorders counted. -/
def median (x y z swaps : Nat) : m (Nat × Nat) := do
  let (x, y, swaps) ← order2 o x y swaps
  let (y, _, swaps) ← order2 o y z swaps
  let (_, y, swaps) ← order2 o x y swaps
  pure (y, swaps)

/-- The pivot of the range `[a, b)`, and what choosing it saw: no reorder hints that the
range increases, twelve (all of them, for a ninther) that it decreases. -/
def choosePivot (a b : Nat) : m (Nat × Hint) := do
  let l := b - a
  let i := a + l / 4
  let j := a + l / 4 * 2
  let k := a + l / 4 * 3
  let (j, swaps) ← if l ≥ 8 then do
      let (i, j, k, swaps) ← if l ≥ 50 then do
          let (i, s) ← median o (i - 1) i (i + 1) 0
          let (j, s) ← median o (j - 1) j (j + 1) s
          let (k, s) ← median o (k - 1) k (k + 1) s
          pure (i, j, k, s)
        else pure (i, j, k, 0)
      median o i j k swaps
    else pure (j, 0)
  pure (j, if swaps = 0 then .increasing else if swaps = 12 then .decreasing else .unknown)

/-- Reverses the range `[a, b)`. -/
def reverseRange (a b : Nat) : m Unit := do
  for k in [0:(b - a) / 2] do
    o.swap (a + k) (b - 1 - k)

/-- The first index from `i` on, before `b`, whose item sorts before its left neighbour, or
`b`. -/
def skipSorted (b : Nat) : Nat → Nat → m Nat
  | 0, i => pure i
  | fuel + 1, i => do
    if i < b then
      if !(← o.less i (i - 1)) then return ← skipSorted b fuel (i + 1)
    pure i

/-- Moves the item at `p` left while it sorts before its neighbour, no further than index 0. -/
def shiftDown : Nat → m Unit
  | 0 => pure ()
  | j + 1 => do
    if ← o.less (j + 1) j then
      o.swap (j + 1) j
      shiftDown j

/-- Moves the item before `j` right while the item after it sorts before it, up to `b`. -/
def shiftUp (b : Nat) : Nat → Nat → m Unit
  | 0, _ => pure ()
  | fuel + 1, j => do
    if j < b then
      if ← o.less j (j - 1) then
        o.swap j (j - 1)
        shiftUp b fuel (j + 1)

/-- The rounds of `partialInsertionSort` from `i`, `steps` of them left. -/
def partialSteps (a b : Nat) : Nat → Nat → m Bool
  | 0, _ => pure false
  | steps + 1, i => do
    let i ← skipSorted o b (b - i) i
    if i ≥ b then return true
    if b - a < 50 then return false
    o.swap i (i - 1)
    if i - a ≥ 2 then shiftDown o (i - 1)
    if b - i ≥ 2 then shiftUp o b (b - i) (i + 1)
    partialSteps a b steps i

/-- Sorts the range `[a, b)` if at most five of its items are out of place, moving each to
its place; whether the range is then sorted. -/
def partialInsertionSort (a b : Nat) : m Bool := partialSteps o a b 5 (a + 1)

/-- From `i`, the first index up to `j` whose item does not sort before the pivot at `a`. -/
def skipLess (a j : Nat) : Nat → Nat → m Nat
  | 0, i => pure i
  | fuel + 1, i => do
    if i ≤ j then
      if ← o.less i a then return ← skipLess a j fuel (i + 1)
    pure i

/-- From `j` down, the last index from `i` whose item sorts before the pivot at `a`, or
`i - 1`. -/
def skipNotLess (a i : Nat) : Nat → Nat → m Nat
  | 0, j => pure j
  | fuel + 1, j => do
    if i ≤ j then
      if !(← o.less j a) then return ← skipNotLess a i fuel (j - 1)
    pure j

/-- The rounds of `partition` after the first: the index where the pivot belongs. -/
def partitionRounds (a : Nat) : Nat → Nat → Nat → m Nat
  | 0, _, j => pure j
  | fuel + 1, i, j => do
    let i ← skipLess o a j (j + 1 - i) i
    let j ← skipNotLess o a i (j + 1 - i) j
    if i > j then return j
    o.swap i j
    partitionRounds a fuel (i + 1) (j - 1)

/-- Splits the range `[a, b)` around the pivot at `pivot`: items that sort before it go
left, the others right, and the pivot between them. The pivot's new index, and whether no
item had to move. -/
def partition (a b pivot : Nat) : m (Nat × Bool) := do
  o.swap a pivot
  let i ← skipLess o a (b - 1) (b - a) (a + 1)
  let j ← skipNotLess o a i (b - a) (b - 1)
  if i > j then
    o.swap j a
    return (j, true)
  o.swap i j
  let j ← partitionRounds o a (b - a) (i + 1) (j - 1)
  o.swap j a
  pure (j, false)

/-- The rounds of `partitionEqual`: the first index past the items equal to the pivot. -/
def equalRounds (a : Nat) : Nat → Nat → Nat → m Nat
  | 0, i, _ => pure i
  | fuel + 1, i, j => do
    let i ← skipWhile i j (j + 1 - i)
    let j ← dropWhile i j (j + 1 - i)
    if i > j then return i
    o.swap i j
    equalRounds a fuel (i + 1) (j - 1)
where
  /-- From `i`, the first index up to `j` whose item sorts after the pivot. -/
  skipWhile (i j : Nat) : Nat → m Nat
    | 0 => pure i
    | fuel + 1 => do
      if i ≤ j then
        if !(← o.less a i) then return ← skipWhile (i + 1) j fuel
      pure i
  /-- From `j` down, the last index from `i` whose item does not sort after the pivot. -/
  dropWhile (i j : Nat) : Nat → m Nat
    | 0 => pure j
    | fuel + 1 => do
      if i ≤ j then
        if ← o.less a j then return ← dropWhile i (j - 1) fuel
      pure j

/-- Splits the range `[a, b)`, whose items do not sort before the pivot at `pivot`, into
the items equal to the pivot and those after them: the index of the first of those after. -/
def partitionEqual (a b pivot : Nat) : m Nat := do
  o.swap a pivot
  equalRounds o a (b - a) (a + 1) (b - 1)

/-- Sorts the range `[a, b)` with at most `limit` more bad splits before heap sort; the
fuel is at least the length of the range. -/
def pdqsort : Nat → Nat → Nat → Nat → Bool → Bool → m Unit
  | 0, _, _, _, _, _ => pure ()
  | fuel + 1, a, b, limit, wasBalanced, wasPartitioned => do
    let length := b - a
    if length ≤ 12 then return ← insertionSort o a b
    if limit = 0 then return ← heapSort o a b
    let limit ← if !wasBalanced then do breakPatterns o a b; pure (limit - 1) else pure limit
    let (pivot, hint) ← choosePivot o a b
    let (pivot, hint) ← if hint = .decreasing then do
        reverseRange o a b
        pure ((b - 1) - (pivot - a), Hint.increasing)
      else pure (pivot, hint)
    if wasBalanced ∧ wasPartitioned ∧ hint = .increasing then
      if ← partialInsertionSort o a b then return
    if a > 0 then
      if !(← o.less (a - 1) pivot) then
        let mid ← partitionEqual o a b pivot
        return ← pdqsort fuel mid b limit wasBalanced wasPartitioned
    let (mid, already) ← partition o a b pivot
    let leftLen := mid - a
    let rightLen := b - mid
    let threshold := length / 8
    if leftLen < rightLen then
      pdqsort fuel a mid limit true true
      pdqsort fuel (mid + 1) b limit (leftLen ≥ threshold) already
    else
      pdqsort fuel (mid + 1) b limit true true
      pdqsort fuel a mid limit (rightLen ≥ threshold) already

/-- Sorts the `n` items of a sequence. -/
def sort (n : Nat) : m Unit :=
  if n ≤ 1 then pure () else pdqsort o n 0 n (Nat.log2 n + 1) true true

end Sorting

end LuaDebugger
