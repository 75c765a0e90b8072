import LuaDebugger.Lua.State
import LuaDebugger.Lua.Arith
/-!
# Operations with metamethods

The operations of the language on values, each as a `Reduced`: the resulting value, a
metamethod to call whose first result is the value, or an error. Calling is the machine's
business, so these functions only say what to call.

* `index` reads a field: the raw value of a table if it is not `nil`, else the `__index`
  of the metatable, followed through tables (a hundred steps at most) until a function is
  called with the object and the key;
* `setIndex` writes a field the same way with `__newindex`, storing into the first table
  that has the key or has no `__newindex`;
* `arith` works on numbers at once; otherwise the `__add`… of the left or else the right
  operand comes first, and only then strings that read as numbers;
* `compare` orders numbers and strings (bytewise) directly and other values of one type by
  a `__lt`/`__le` that both share, `a <= b` falling back to `not (b < a)`; equality consults
  `__eq` only for two different tables or bare objects;
* `concatStep` joins the rightmost operands while they are strings or numbers, and asks for
  `__concat` otherwise.
-/

namespace LuaDebugger.Lua

/-- The next step of an operation. -/
inductive Reduced where
  /-- The operation's value. -/
  | value (v : Value)
  /-- The first result of calling `f` with `args` is the value. -/
  | call (f : Value) (args : Array Value)
  /-- The truth of the first result of calling `f` with `args`, negated when `negate`, is
  the value. -/
  | test (f : Value) (args : Array Value) (negate : Bool)
  /-- The operation fails with a message that takes the position of the running frame. -/
  | fail (msg : ByteArray)
  deriving Inhabited

namespace Machine

/-- The largest number of `__index` or `__newindex` steps. -/
def maxIndexSteps : Nat := 100

/-- Reads `obj[key]`. -/
def index (m : Machine) (obj key : Value) : Reduced :=
  let rec go (cur : Value) (fuel : Nat) : Reduced :=
    match fuel with
    | 0 => .fail "too many recursions in gettable".toUTF8
    | fuel + 1 =>
      let raw : Option Value := match cur with
        | .table t => some (m.rawGet t key)
        | _ => none
      if let some v := raw.filter (!·.isNil) then .value v
      else
        match m.metaField cur "__index" with
        | .nil =>
          if raw.isSome then .value .nil
          else .fail (("attempt to index a non-table object(" ++ cur.typeName ++
            ") with key '").toUTF8 ++ Heap.textBytes key ++ "'".toUTF8)
        | h@(.fn _) => .call h #[cur, key]
        | h => go h fuel
  go obj maxIndexSteps

/-- Writes a table without metamethods, refusing a `nil` or NaN key. -/
def rawStore (m : Machine) (t : Nat) (key v : Value) : Except String Machine :=
  match key with
  | .nil => .error "table index is nil"
  | .number x => if x.isNaN then .error "table index is NaN" else .ok (m.rawSet t key v)
  | _ => .ok (m.rawSet t key v)

/-- Writes `obj[key] = v`; the value `nil` of the result stands for a finished store. -/
def setIndex (m : Machine) (obj key v : Value) : Machine × Reduced :=
  let rec go (cur : Value) (fuel : Nat) : Machine × Reduced :=
    match fuel with
    | 0 => (m, .fail "too many recursions in settable".toUTF8)
    | fuel + 1 =>
      let present : Option Bool := match cur with
        | .table t => some !(m.rawGet t key).isNil
        | _ => none
      let store (t : Nat) : Machine × Reduced :=
        match m.rawStore t key v with
        | .ok m' => (m', .value .nil)
        | .error msg => (m, .fail msg.toUTF8)
      match present, cur with
      | some true, .table t => store t
      | _, _ =>
        match m.metaField cur "__newindex" with
        | .nil =>
          match cur with
          | .table t => store t
          | _ => (m, .fail (("attempt to index a non-table object(" ++ cur.typeName ++
              ") with key '").toUTF8 ++ Heap.textBytes key ++ "'".toUTF8))
        | h@(.fn _) => (m, .call h #[cur, key, v])
        | h => go h fuel
  go obj maxIndexSteps

/-- The metamethod of a binary event: the left operand's, else the right one's. -/
def binaryMeta (m : Machine) (a b : Value) (event : String) : Value :=
  match m.metaField a event with
  | .nil => m.metaField b event
  | h => h

/-- The value a string operand of arithmetic reads as; other values stay. -/
def coerce : Value → Value
  | .str s =>
    match parseNumber? s with
    | some x => .number x
    | none => .str s
  | v => v

/-- Applies an arithmetic operator. -/
def arith (m : Machine) (op : ArithOp) (a b : Value) : Reduced :=
  match a, b with
  | .number x, .number y => .value (.number (op.apply x y))
  | _, _ =>
    match m.binaryMeta a b op.event with
    | h@(.fn _) => .call h #[a, b]
    | _ =>
      match coerce a, coerce b with
      | .number x, .number y => .value (.number (op.apply x y))
      | a', b' => .fail ("cannot perform " ++ op.name ++ " operation between " ++
          a'.typeName ++ " and " ++ b'.typeName).toUTF8

/-- Negates a value. -/
def negate (m : Machine) (a : Value) : Reduced :=
  match a with
  | .number x => .value (.number (-x))
  | _ =>
    match m.metaField a "__unm" with
    | h@(.fn _) => .call h #[a]
    | _ =>
      match coerce a with
      | .number x => .value (.number (-x))
      | _ => .fail "__unm undefined".toUTF8

/-- The length of a value. -/
def length (m : Machine) (a : Value) : Reduced :=
  match a with
  | .str s => .value (.number (Float.ofNat s.size))
  | _ =>
    match m.metaField a "__len" with
    | h@(.fn _) => .call h #[a]
    | _ =>
      match a with
      | .table t => .value (.number (Float.ofNat (m.table t).border))
      | _ => .fail "__len undefined".toUTF8

/-- The metamethod both operands share for an order or equality event, if it is a
function. -/
def sharedMeta (m : Machine) (a b : Value) (event : String) : Option Value :=
  match m.metaField a event, m.metaField b event with
  | h@(.fn i), .fn j => if i = j then some h else none
  | _, _ => none

/-- The error of values that cannot be ordered. -/
def compareError (a b : Value) : Reduced :=
  .fail ("attempt to compare " ++ a.typeName ++ " with " ++ b.typeName).toUTF8

/-- Whether `a < b`. -/
def lessThan (m : Machine) (a b : Value) : Reduced :=
  match a, b with
  | .number x, .number y => .value (.bool (x < y))
  | .number _, _ => compareError a b
  | .str s, .str t => .value (.bool (bytesLt s t))
  | _, _ =>
    if a.typeName != b.typeName then compareError a b
    else
      match m.sharedMeta a b "__lt" with
      | some h => .test h #[a, b] false
      | none => compareError a b

/-- Whether `a <= b`. -/
def lessEqual (m : Machine) (a b : Value) : Reduced :=
  match a, b with
  | .number x, .number y => .value (.bool (x ≤ y))
  | .number _, _ => compareError a b
  | .str s, .str t => .value (.bool (bytesLe s t))
  | _, _ =>
    if a.typeName != b.typeName then compareError a b
    else
      match m.sharedMeta a b "__le" with
      | some h => .test h #[a, b] false
      | none =>
        match m.sharedMeta b a "__lt" with
        | some h => .test h #[b, a] true
        | none => compareError b a

/-- Whether `a == b`. -/
def equal (m : Machine) (a b : Value) : Reduced :=
  match a, b with
  | .table i, .table j | .userdata i, .userdata j =>
    if i = j then .value (.bool true)
    else
      match m.sharedMeta a b "__eq" with
      | some h => .test h #[a, b] false
      | none => .value (.bool false)
  | _, _ => .value (.bool (a.rawEq b))

/-- Compares two values. -/
def compare (m : Machine) (op : CompareOp) (a b : Value) : Reduced :=
  match op with
  | .eq => m.equal a b
  | .lt => m.lessThan a b
  | .le => m.lessEqual a b

/-- Whether a value joins a concatenation as text. -/
def joinsAsText : Value → Bool
  | .str _ | .number _ => true
  | _ => false

/-- One step of a concatenation of `left` (the nearest operand first) with `right`: the
nearest operands that are text join `right` at once, else `__concat` is called on the
nearest operand and `right`. Returns the operands still to join and the next step. -/
def concatStep (m : Machine) (left : List Value) (right : Value) : List Value × Reduced :=
  match left with
  | [] => ([], .value right)
  | a :: rest =>
    if joinsAsText a ∧ joinsAsText right then
      let texts := left.takeWhile joinsAsText
      let joined := texts.foldl (fun acc v ↦ Heap.textBytes v ++ acc) (Heap.textBytes right)
      (left.drop texts.length, .value (.str joined))
    else
      match m.binaryMeta a right "__concat" with
      | h@(.fn _) => (rest, .call h #[a, right])
      | _ => (rest, .fail ("cannot perform concat operation between " ++ a.typeName ++
          " and " ++ right.typeName).toUTF8)

end Machine

end LuaDebugger.Lua
