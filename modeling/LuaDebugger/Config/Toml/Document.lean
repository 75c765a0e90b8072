import LuaDebugger.Config.Toml.Expression
import LuaDebugger.Config.Tree
import LuaDebugger.Decimal.Read
/-!
# TOML documents as trees of settings

`Toml.decode` reads a TOML document into a tree of settings, one expression after another:
each is read, checked against the keys defined before it, and then applied. The first fault
ends the reading, so a fault of an earlier line wins over any of a later one.

* Integers are 64-bit, in decimal without leading zeros or in base 16, 8 or 2 after `0x`,
  `0o` or `0b`; an underscore must stand between two digits. Floats are binary64, with a
  digit on each side of the point, and also `inf` and `nan` with an optional sign.
* A date is `YYYY-MM-DD` and must exist; a time is `HH:MM:SS` with an optional fraction of
  which nine digits count. A date and time with an offset (`Z` or `±hh:mm`) is a point in
  time, an offset of zero being UTC; without one it is a local date and time.
* A key may be defined once. A table header may name a table once, and not one that dotted
  keys of an earlier table made, nor a value; an array-of-tables header adds a table to its
  array, and the keys after it go into that table.

Faults of the form and of values carry the line they are on; faults of keys defined twice
carry none.
-/

namespace LuaDebugger.Toml

open Config (Tree)

/-- Why a document cannot be read: a fault on a known line, or a conflict of keys. -/
inductive Fault where
  /-- A fault of the form or of a value, where it was found. -/
  | located (f : Failure)
  /-- A key or table defined in conflict with an earlier one. -/
  | conflict (message : String)
  deriving Inhabited

/-! ### Numbers -/

/-- Refuses a malformed use of underscores in the digits of an integer (after its sign) and
drops them. -/
def integerDigits (raw : Raw) (cs : List Char) : Except Failure (List Char) :=
  let fail := fun (m : String) ↦ Except.error (Failure.mk raw.left m)
  let (sign, body) := match cs with
    | c :: r => if c = '+' || c = '-' then ([c], r) else ([], cs)
    | [] => ([], [])
  match body with
  | [] => .ok cs
  | '_' :: _ => fail "number cannot start with underscore"
  | _ =>
    if body.getLast? = some '_' then fail "number cannot end with underscore"
    else if (body.zip body.tail).any (fun (a, b) ↦ a = '_' && b = '_') then
      fail "number must have at least one digit between underscores"
    else .ok (sign ++ body.filter (· != '_'))

/-- The text of an integer refused by the integer reader. -/
def numberError (fn what : String) (text : List Char) (fault : Decimal.ReadFault) : String :=
  "couldn't parse " ++ what ++ " number: strconv." ++ fn ++ ": parsing " ++
    Text.quote (String.ofList text) ++ ": " ++
    (match fault with
      | .malformed => "invalid syntax"
      | .outOfRange => "value out of range")

/-- The value of an integer as written. -/
def integerValue (raw : Raw) : Except Failure Int :=
  let fail := fun (m : String) ↦ Except.error (Failure.mk raw.left m)
  match raw.text with
  | '0' :: b :: rest =>
    if b = 'x' || b = 'o' || b = 'b' then do
      let digits ← integerDigits raw rest
      let (base, what) := if b = 'x' then (16, "hexadecimal") else if b = 'o' then (8, "octal")
        else (2, "binary")
      match Decimal.readInt base (String.ofList digits) with
      | .ok n => pure n
      | .error f => fail (numberError "ParseInt" what digits f)
    else decimal
  | _ => decimal
where
  decimal : Except Failure Int := do
    let cleaned ← integerDigits raw raw.text
    let body := match cleaned with
      | c :: r => if c = '+' || c = '-' then r else cleaned
      | [] => []
    if body.length > 1 && body.head? = some '0' then
      .error ⟨raw.left, "leading zero not allowed on decimal number"⟩
    else
      match Decimal.readInt 10 (String.ofList cleaned) with
      | .ok n => pure n
      | .error f => .error ⟨raw.left, numberError "ParseInt" "decimal" cleaned f⟩

/-- Refuses a malformed use of underscores in a float and drops them. -/
def floatDigits (raw : Raw) : Except Failure (List Char) :=
  let cs := raw.text
  let fail := fun (m : String) ↦ Except.error (Failure.mk raw.left m)
  if cs.head? = some '_' then fail "number cannot start with underscore"
  else if cs.getLast? = some '_' then fail "number cannot end with underscore"
  else if !cs.contains '_' then .ok cs
  else
    let rec go : List Char → Option Char → Bool → Except Failure (List Char)
      | [], _, _ => .ok []
      | c :: r, prev, before =>
        if c = '_' then
          if !before then fail "number must have at least one digit between underscores"
          else if r.head? = some 'e' || r.head? = some 'E' then fail "cannot have underscore before exponent"
          else go r (some c) false
        else if c = '+' || c = '-' then (c :: ·) <$> go r (some c) false
        else if c = 'e' || c = 'E' then
          if r.head? = some '_' then fail "cannot have underscore after exponent"
          else (c :: ·) <$> go r (some c) before
        else if c = '.' then
          if r.head? = some '_' then fail "cannot have underscore after decimal point"
          else if prev = some '_' then fail "cannot have underscore before decimal point"
          else (c :: ·) <$> go r (some c) before
        else (c :: ·) <$> go r (some c) true
    go cs none false

/-- The value of a float as written. -/
def floatValue (raw : Raw) : Except Failure Float := do
  let fail := fun {α : Type} (m : String) ↦ (Except.error (Failure.mk raw.left m) : Except Failure α)
  if raw.text.length = 4 && (raw.text.head? = some '+' || raw.text.head? = some '-') &&
      raw.text.drop 1 = ['n', 'a', 'n'] then
    return (0.0 / 0.0 : Float)
  let cleaned ← floatDigits raw
  if cleaned.head? = some '.' then fail "float cannot start with a dot"
  if cleaned.getLast? = some '.' then fail "float cannot end with a dot"
  let indexed := cleaned.zipIdx
  let dots := indexed.filter (·.1 = '.')
  if dots.length > 1 then fail "float can have at most one decimal point"
  for (_, i) in dots do
    if !((cleaned[i - 1]?).getD ' ').isDigit then fail "float decimal point must be preceded by a digit"
    if !((cleaned[i + 1]?).getD ' ').isDigit then fail "float decimal point must be followed by a digit"
  let body := match cleaned with
    | c :: r => if c = '+' || c = '-' then r else cleaned
    | [] => []
  match body with
  | '0' :: d :: _ => if d.isDigit then fail "float integer part cannot have leading zeroes"
  | _ => pure ()
  match Decimal.readFloat (String.ofList cleaned) with
  | .ok x => pure x
  | .error f =>
    fail ("unable to parse float: strconv.ParseFloat: parsing " ++ Text.quote (String.ofList cleaned) ++
      ": " ++ (match f with
        | .malformed => "invalid syntax"
        | .outOfRange => "value out of range"))

/-! ### Dates and times -/

/-- The value of a run of decimal digits. -/
def decimalDigits (raw : Raw) (cs : List Char) : Except Failure Nat :=
  cs.foldlM (fun v c ↦ if c.isDigit then .ok (v * 10 + (c.toNat - 48))
    else .error ⟨raw.left, "expected digit (0-9)"⟩) 0

/-- Whether a year is a leap year. -/
def isLeap (y : Nat) : Bool := y % 4 = 0 && (y % 100 != 0 || y % 400 = 0)

/-- The number of days of a month. -/
def daysIn (month year : Nat) : Nat :=
  match month with
  | 2 => if isLeap year then 29 else 28
  | 4 | 6 | 9 | 11 => 30
  | _ => 31

/-- A date `YYYY-MM-DD` that exists. -/
def dateValue (raw : Raw) (cs : List Char) : Except Failure CivilDate := do
  if cs.length != 10 || cs[4]? != some '-' || cs[7]? != some '-' then
    .error ⟨raw.left, "dates are expected to have the format YYYY-MM-DD"⟩
  let y ← decimalDigits raw (cs.take 4)
  let m ← decimalDigits raw ((cs.drop 5).take 2)
  let d ← decimalDigits raw ((cs.drop 8).take 2)
  if !(0 < m && m < 13 && 0 < d && d ≤ daysIn m y) then .error ⟨raw.left, "impossible date"⟩
  pure ⟨y, m, d⟩

/-- A time `HH:MM:SS` with an optional fraction, and the text after it. -/
def timeValue (raw : Raw) (cs : List Char) : Except Failure (CivilTime × List Char) := do
  let fail := fun {α : Type} (m : String) ↦ (Except.error (Failure.mk raw.left m) : Except Failure α)
  if cs.length < 8 then fail "times are expected to have the format HH:MM:SS[.NNNNNN]"
  let h ← decimalDigits raw (cs.take 2)
  if h > 23 then fail "hour cannot be greater 23"
  if cs[2]? != some ':' then fail "expecting colon between hours and minutes"
  let mi ← decimalDigits raw ((cs.drop 3).take 2)
  if mi > 59 then fail "minutes cannot be greater 59"
  if cs[5]? != some ':' then fail "expecting colon between minutes and seconds"
  let s ← decimalDigits raw ((cs.drop 6).take 2)
  if s > 60 then fail "seconds cannot be greater 60"
  match cs.drop 8 with
  | '.' :: r =>
    let digits := r.takeWhile Char.isDigit
    if digits.isEmpty then fail "need at least one digit after fraction point"
    let kept := digits.take 9
    let frac := kept.foldl (fun v c ↦ v * 10 + (c.toNat - 48)) 0
    pure (⟨h, mi, s, frac * 10 ^ (9 - kept.length), kept.length⟩, r.drop digits.length)
  | rest => pure (⟨h, mi, s, 0, 0⟩, rest)

/-- A date and a time, separated by `T` or a space, and the text after them. -/
def dateTimeValue (raw : Raw) (cs : List Char) : Except Failure (CivilDate × CivilTime × List Char) := do
  if cs.length < 11 then
    .error ⟨raw.left, "local datetimes are expected to have the format YYYY-MM-DDTHH:MM:SS[.NNNNNNNNN]"⟩
  let d ← dateValue raw (cs.take 10)
  let sep := cs[10]?.getD ' '
  if sep != 'T' && sep != 't' && sep != ' ' then
    .error ⟨raw.left, "datetime separator is expected to be T or a space"⟩
  let (t, rest) ← timeValue raw (cs.drop 11)
  pure (d, t, rest)

/-- The offset `±hh:mm` of a point in time, in seconds. -/
def offsetValue (raw : Raw) (sign h1 h2 colon m1 m2 : Char) : Except Failure Int := do
  let fail := fun {α : Type} (m : String) ↦ (Except.error (Failure.mk raw.left m) : Except Failure α)
  let dir : Int ← if sign = '-' then pure (-1) else if sign = '+' then pure 1
    else fail "invalid timezone offset character"
  if colon != ':' then fail "expected a : separator"
  let hours ← decimalDigits raw [h1, h2]
  if hours > 23 then fail "invalid timezone offset hours"
  let minutes ← decimalDigits raw [m1, m2]
  if minutes > 59 then fail "invalid timezone offset minutes"
  pure (dir * ((hours * 3600 + minutes * 60 : Nat) : Int))

/-- The date and time that a leap second `60` names as a point in time: the first second
of the next minute, carried on into the hour, the day, the month and the year. -/
def carrySecond (d : CivilDate) (t : CivilTime) : CivilDate × CivilTime :=
  if t.second < 60 then (d, t)
  else
    let t := { t with second := 0, minute := t.minute + 1 }
    if t.minute < 60 then (d, t)
    else
      let t := { t with minute := 0, hour := t.hour + 1 }
      if t.hour < 24 then (d, t)
      else
        let t := { t with hour := 0 }
        let d := { d with day := d.day + 1 }
        if d.day ≤ daysIn d.month d.year.toNat then (d, t)
        else
          let d := { d with day := 1, month := d.month + 1 }
          if d.month ≤ 12 then (d, t) else ({ d with month := 1, year := d.year + 1 }, t)

/-- A point in time: a date and time with an offset. A leap second is carried into the next
minute, as a point in time has none. -/
def instantValue (raw : Raw) : Except Failure Datum := do
  let fail := fun {α : Type} (m : String) ↦ (Except.error (Failure.mk raw.left m) : Except Failure α)
  let (d, t, rest) ← dateTimeValue raw raw.text
  let (d, t) := carrySecond d t
  match rest with
  | [sign, h1, h2, colon, m1, m2] =>
    let offset ← offsetValue raw sign h1 h2 colon m1 m2
    pure (.instant d t offset (offset = 0))
  | z :: more =>
    if z = 'Z' || z = 'z' then
      if more.isEmpty then pure (.instant d t 0 true) else fail "extra bytes at the end of the timezone"
    else fail "invalid date-time timezone"
  | [] => fail "invalid date-time timezone"

/-! ### Values -/

/-- The tree `t` with `f` applied at the names `ks`, making maps on the way; a name that
holds an array of tables leads into its last table. -/
def modifyAt (t : Tree) : List String → (Option Datum → Datum) → Tree
  | [], _ => t
  | [k], f => Datum.insertEntry t k (f (Datum.lookup t k))
  | k :: ks, f =>
    let child := match Datum.lookup t k with
      | some (.map sub) => Datum.map (modifyAt sub ks f)
      | some (.list xs) =>
        .list (xs.dropLast ++ match xs.getLast? with
          | some (.map sub) => [.map (modifyAt sub ks f)]
          | some other => [other]
          | none => [])
      | _ => .map (modifyAt [] ks f)
    Datum.insertEntry t k child

mutual

/-- The datum of a value. -/
def Value.toDatum : Value → Except Failure Datum
  | .string s => .ok (.text s)
  | .bool b => .ok (.bool b)
  | .integer raw => (Datum.int64 ·) <$> integerValue raw
  | .float raw => Datum.float <$> floatValue raw
  | .localDate raw => Datum.localDate <$> dateValue raw raw.text
  | .localTime raw => do
    let (t, rest) ← timeValue raw raw.text
    if !rest.isEmpty then .error ⟨raw.left, "extra characters at the end of a local time"⟩
    pure (.localTime t)
  | .localDateTime raw => do
    let (d, t, rest) ← dateTimeValue raw raw.text
    if !rest.isEmpty then .error ⟨raw.left, "extra characters at the end of a local date time"⟩
    pure (.localDateTime d t)
  | .dateTime raw => instantValue raw
  | .array items => Datum.list <$> Value.itemsToData items
  | .inlineTable entries => Datum.map <$> Value.entriesToTree entries []

/-- The data of the items of an array. -/
def Value.itemsToData : List Value → Except Failure (List Datum)
  | [] => .ok []
  | v :: rest => do
    let d ← v.toDatum
    let ds ← Value.itemsToData rest
    pure (d :: ds)

/-- The tree of the entries of an inline table, added to `t`. -/
def Value.entriesToTree : List (List String × Value) → Tree → Except Failure Tree
  | [], t => .ok t
  | (k, v) :: rest, t => do
    let d ← v.toDatum
    Value.entriesToTree rest (modifyAt t k fun _ ↦ d)

end

/-! ### Keys defined -/

/-- What a key was defined as. -/
inductive KeyKind where
  | table
  | arrayTable
  | value
  deriving DecidableEq, Repr

/-- The name of what a key was defined as. -/
def KeyKind.name : KeyKind → String
  | .table => "table"
  | .arrayTable => "array table"
  | .value => "value"

/-- A key defined so far: its full path, what it is, and whether a header or the end of
its table fixed it. -/
structure KeyEntry where
  /-- The names from the top. -/
  path : List String
  /-- What it is. -/
  kind : KeyKind
  /-- Whether it may no longer be extended by a header or dotted keys. -/
  explicit : Bool

/-- The keys defined so far and the table that key-value pairs go into. -/
structure Keys where
  /-- The keys defined. -/
  entries : List KeyEntry := []
  /-- The path of the current table. -/
  current : List String := []

namespace Keys

/-- The entry of a path. -/
def find? (s : Keys) (p : List String) : Option KeyEntry := s.entries.find? (·.path = p)

/-- Adds an entry. -/
def add (s : Keys) (p : List String) (kind : KeyKind) (explicit : Bool) : Keys :=
  { s with entries := s.entries ++ [⟨p, kind, explicit⟩] }

/-- Changes the entry of a path. -/
def modify (s : Keys) (p : List String) (f : KeyEntry → KeyEntry) : Keys :=
  { s with entries := s.entries.map fun e ↦ if e.path = p then f e else e }

/-- Whether `p` lies strictly below `q`. -/
def isBelow (p q : List String) : Bool := q.isPrefixOf p && p.length > q.length

/-- Fixes every key below the current table. -/
def fixCurrent (s : Keys) : Keys :=
  { s with entries := s.entries.map fun e ↦
      if isBelow e.path s.current then { e with explicit := true } else e }

/-- Walks the names of a header before its last, making the tables on the way. -/
def headerWay (s : Keys) : List String → List String → Except String Keys
  | [], _ => .ok s
  | k :: ks, pre =>
    let p := pre ++ [k]
    match s.find? p with
    | none => headerWay (s.add p .table false) ks p
    | some e =>
      if e.kind = .value then .error ("toml: expected " ++ k ++ " to be a table, not a " ++ e.kind.name)
      else headerWay s ks p

/-- Checks a table header. -/
def table (s : Keys) (key : List String) : Except String Keys := do
  let s := s.fixCurrent
  let s ← s.headerWay key.dropLast []
  let k := key.getLast?.getD ""
  match s.find? key with
  | some e =>
    if e.kind != .table then .error ("toml: key " ++ k ++ " should be a table, not a " ++ e.kind.name)
    else if e.explicit then .error ("toml: table " ++ k ++ " already exists")
    else pure { s.modify key (fun e ↦ { e with explicit := true }) with current := key }
  | none => pure { s.add key .table true with current := key }

/-- Checks an array-of-tables header; a new table of the array starts with no keys. -/
def arrayTable (s : Keys) (key : List String) : Except String Keys := do
  let s := s.fixCurrent
  let s ← s.headerWay key.dropLast []
  let k := key.getLast?.getD ""
  match s.find? key with
  | some e =>
    if e.kind != .arrayTable then
      .error ("toml: key " ++ e.kind.name ++ " already exists as a " ++ k ++ ",  but should be an array table")
    else pure { s with entries := s.entries.filter (fun e ↦ !isBelow e.path key), current := key }
  | none => pure { s.add key .arrayTable true with current := key }

mutual

/-- Checks the dotted key of a key-value pair below `base`, and its value. -/
def keyValue (s : Keys) (base : List String) (key : List String) (v : Value) : Except String Keys := do
  let s ← Keys.keyWay s base key
  let s := s.modify (base ++ key) fun e ↦ { e with kind := .value }
  match v with
  | .inlineTable entries => do
    let _ ← Keys.inline {} entries
    pure s
  | .array items => do
    Keys.array items
    pure s
  | _ => pure s

/-- Walks the names of a dotted key, making the tables on the way; the last must be new. -/
def keyWay (s : Keys) (pre : List String) : List String → Except String Keys
  | [] => .ok s
  | k :: ks =>
    let p := pre ++ [k]
    match s.find? p with
    | none => Keys.keyWay (s.add p .table false) p ks
    | some e =>
      if ks.isEmpty then .error ("toml: key " ++ k ++ " is already defined")
      else if e.kind != .table then .error ("toml: expected " ++ k ++ " to be a table, not a " ++ e.kind.name)
      else if e.explicit then
        .error ("toml: cannot redefine table " ++ k ++ " that has already been explicitly defined")
      else Keys.keyWay s p ks

/-- Checks the entries of an inline table, each key once. -/
def inline (s : Keys) : List (List String × Value) → Except String Keys
  | [] => .ok s
  | (k, v) :: rest => do
    let s ← Keys.keyValue s [] k v
    Keys.inline s rest

/-- Checks the inline tables inside an array. -/
def array : List Value → Except String Unit
  | [] => .ok ()
  | .inlineTable entries :: rest => do
    let _ ← Keys.inline {} entries
    Keys.array rest
  | .array items :: rest => do
    Keys.array items
    Keys.array rest
  | _ :: rest => Keys.array rest

end

end Keys

/-! ### Documents -/

/-- The state of reading a document: the tree so far, the keys defined and the current
table. -/
structure Reading where
  /-- The tree read so far. -/
  tree : Tree := []
  /-- The keys defined. -/
  keys : Keys := {}

/-- Applies one expression. -/
def Reading.apply (r : Reading) : Expression → Except Fault Reading
  | .table key => do
    let keys ← (r.keys.table key).mapError Fault.conflict
    let tree := modifyAt r.tree key fun
      | some (.map m) => .map m
      | some other => other
      | none => .map []
    pure { tree, keys }
  | .arrayTable key => do
    let keys ← (r.keys.arrayTable key).mapError Fault.conflict
    let tree := modifyAt r.tree key fun
      | some (.list xs) => .list (xs ++ [.map []])
      | _ => .list [.map []]
    pure { tree, keys }
  | .keyValue key v => do
    let keys ← (r.keys.keyValue r.keys.current key v).mapError Fault.conflict
    let d ← v.toDatum.mapError Fault.located
    pure { tree := modifyAt r.tree (r.keys.current ++ key) fun _ ↦ d, keys }

/-- Reads the expressions of a document one after another; `fuel` bounds their number. -/
def Reading.run : Nat → Reading → List Char → Except Fault Reading
  | 0, r, _ => .ok r
  | fuel + 1, r, cs =>
    match Reader.next (cs.length + 1) cs with
    | .error f => .error (.located f)
    | .ok none => .ok r
    | .ok (some (e, rest)) => do
      let r ← r.apply e
      Reading.run fuel r rest

/-- The line of a document on which the text with `left` characters to its end starts. -/
def lineAt (doc : List Char) (left : Nat) : Nat :=
  1 + ((doc.take (doc.length - left)).filter (· = '\n')).length

/-- Reads a TOML document, given as its bytes, into a tree of settings, or gives the line of
the fault (zero when it has none) and its message. -/
def decode (src : ByteArray) : Except (Nat × String) Tree :=
  let cs := src.toList.map fun b ↦ Char.ofNat b.toNat
  match Reading.run (cs.length + 1) {} cs with
  | .ok r => .ok r.tree
  | .error (.located f) => .error (lineAt cs f.left, "toml: " ++ f.message)
  | .error (.conflict m) => .error (0, m)

end LuaDebugger.Toml
