import LuaDebugger.Lua.Native
import LuaDebugger.Lua.Meta
import LuaDebugger.Lua.Pattern
import LuaDebugger.Printf
import LuaDebugger.Text.Case
import LuaDebugger.Text.Utf8
/-!
# The string library

Strings are byte strings, and positions count bytes from 1; a negative position counts from
the end. The functions that search (`find`, `match`, `gmatch`, `gsub`) use the patterns of
`Pattern`.

Some rules of this library differ from other implementations of the language, and are kept:

* `byte(s)` without positions gives every byte of `s`;
* `find` with an empty pattern gives `1, 0` wherever it starts;
* `gsub` finds all matches before it replaces any, and a replacement function or table that
  gives `false` or `nil` keeps the match;
* `format` fills its directives from the values as they are. A number chooses its form by
  the verb: an integer verb takes it truncated to a 64-bit integer, a float verb as it is,
  `s` and `q` its text, and any other verb the integer when it is whole. A string is itself
  under every verb but `d` and `i`, where it is its text when it reads as a number and the
  integer 0 when it does not. Other values write their text under the verbs that take text.
-/

namespace LuaDebugger.Lua

namespace Strings

open NativeM

/-- A position of a string of length `len` as an offset from 0: a start position moves back
by one, a negative position counts from the end; the result is at least 0, and an end
position is at most `len`. The arithmetic wraps as that of machine integers, so the least
integer moves back to the greatest. -/
def offset (len : Nat) (i : Int) (start : Bool) : Int :=
  let i := if start ∧ i ≠ 0 then wrapInt64 (i - 1) else i
  let i := if i < 0 then wrapInt64 (len + i + 1) else i
  let i := max 0 i
  if !start ∧ i > len then len else i

/-- `string.len(s)`. -/
def len (args : Array Value) : NativeM Outcome := do
  let s ← checkString args 1
  ret1 (.number (Float.ofNat s.size))

/-- `string.sub(s, i, j)`. -/
def sub (args : Array Value) : NativeM Outcome := do
  let s ← checkString args 1
  let i ← checkInt args 2
  let j ← optInt args 3 (-1)
  let start := offset s.size i true
  let stop := offset s.size j false
  if start ≥ s.size ∨ stop < start then ret1 (.str ByteArray.empty)
  else ret1 (.str (s.extract start.toNat stop.toNat))

/-- `string.byte(s, i, j)`. -/
def byte (args : Array Value) : NativeM Outcome := do
  let s ← checkString args 1
  let i ← optInt args 2 1
  let j ← optInt args 3 (-1)
  let l : Int := s.size
  let start := wrapInt64 (i - 1)
  let start := if start < 0 then wrapInt64 (l + start + 1) else start
  let stop := if j < 0 then wrapInt64 (l + j + 1) else j
  let byteAt (k : Int) : Value := .number (Float.ofNat (s[k.toNat]?.getD 0).toNat)
  if args.size = 2 then
    if start < 0 ∨ start ≥ l then ret0 else ret1 (byteAt start)
  else
    let start := max start 0
    let stop := min stop l
    if stop < 0 ∨ stop ≤ start ∨ start ≥ l then ret0
    else ret ((Array.range (stop - start).toNat).map fun (k : Nat) ↦ byteAt (start + (k : Int)))

/-- `string.char(...)`: each number modulo 256 as a byte. -/
def char (args : Array Value) : NativeM Outcome := do
  let mut out := ByteArray.empty
  for k in [1:args.size + 1] do
    let n ← checkInt args k
    out := out.push (UInt8.ofNat (n % 256).toNat)
  ret1 (.str out)

/-- `string.rep(s, n)`. -/
def rep (args : Array Value) : NativeM Outcome := do
  let s ← checkString args 1
  let n ← checkInt args 2
  if n ≤ 0 then ret1 (.str ByteArray.empty)
  else ret1 (.str ((List.replicate n.toNat s).foldl (· ++ ·) ByteArray.empty))

/-- `string.reverse(s)`. -/
def reverse (args : Array Value) : NativeM Outcome := do
  let s ← checkString args 1
  ret1 (.str ⟨s.toList.reverse.toArray⟩)

/-- Maps the characters of a byte string read as UTF-8, a stray byte becoming the
replacement character; a string of ASCII bytes maps byte by byte. -/
def mapChars (f : Char → Char) (s : ByteArray) : ByteArray :=
  if s.toList.all (· < 128) then
    ⟨s.data.map fun b ↦ (f (Char.ofNat b.toNat)).toNat.toUInt8⟩
  else (String.map f (Text.decodeLossy s)).toUTF8

/-- `string.lower(s)`. -/
def lower (args : Array Value) : NativeM Outcome := do
  let s ← checkString args 1
  ret1 (.str (mapChars Text.lowerSimple s))

/-- `string.upper(s)`. -/
def upper (args : Array Value) : NativeM Outcome := do
  let s ← checkString args 1
  ret1 (.str (mapChars Text.upperSimple s))

/-- `string.dump(f)`. -/
def dump (_args : Array Value) : NativeM Outcome :=
  raise "GopherLua does not support the string.dump"

/-- The outcome of reading or running a pattern: a pattern that cannot be read fails with its
message and the position of the calling frame; a repeated capture that spans backwards
breaks the function, with the bare message of the broken slice. -/
def patternResult (r : Except Pattern.Failure α) : NativeM α :=
  match r with
  | .ok a => pure a
  | .error f@(.slice ..) => raiseRaw f.text
  | .error f => raise f.text

/-- The value of a capture. -/
def capturedValue : Pattern.Captured → Value
  | .text b => .str b
  | .position n => .number (Float.ofNat n)

/-- The values of the captures of a match. -/
def captureValues (s : ByteArray) (f : Pattern.Match) : Array Value :=
  (f.captures s).map capturedValue

/-- The first position of `needle` in `hay` at `from` or after. -/
def indexOf (hay needle : ByteArray) (start : Nat) : Option Nat :=
  let rec go (i : Nat) (fuel : Nat) : Option Nat :=
    match fuel with
    | 0 => none
    | fuel + 1 =>
      if i + needle.size > hay.size then none
      else if hay.extract i (i + needle.size) == needle then some i
      else go (i + 1) fuel
  go start (hay.size + 1)

/-- `string.find(s, pattern, init, plain)`. A plain search that starts past the end of the
subject breaks on the slice it cannot take. -/
def find (args : Array Value) : NativeM Outcome := do
  let s ← checkString args 1
  let pat ← checkString args 2
  if pat.size = 0 then ret #[.number 1, .number 0]
  else
    let init := (offset s.size (← optInt args 3 1) true).toNat
    let plain := args.size = 4 ∧ (arg args 4).truthy
    if plain then
      if init > s.size then
        raiseRaw ("runtime error: slice bounds out of range [" ++ toString init ++ ":" ++
          toString s.size ++ "]")
      match indexOf s pat init with
      | some i => ret #[.number (Float.ofNat (i + 1)), .number (Float.ofNat (i + pat.size))]
      | none => ret1 .nil
    else
      match ← patternResult (Pattern.find s pat init) with
      | none => ret1 .nil
      | some f =>
        ret (#[.number (Float.ofNat (f.start + 1)), .number (Float.ofNat f.stop)] ++
          captureValues s f)

/-- The values a match gives to `match` and to the iterator of `gmatch`: its captures, or
the whole match when it has none. -/
def matchValues (s : ByteArray) (f : Pattern.Match) : Array Value :=
  if f.slots = 2 then #[.str (s.extract f.start f.stop)] else captureValues s f

/-- `string.match(s, pattern, init)`. -/
def «match» (args : Array Value) : NativeM Outcome := do
  let s ← checkString args 1
  let pat ← checkString args 2
  let init ← optInt args 3 1
  let l : Int := s.size
  let start := if init < 0 then l + init + 1 else init
  let start := max 0 (start - 1)
  match ← patternResult (Pattern.find s pat start.toNat) with
  | none => ret1 .nil
  | some f => ret (matchValues s f)

/-- `string.gmatch(s, pattern)`: the shared iterator function and the state it iterates,
which holds every match, found here, at once. -/
def gmatch (args : Array Value) : NativeM Outcome := do
  let s ← checkString args 1
  let pat ← checkString args 2
  let found ← patternResult (Pattern.allMatches s pat (-1))
  let m ← get
  let (h, u) := m.heap.newUserdata { payload := .iteration s found 0 }
  set { m with heap := h }
  ret #[.fn m.gmatchIterFn, .userdata u]

/-- The iterator of `gmatch`: the next match of the state it is given, nothing when there is
none left. Called again after that, it breaks on the index it cannot read. -/
def gmatchIter (args : Array Value) : NativeM Outcome := do
  let m ← get
  match arg args 1 with
  | .userdata u =>
    match (m.heap.userdata.getD u {}).payload with
    | .iteration s found k =>
      set { m with heap := m.heap.modifyUserdata u fun d ↦
        { d with payload := .iteration s found (k + 1) } }
      match found[k]? with
      | some f => ret (matchValues s f)
      | none =>
        if k = found.size then ret0
        else raiseRaw ("runtime error: index out of range [" ++ toString k ++ "] with length " ++
          toString found.size)
    | .bare => raiseRaw "interface conversion: interface \x7b\x7d is nil, not *lua.strMatchData"
  | _ => typeError args 1 "userdata"

/-- The bytes of slot `idx` of a match for a replacement: slot 0 is the whole match, and so
is slot 2 when the match has no captures; a slot past them fails. -/
def capturedText (s : ByteArray) (f : Pattern.Match) (idx : Nat) : NativeM ByteArray := do
  if idx > 2 ∧ idx ≥ f.slots then raise "invalid capture index"
  let idx := if idx = 2 ∧ idx ≥ f.slots then 0 else idx
  match f.slotValue s idx with
  | .position p => pure (toString p).toUTF8
  | .text b => pure b

/-- The replacement text of a match for a replacement string, read from byte `i` on:
`%%` is a percent sign, `%d` a capture, `%x` for any other `x` stays as it is, and so does a
`%` at the end. -/
def expandFrom (s : ByteArray) (f : Pattern.Match) (repl : ByteArray) :
    Nat → Nat → ByteArray → NativeM ByteArray
  | 0, _, out => pure out
  | fuel + 1, i, out =>
    match repl[i]?, repl[i + 1]? with
    | none, _ => pure out
    | some 37, some 37 => expandFrom s f repl fuel (i + 2) (out.push 37)
    | some 37, some c =>
      if 48 ≤ c ∧ c ≤ 57 then do
        let piece ← capturedText s f (2 * (c.toNat - 48))
        expandFrom s f repl fuel (i + 2) (out ++ piece)
      else expandFrom s f repl fuel (i + 2) ((out.push 37).push c)
    | some c, _ => expandFrom s f repl fuel (i + 1) (out.push c)

/-- The replacement text of a match for a replacement string. -/
def expand (s : ByteArray) (f : Pattern.Match) (repl : ByteArray) : NativeM ByteArray :=
  expandFrom s f repl (repl.size + 1) 0 ByteArray.empty

/-- Replaces the given spans of `s` (start, end, text), in order. -/
def splice (s : ByteArray) (pieces : Array (Nat × Nat × ByteArray)) : ByteArray :=
  let (out, pos) := pieces.foldl (fun (acc : ByteArray × Nat) (a, b, t) ↦
    (acc.1 ++ s.extract acc.2 a ++ t, b)) (ByteArray.empty, 0)
  out ++ s.extract pos s.size

/-- The text a replacement value gives, or none to keep the match: a string, the text of a
number, and nothing for any other true value. -/
def replacementText : Value → Option ByteArray
  | .nil | .bool false => none
  | .str b => some b
  | .number x => some (numberText x).toUTF8
  | _ => some ByteArray.empty

/-- The spans replaced so far, with the replacement of match `f` by `v` added. -/
def withReplacement (pieces : Array (Nat × Nat × ByteArray)) (f : Pattern.Match) (v : Value) :
    Array (Nat × Nat × ByteArray) :=
  match replacementText v with
  | some txt => pieces.push (f.start, f.stop, txt)
  | none => pieces

/-- Goes on with `gsub` with a function or a table from match `k`: a function is called
with the captures of the match; a table is read at the first capture, or at the whole match,
and a lookup that calls a metamethod waits for it. -/
def gsubFrom (s : ByteArray) (found : Array Pattern.Match) (repl : Value) (k : Nat)
    (pieces : Array (Nat × Nat × ByteArray)) : NativeM Outcome := do
  if h : k < found.size then
    let f := found[k]
    match repl with
    | .table t =>
      let key : Value := if f.slots > 2 then capturedValue (f.slotValue s 2)
        else .str (s.extract f.start f.stop)
      match (← get).index (.table t) key with
      | .value v => gsubFrom s found repl (k + 1) (withReplacement pieces f v)
      | .call g gargs => pure (.call g gargs (.gsub s found repl k pieces))
      | .test g gargs _ => pure (.call g gargs (.gsub s found repl k pieces))
      | .fail msg => raiseBytes msg
    | _ =>
      let fargs := if f.slots > 2 then captureValues s f else #[.str (s.extract f.start f.stop)]
      pure (.call repl fargs (.gsub s found repl k pieces))
  else ret #[.str (splice s pieces), .number (Float.ofNat found.size)]
termination_by found.size - k

/-- `string.gsub(s, pattern, repl, n)`: every match is found before any is replaced. Without
a match the subject comes back as it was given, a number staying a number. -/
def gsub (args : Array Value) : NativeM Outcome := do
  let s ← checkString args 1
  let pat ← checkString args 2
  let _ ← checkTypes args 3 ["string", "table", "function"]
  let repl ← checkAny args 3
  let n ← optInt args 4 (-1)
  let found ← patternResult (Pattern.allMatches s pat n)
  if found.isEmpty then ret #[arg args 1, .number 0]
  else
    match repl with
    | .str r =>
      let pieces ← found.mapM fun f ↦ do pure (f.start, f.stop, ← expand s f r)
      ret #[.str (splice s pieces), .number (Float.ofNat found.size)]
    | _ => gsubFrom s found repl 0 #[]

/-- The number of directives of a format: its `%` signs less its `%%` pairs. -/
def directiveCount (fmt : ByteArray) : Nat :=
  let rec pairs : List UInt8 → Nat
    | 37 :: 37 :: rest => 1 + pairs rest
    | _ :: rest => pairs rest
    | [] => 0
  let cs := fmt.toList
  cs.count 37 - pairs cs

/-- A value as an argument of a format: numbers and strings choose their form by the verb,
other values show their text under the verbs that take text. -/
def fmtArg (v : Value) : FmtArg :=
  match v with
  | .nil => .shown "nil" "*lua.LNilType" (.emptyRecord "lua.LNilType")
  | .bool b => .shown (Heap.text v) "lua.LBool" (.bool b)
  | .number x => .chosen "lua.LNumber" (.float x) fun c ↦
    if c = 'q' ∨ c = 's' then (.str (numberText x).toUTF8, c)
    else if "bcdoxXU".contains c then (.int (truncInt x), c)
    else if "eEfFgG".contains c then (.float x, c)
    else if c = 'i' then (.int (truncInt x), 'd')
    else if isIntegral x then (.int (truncInt x), c)
    else (.float x, c)
  | .str s => .chosen "lua.LString" (.str s) fun c ↦
    if c = 'd' ∨ c = 'i' then
      if (parseNumber? s).isSome then (.str s, 's') else (.int 0, 'd')
    else (.str s, c)
  | .table _ => .shown (Heap.text v) "*lua.LTable" (.str (Heap.text v).toUTF8 "*lua.LTable")
  | .fn _ => .shown (Heap.text v) "*lua.LFunction" (.str (Heap.text v).toUTF8 "*lua.LFunction")
  | .thread _ => .shown (Heap.text v) "*lua.LState" (.str (Heap.text v).toUTF8 "*lua.LState")
  | .userdata _ =>
    .shown (Heap.text v) "*lua.LUserData" (.str (Heap.text v).toUTF8 "*lua.LUserData")

/-- `string.format(fmt, ...)`. -/
def format (args : Array Value) : NativeM Outcome := do
  let fmt ← checkString args 1
  let values := (args.extract 1 args.size).toList.take (directiveCount fmt)
  ret1 (.str (Printf.format fmt (values.map fmtArg)))

end Strings

end LuaDebugger.Lua
