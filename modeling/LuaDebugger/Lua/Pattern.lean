import LuaDebugger.CoreInstances
/-!
# Patterns

The patterns of the string functions `find`, `match`, `gmatch` and `gsub`. A pattern is read
once into a small program of matching instructions, which a backtracking machine then runs
against the subject at each starting position in turn.

Reading a pattern:

* a single class is `.` (any byte), `%x` (a class named by a letter, or the byte `x`
  itself), a set `[...]`, or any other byte, which stands for itself;
* a set may start with `^` (its complement); inside it `%x` is a class, `a-z` a range of
  bytes, and a range with a named class at either end matches nothing; a `]` right after
  the opening bracket, or after `^`, and a `-` at either end are plain bytes;
* `*` (longest), `-` (shortest), `+` (one or more) and `?` (optional) repeat the single
  class before them, and are plain bytes anywhere else;
* `( … )` captures, `()` captures the position, `%1`…`%9` repeat a capture, `%bxy` is a
  run balanced between the bytes `x` and `y`; `^` first anchors the match and `$` last ties
  it to the end of the subject; elsewhere both are plain bytes, and so is `%f`.

A pattern that cannot be read fails with the place where the reader stood, counted from 0:
`unexpected EOS at 1` for `[a`, `invalid ')' at 0` for `a)`, `invalid capture index at 0`
for `%0`, `unfinished capture at EOS` for `(a`. Repeating a capture that is not closed yet
fails while matching, with `invalid capture index`.

Character classes are those of plain ASCII: `%a` letters, `%c` control characters, `%d`
digits, `%l` lower case, `%p` punctuation, `%s` spaces, `%u` upper case, `%w` letters and
digits, `%x` hexadecimal digits, `%z` the zero byte, each upper-case letter the complement.
-/

namespace LuaDebugger.Lua

namespace Pattern

/-- The place a reading fault is reported at: a position of the pattern, its end, or none. -/
inductive Place where
  | at (pos : Nat)
  | atEnd
  | nowhere
  deriving Inhabited, DecidableEq

/-- Why a search failed: a pattern that cannot be read or a capture that cannot be repeated,
with the text of the fault; or a repeated capture whose end lies before its start, which
stops the whole program with a fault of slicing. -/
inductive Failure where
  | malformed (place : Place) (message : String)
  | slice (start stop : Nat)
  deriving Inhabited

namespace Failure

/-- The text of a failure. -/
def text : Failure → String
  | .malformed (.at p) m => m ++ " at " ++ toString p
  | .malformed .atEnd m => m ++ " at EOS"
  | .malformed .nowhere m => m
  | .slice a b => "runtime error: slice bounds out of range [" ++ toString a ++ ":" ++
      toString b ++ "]"

end Failure

/-- Whether a byte belongs to the class named by a letter; any other byte names itself. -/
def classMatches (c : Int) (cl : Int) : Bool :=
  let lower := if 65 ≤ cl ∧ cl ≤ 90 then cl + 32 else cl
  let isUpperLetter := 65 ≤ c ∧ c ≤ 90
  let isLowerLetter := 97 ≤ c ∧ c ≤ 122
  let isDigit := 48 ≤ c ∧ c ≤ 57
  let isSpace := c = 32 ∨ (9 ≤ c ∧ c ≤ 13)
  let isCtrl := (0 ≤ c ∧ c < 32) ∨ c = 127
  let isAlpha := isUpperLetter ∨ isLowerLetter
  let res : Option Bool := match lower with
    | 97 => some isAlpha
    | 99 => some isCtrl
    | 100 => some isDigit
    | 108 => some isLowerLetter
    | 112 => some (33 ≤ c ∧ c ≤ 126 ∧ ¬isAlpha ∧ ¬isDigit)
    | 115 => some isSpace
    | 117 => some isUpperLetter
    | 119 => some (isAlpha ∨ isDigit)
    | 120 => some (isDigit ∨ (97 ≤ c ∧ c ≤ 102) ∨ (65 ≤ c ∧ c ≤ 70))
    | 122 => some (c = 0)
    | _ => none
  match res with
  | some r => if 65 ≤ cl ∧ cl ≤ 90 then !r else r
  | none => cl == c

/-- A class that stands alone: one byte, or the class named by the letter after `%`. The
end of the pattern is read as `-1`, which no byte matches. -/
inductive Atom where
  | byte (c : Int)
  | named (c : Int)
  deriving Inhabited

/-- An item of a set: a class, a range of bytes, or a range with a class at one of its ends,
which matches nothing. -/
inductive SetItem where
  | atom (a : Atom)
  | range (lo hi : Int)
  | never
  deriving Inhabited

/-- A single class. -/
inductive Class where
  | any
  | atom (a : Atom)
  | set (negated : Bool) (items : List SetItem)
  deriving Inhabited

/-- Whether a byte matches an atom. -/
def Atom.matches (c : Int) : Atom → Bool
  | .byte b => b == c
  | .named n => classMatches c n

/-- Whether a byte matches an item of a set. -/
def SetItem.matches (c : Int) : SetItem → Bool
  | .atom a => a.matches c
  | .range lo hi => lo ≤ c ∧ c ≤ hi
  | .never => false

/-- Whether a byte matches a class. -/
def Class.matches (c : Int) : Class → Bool
  | .any => true
  | .atom a => a.matches c
  | .set negated items => if items.any (·.matches c) then !negated else negated

/-- An instruction of a compiled pattern. -/
inductive Op where
  /-- Takes one byte of the class. -/
  | single (cl : Class)
  /-- The match succeeds here. -/
  | done
  /-- The match succeeds here if the subject ends here. -/
  | doneAtEnd
  | jump (target : Nat)
  /-- Tries the first target, and the second when that fails. -/
  | fork (first second : Nat)
  /-- Records the position in a capture slot. -/
  | mark (slot : Nat)
  /-- Records a position capture, counted from 1, in a slot and the one after it. -/
  | markPosition (slot : Nat)
  /-- Takes a run that starts with `openB` and ends at the `closeB` that balances it. -/
  | balanced (openB closeB : Int)
  /-- Takes the text of capture `n` again. -/
  | again (n : Nat)
  deriving Inhabited

/-- A compiled pattern. -/
structure Program where
  code : Array Op
  /-- Whether the pattern is anchored at the start of the search. -/
  anchored : Bool
  deriving Inhabited

/-! ### Reading a pattern -/

/-- A reader over the bytes of a pattern. `pos` is the position of the byte read last, and
`-1` once the end has been read; before the first byte is read it is `0`. -/
structure Scanner where
  src : ByteArray
  pos : Int := 0
  started : Bool := false
  deriving Inhabited

namespace Scanner

/-- The position the next byte would be read from, `-1` at the end. -/
def nextPos (sc : Scanner) : Int :=
  if sc.pos = -1 ∨ sc.pos ≥ (sc.src.size : Int) - 1 then -1
  else if !sc.started then 0 else sc.pos + 1

/-- The byte at a position, `-1` for the end. -/
def byteAt (sc : Scanner) (p : Int) : Int :=
  if p < 0 then -1 else ((sc.src[p.toNat]?).map (·.toNat)).getD (-1)

/-- Reads the next byte, `-1` at the end. -/
def next (sc : Scanner) : Int × Scanner :=
  let sc :=
    if !sc.started then { sc with started := true, pos := if sc.src.size = 0 then -1 else sc.pos }
    else { sc with pos := sc.nextPos }
  (sc.byteAt sc.pos, sc)

/-- The next byte, without reading it; at the end the position rests on the last byte. -/
def peek (sc : Scanner) : Int × Scanner :=
  let (ch, after) := sc.next
  if sc.pos = -1 then (ch, after)
  else if after.pos = -1 then (ch, { after with pos := (sc.src.size : Int) - 1 })
  else if after.pos - 1 < 0 then (ch, { after with pos := 0, started := false })
  else (ch, { after with pos := after.pos - 1 })

/-- The place of the byte read last. -/
def place (sc : Scanner) : Place :=
  if sc.pos < 0 then .atEnd else .at sc.pos.toNat

end Scanner

/-- The state of the reader of a pattern: the scanner, the code so far, the next free
capture slot (slots 0 and 1 hold the whole match), and the class of the last item when it
is a single class, which a repetition after it then takes. -/
structure Reading where
  sc : Scanner
  code : Array Op := #[]
  nextSlot : Nat := 2
  last : Option Class := none
  tied : Bool := false
  deriving Inhabited

/-- The reader's monad. -/
abbrev ReadM := StateT Reading (Except Failure)

namespace ReadM

/-- Reads the next byte. -/
def next : ReadM Int := modifyGet fun r ↦ let (c, sc) := r.sc.next; (c, { r with sc := sc })

/-- The next byte, unread. -/
def peek : ReadM Int := modifyGet fun r ↦ let (c, sc) := r.sc.peek; (c, { r with sc := sc })

/-- Fails at the reader's place. -/
def fault (message : String) : ReadM α := do
  throw (.malformed (← get).sc.place message)

/-- Adds an instruction. -/
def emit (op : Op) : ReadM Unit := modify fun r ↦ { r with code := r.code.push op }

/-- Adds a single class, which a repetition may then take. -/
def emitSingle (cl : Class) : ReadM Unit :=
  modify fun r ↦ { r with code := r.code.push (.single cl), last := some cl }

/-- Records that the last item is not a single class. -/
def notSingle : ReadM Unit := modify fun r ↦ { r with last := none }

end ReadM

open ReadM

/-- Reads a class inside a set: `%x`, or one byte. -/
def readAtom : ReadM Atom := do
  let ch ← next
  if ch = 37 then return .named (← next)
  else if ch = -1 then fault "unexpected EOS"
  else return .byte ch

/-- Adds an item to a set; after a `-` it closes a range with the item before it. -/
def addItem (items : Array SetItem) (a : Atom) (ranging : Bool) : Array SetItem :=
  if ranging then
    let lo := items.back?.getD .never
    let item := match lo, a with
      | .atom (.byte x), .byte y => SetItem.range x y
      | _, _ => SetItem.never
    items.pop.push item
  else items.push (.atom a)

/-- Reads the items of a set after its `[` (and `^`), up to its `]`. -/
def readItems : Nat → Array SetItem → Bool → ReadM (Array SetItem)
  | 0, items, _ => pure items
  | fuel + 1, items, ranging => do
    let ch ← peek
    if ch = -1 then fault "unexpected EOS"
    else if ch = 93 ∧ items.size > 0 then
      let _ ← next
      return if ranging then items.push (.atom (.byte 45)) else items
    else if ch = 45 ∧ items.size > 0 then
      let _ ← next
      readItems fuel items true
    else
      let a ← readAtom
      readItems fuel (addItem items a ranging) false

/-- Reads a set after its `[`. -/
def readSet (fuel : Nat) : ReadM Class := do
  let negated := (← peek) = 94
  if negated then let _ ← next
  let items ← readItems fuel #[] false
  return .set negated items.toList

/-- Reads a single class where a set may stand. -/
def readClass (fuel : Nat) : ReadM Class := do
  let ch ← next
  if ch = 37 then return .atom (.named (← next))
  else if ch = 46 then return .any
  else if ch = 91 then readSet fuel
  else if ch = -1 then fault "unexpected EOS"
  else return .atom (.byte ch)

/-- Turns the single class just added into a repetition by `op` (one of `* + - ?`). -/
def emitRepeat (cl : Class) (op : Int) : ReadM Unit := do
  modify fun r ↦ { r with code := r.code.pop, last := none }
  let n := (← get).code.size
  if op = 42 then
    emit (.fork (n + 1) (n + 3)); emit (.single cl); emit (.jump n)
  else if op = 43 then
    emit (.single cl); emit (.fork n (n + 2))
  else if op = 45 then
    emit (.fork (n + 3) (n + 1)); emit (.single cl); emit (.jump n)
  else
    emit (.fork (n + 1) (n + 2)); emit (.single cl)

/-- Reads a sequence of items and compiles it: the whole pattern when `top`, else the body of
a capture, which ends before its `)`. -/
def readSeq : Nat → Bool → ReadM Unit
  | 0, _ => pure ()
  | fuel + 1, top => do
    let ch ← peek
    if ch = 37 then
      let saved := (← get).sc
      let _ ← next
      let c ← peek
      if c = 48 then fault "invalid capture index"
      else if 49 ≤ c ∧ c ≤ 57 then
        let n ← next
        emit (.again (n - 48).toNat); notSingle
      else if c = 98 then
        let _ ← next
        let a ← next
        let b ← next
        emit (.balanced a b); notSingle
      else
        modify fun r ↦ { r with sc := saved }
        emitSingle (← readClass fuel)
      readSeq fuel top
    else if ch = 46 ∨ ch = 91 then
      emitSingle (← readClass fuel)
      readSeq fuel top
    else if ch = 41 then
      if top then fault "invalid ')'" else pure ()
    else if ch = 40 then
      let _ ← next
      let slot := (← get).nextSlot
      modify fun r ↦ { r with nextSlot := slot + 2 }
      if (← peek) = 41 then
        let _ ← next
        emit (.markPosition slot)
      else
        emit (.mark slot); notSingle
        readSeq fuel false
        if (← peek) ≠ 41 then fault "unfinished capture"
        let _ ← next
        emit (.mark (slot + 1))
      notSingle
      readSeq fuel top
    else if ch = 42 ∨ ch = 43 ∨ ch = 45 ∨ ch = 63 then
      let _ ← next
      match (← get).last with
      | some cl => emitRepeat cl ch
      | none => emitSingle (.atom (.byte ch))
      readSeq fuel top
    else if ch = 36 then
      let np := (← get).sc.nextPos
      let size : Int := (← get).sc.src.size
      if top ∧ (np = size - 1 ∨ np = -1) then modify fun r ↦ { r with tied := true }
      else emitSingle (.atom (.byte 36))
      let _ ← next
      readSeq fuel top
    else if ch = -1 then
      let _ ← next
      pure ()
    else
      let _ ← next
      emitSingle (.atom (.byte ch))
      readSeq fuel top

/-- Compiles a pattern. -/
def compile (pat : ByteArray) : Except Failure Program := do
  let fuel := 2 * pat.size + 4
  let start : Reading := { sc := { src := pat } }
  let (anchored, r) ← (do
      let c ← peek
      if c = 94 then let _ ← next
      readSeq fuel true
      return c = 94 : ReadM Bool).run start
  let code := r.code.push (if r.tied then .doneAtEnd else .done)
  return { code, anchored }

/-! ### Running a program -/

/-- A capture slot: a position, and whether it is a position capture. -/
structure Mark where
  pos : Nat := 0
  isPosition : Bool := false
  deriving Inhabited

/-- The capture slots of a match in progress; a slot is created, empty, when it or a later
one is first written. -/
abbrev Marks := Array Mark

/-- Writes slot `s`, creating the slots up to it: the new slots and the old value. -/
def setMark (ms : Marks) (s pos : Nat) : Marks × Mark :=
  let ms := if s < ms.size then ms else ms ++ Array.replicate (s + 1 - ms.size) (default : Mark)
  (ms.set! s { pos }, ms[s]?.getD default)

/-- Writes a position capture into slots `s` and `s + 1`. -/
def setPosition (ms : Marks) (s pos : Nat) : Marks :=
  let ms := if s + 1 < ms.size then ms else ms ++ Array.replicate (s + 2 - ms.size) (default : Mark)
  (ms.set! s { pos, isPosition := true }).set! (s + 1) { pos, isPosition := true }

/-- What running a program from a position gave: whether it matched, where it stopped, and
the capture slots, which keep what failed attempts wrote into them. -/
structure Run where
  ok : Bool
  stop : Nat
  marks : Marks
  deriving Inhabited

/-- The end of a balanced run from `j` with `depth` open bytes, if it closes. -/
def balanceFrom (src : ByteArray) (openB closeB : Int) (j depth : Nat) : Option Nat :=
  if h : j < src.size then
    let c : Int := src[j].toNat
    let depth := if c = closeB then depth - 1 else depth
    if depth = 0 then some (j + 1)
    else balanceFrom src openB closeB (j + 1) (if c = openB then depth + 1 else depth)
  else none
termination_by src.size - j

/-- Runs the program from instruction `pc` at subject position `sp`. -/
def exec (src : ByteArray) (code : Array Op) : Nat → Nat → Nat → Marks → Except Failure Run
  | 0, _, sp, ms => pure ⟨false, sp, ms⟩
  | fuel + 1, pc, sp, ms =>
    match code[pc]? with
    | none => pure ⟨false, sp, ms⟩
    | some (.single cl) =>
      match src[sp]? with
      | some b => if cl.matches b.toNat then exec src code fuel (pc + 1) (sp + 1) ms
                  else pure ⟨false, sp, ms⟩
      | none => pure ⟨false, sp, ms⟩
    | some .done => pure ⟨true, sp, ms⟩
    | some .doneAtEnd => pure ⟨sp ≥ src.size, sp, ms⟩
    | some (.jump t) => exec src code fuel t sp ms
    | some (.fork a b) => do
      let r ← exec src code fuel a sp ms
      if r.ok then pure r else exec src code fuel b sp r.marks
    | some (.mark s) => do
      let (ms, old) := setMark ms s sp
      let r ← exec src code fuel (pc + 1) sp ms
      if r.ok then pure r else pure ⟨false, sp, r.marks.set! s old⟩
    | some (.markPosition s) => exec src code fuel (pc + 1) sp (setPosition ms s (sp + 1))
    | some (.balanced a b) =>
      match src[sp]? with
      | some c =>
        if (c.toNat : Int) ≠ a then pure ⟨false, sp, ms⟩
        else
          match balanceFrom src a b (sp + 1) 1 with
          | some e => exec src code fuel (pc + 1) e ms
          | none => pure ⟨false, src.size, ms⟩
      | none => pure ⟨false, sp, ms⟩
    | some (.again n) =>
      let idx := 2 * n
      if (idx : Int) ≥ (ms.size : Int) - 1 then throw (.malformed .nowhere "invalid capture index")
      else
        let a := (ms[idx]?.getD default).pos
        let b := (ms[idx + 1]?.getD default).pos
        if a > b then throw (.slice a b)
        else
          let piece := src.extract a b
          if sp + piece.size ≤ src.size ∧ src.extract sp (sp + piece.size) == piece then
            exec src code fuel (pc + 1) (sp + piece.size) ms
          else pure ⟨false, sp, ms⟩

/-- A match: the capture slots, slot 0 and 1 holding where the whole match starts and ends. -/
structure Match where
  marks : Marks
  deriving Inhabited

/-- The value of a capture. -/
inductive Captured where
  | text (b : ByteArray)
  | position (n : Nat)
  deriving Inhabited

namespace Match

/-- Where the match starts, counted from 0. -/
def start (m : Match) : Nat := (m.marks[0]?.getD default).pos

/-- Where the match ends. -/
def stop (m : Match) : Nat := (m.marks[1]?.getD default).pos

/-- How many slots the match has; two more for each capture. -/
def slots (m : Match) : Nat := m.marks.size

/-- The value of the capture in slot `i` and the slot after it. -/
def slotValue (m : Match) (src : ByteArray) (i : Nat) : Captured :=
  let a := m.marks[i]?.getD default
  if a.isPosition then .position a.pos
  else .text (src.extract a.pos (m.marks[i + 1]?.getD default).pos)

/-- The values of the captures, in the order of their opening brackets. -/
def captures (m : Match) (src : ByteArray) : Array Captured :=
  ((List.range ((m.slots - 2) / 2)).map fun k ↦ m.slotValue src (2 * k + 2)).toArray

end Match

/-- The steps a run of the program may take from one starting position. -/
def stepBound (src : ByteArray) (p : Program) : Nat := (p.code.size + 2) * (src.size + 2) * 64

/-- Searches from position `offset` on: each position is tried in turn, and after a match the
search goes on where it ended, or one byte later after an empty match. It stops after the
first attempt of an anchored pattern, and as soon as the number of matches reaches `limit`
(a negative limit never does, and a limit of zero only stops after an attempt that failed). -/
def findAll (src : ByteArray) (p : Program) (offset : Nat) (limit : Int) :
    Except Failure (Array Match) :=
  let rec go (sp : Nat) (acc : Array Match) (fuel : Nat) : Except Failure (Array Match) :=
    match fuel with
    | 0 => pure acc
    | fuel + 1 =>
      if sp > src.size then pure acc
      else do
        let r ← exec src p.code (stepBound src p) 0 sp #[]
        let acc := if r.ok then acc.push ⟨(setMark (setMark r.marks 0 sp).1 1 r.stop).1⟩ else acc
        let sp := if r.ok ∧ r.stop > sp then r.stop else sp + 1
        if (acc.size : Int) = limit ∨ p.anchored then pure acc else go sp acc fuel
  go offset #[] (src.size + 2)

/-- The first match of a pattern in a subject from position `offset`. -/
def find (src pat : ByteArray) (offset : Nat) : Except Failure (Option Match) := do
  let p ← compile pat
  return (← findAll src p offset 1)[0]?

/-- Every match of a pattern in a subject, at most `limit` of them when it is not negative. -/
def allMatches (src pat : ByteArray) (limit : Int) : Except Failure (Array Match) := do
  findAll src (← compile pat) 0 limit

end Pattern

end LuaDebugger.Lua
