import LuaDebugger.Lua.Token
/-!
# Reading Lua source into tokens

The scanner reads bytes. A line break is a line feed or a carriage return, and a pair of
the two in either order counts once; every break reads as a line feed. Blanks between
tokens are spaces and tabs, and line breaks where a token may start; form feeds and
vertical tabs are not blanks. Names are ASCII letters, digits and underscores, not starting
with a digit. A number is a run of decimal digits with an optional fraction and an
optional exponent, or `0x` with hex digits; a leading zero before more digits is dropped.
Strings are quoted, with the escapes `\a \b \f \n \r \t \v \\ \" \'`, an escaped line
break, and up to three decimal digits for a byte; a backslash before any other character
stands for that character, and one at the end of the input for the byte `0xFF`; or long brackets `[[ ... ]]` with any
number of `=` between the brackets, whose first line break is dropped. Comments start with
`--` and run to the line's end, or over a long bracket.

A fault reports where the scanner stands when it sees the problem, and the text read so
far for the token.
-/

namespace LuaDebugger.Lua

/-- The byte of an ASCII character. -/
def byteOf (c : Char) : UInt8 := c.toNat.toUInt8

/-- Where the scanner stands: the bytes still to read, and the position of the last byte
read (`none` once the end has been read). -/
structure Cursor where
  /-- The bytes still to read. -/
  rest : List UInt8
  /-- The position of the last byte read. -/
  pos : Option Pos
  deriving Inhabited

namespace Cursor

/-- A cursor at the start of the bytes. -/
def start (bs : List UInt8) : Cursor := ⟨bs, some ⟨1, 0⟩⟩

/-- The line the cursor stands on, zero past the end. -/
def line (c : Cursor) : Nat := match c.pos with
  | some p => p.line
  | none => 0

/-- The next byte, if any, without reading it. -/
def peek (c : Cursor) : Option UInt8 := c.rest.head?

/-- The byte after the next one. -/
def peek2 (c : Cursor) : Option UInt8 := (c.rest.drop 1).head?

/-- Reads one byte: a line break reads as a line feed and moves to the next line, a pair of
break bytes counting once; past the end it reads nothing and loses the position. -/
def next (c : Cursor) : Option UInt8 × Cursor :=
  match c.rest with
  | [] => (none, ⟨[], none⟩)
  | b :: r =>
    let p := c.pos.getD ⟨1, 0⟩
    if b = 10 ∨ b = 13 then
      let r' := match r with
        | b2 :: r2 => if (b = 10 ∧ b2 = 13) ∨ (b = 13 ∧ b2 = 10) then r2 else r
        | [] => r
      (some 10, ⟨r', some ⟨p.line + 1, 0⟩⟩)
    else (some b, ⟨r, some ⟨p.line, p.col + 1⟩⟩)

end Cursor

/-- A fault at the cursor's position. -/
def faultAt (c : Cursor) (near : List UInt8) (message : String) : SyntaxFault :=
  ⟨c.pos, ⟨near.reverse.toArray⟩, message⟩

/-- Whether a byte may continue a name. -/
def isNameByte (b : UInt8) : Bool :=
  b = byteOf '_' || (byteOf 'a' ≤ b && b ≤ byteOf 'z') || (byteOf 'A' ≤ b && b ≤ byteOf 'Z') ||
    (byteOf '0' ≤ b && b ≤ byteOf '9')

/-- Whether a byte is a decimal digit. -/
def isDecimalByte (b : UInt8) : Bool := byteOf '0' ≤ b && b ≤ byteOf '9'

/-- Whether a byte may start a name. -/
def isNameStart (b : UInt8) : Bool := isNameByte b && !isDecimalByte b

/-- Whether a byte is a hex digit. -/
def isHexByte (b : UInt8) : Bool :=
  isDecimalByte b || (byteOf 'a' ≤ b && b ≤ byteOf 'f') || (byteOf 'A' ≤ b && b ≤ byteOf 'F')

/-- Spaces and tabs. -/
def isSpaceOrTab (b : UInt8) : Bool := b = 32 || b = 9

/-- Spaces, tabs and line breaks. -/
def isBlankOrBreak (b : UInt8) : Bool := b = 32 || b = 9 || b = 10 || b = 13

/-! ### Scanning loops

Every loop reads at least one byte per round, so a budget of one round per byte of input
is enough; the budget is computed from the input by `tokenize`. -/

/-- Reads bytes while the next one satisfies `p`, pushing each onto `acc` (last first). -/
def readWhile (p : UInt8 → Bool) : Nat → Cursor → List UInt8 → List UInt8 × Cursor
  | 0, c, acc => (acc, c)
  | fuel + 1, c, acc =>
    match c.peek with
    | some b =>
      if p b then
        let (ch, c') := c.next
        readWhile p fuel c' ((ch.getD b) :: acc)
      else (acc, c)
    | none => (acc, c)

/-- Reads blanks in the set `blank` and returns the first byte that is not one (read). -/
def skipBlanks (blank : UInt8 → Bool) : Nat → Cursor → Option UInt8 × Cursor
  | 0, c => c.next
  | fuel + 1, c =>
    match c.next with
    | (some b, c') => if blank b then skipBlanks blank fuel c' else (some b, c')
    | (none, c') => (none, c')

/-- Reads `=` signs after `first`, counting them; returns the count and the first other
byte (read). -/
def countLevel : Nat → Cursor → Option UInt8 → Nat → Nat × Option UInt8 × Cursor
  | 0, c, b, n => (n, b, c)
  | fuel + 1, c, first, n =>
    if first = some 61 then
      let (b, c') := c.next
      countLevel fuel c' b (n + 1)
    else (n, first, c)

/-- Reads the body of a long bracket of `level` after its opening, `first` being the byte
just read: bytes up to a closing bracket of the same level. Fails with the text read so far
at the end of the input. -/
def longBody (level : Nat) : Nat → Cursor → Option UInt8 → List UInt8 →
    Except (List UInt8 × Cursor) (List UInt8 × Cursor)
  | 0, c, _, acc => .error (acc, c)
  | fuel + 1, c, first, acc =>
    match first with
    | none => .error (acc, c)
    | some 93 =>
      let (b, c1) := c.next
      let (n, b', c2) := countLevel fuel c1 b 0
      if n = level ∧ b' = some 93 then .ok (acc, c2)
      else longBody level fuel c2 b' (List.replicate n (byteOf '=') ++ 93 :: acc)
    | some b =>
      let (b', c1) := c.next
      longBody level fuel c1 b' (b :: acc)

/-- Reads a long bracket whose `[` has been read and whose next byte is `first` (read):
the level, then `[`, then the body, a line break right after the opening being dropped. -/
def longBracket (fuel : Nat) (c : Cursor) (first : Option UInt8) :
    Except SyntaxFault (List UInt8 × Cursor) :=
  let (level, b, c1) := countLevel fuel c first 0
  if b ≠ some 91 then
    .error (faultAt c1 (match b with
      | some x => (String.singleton (Char.ofNat x.toNat)).toUTF8.toList.reverse
      | none => "�".toUTF8.toList.reverse) "invalid multiline string")
  else
    let (b1, c2) := c1.next
    let (b2, c3) := if b1 = some 10 then c2.next else (b1, c2)
    match longBody level fuel c3 b2 [] with
    | .ok (acc, c4) => .ok (acc, c4)
    | .error (acc, c4) => .error (faultAt c4 acc "unterminated multiline string")

/-- Reads the rest of a quoted string after its opening quote `q`. -/
def quoted (q : UInt8) : Nat → Cursor → List UInt8 → Except SyntaxFault (List UInt8 × Cursor)
  | 0, c, acc => .error (faultAt c acc "unterminated string")
  | fuel + 1, c, acc =>
    let (ch, c1) := c.next
    match ch with
    | none => .error (faultAt c1 acc "unterminated string")
    | some b =>
      if b = q then .ok (acc, c1)
      else if b = 10 then .error (faultAt c1 acc "unterminated string")
      else if b = 92 then
        let (e, c2) := c1.next
        match e with
        | some e =>
          let simple : Option UInt8 :=
            if e = byteOf 'a' then some 7 else if e = byteOf 'b' then some 8
            else if e = byteOf 'f' then some 12 else if e = byteOf 'n' then some 10
            else if e = byteOf 'r' then some 13 else if e = byteOf 't' then some 9
            else if e = byteOf 'v' then some 11 else if e = 92 then some 92
            else if e = 34 then some 34 else if e = 39 then some 39
            else if e = 10 then some 10 else none
          match simple with
          | some v => quoted q fuel c2 (v :: acc)
          | none =>
            if isDecimalByte e then
              let (ds, c3) := readWhile isDecimalByte 2 c2 [e]
              let v := ds.reverse.foldl (fun n d ↦ n * 10 + (d.toNat - 48)) 0
              quoted q fuel c3 (v.toUInt8 :: acc)
            else quoted q fuel c2 (e :: acc)
        | none => quoted q fuel c2 (255 :: acc)
      else quoted q fuel c1 (b :: acc)

/-- Reads the digits of a decimal part, the first byte `first` already read. -/
def decimalRun (fuel : Nat) (c : Cursor) (first : UInt8) (acc : List UInt8) : List UInt8 × Cursor :=
  readWhile isDecimalByte fuel c (first :: acc)

/-- Reads a number whose first byte `first` has been read. -/
def number (fuel : Nat) (c : Cursor) (first : UInt8) : Except SyntaxFault (List UInt8 × Cursor) :=
  let hexMark := c.peek = some (byteOf 'x') ∨ c.peek = some (byteOf 'X')
  if first = byteOf '0' ∧ hexMark then
    let (x, c1) := c.next
    let acc := [x.getD (byteOf 'x'), first]
    let (acc', c2) := readWhile isHexByte fuel c1 acc
    if acc'.length = acc.length then .error (faultAt c2 acc' "illegal hexadecimal number")
    else .ok (acc', c2)
  else
    -- a leading zero before another digit is dropped
    let (first, c) :=
      if first = byteOf '0' ∧ c.peek ≠ some 46 ∧ (c.peek.map isDecimalByte).getD false then
        let (d, c') := c.next
        (d.getD first, c')
      else (first, c)
    let (acc, c) := decimalRun fuel c first []
    let (acc, c) :=
      if c.peek = some 46 then
        let (d, c') := c.next
        decimalRun fuel c' (d.getD 46) acc
      else (acc, c)
    if c.peek = some (byteOf 'e') ∨ c.peek = some (byteOf 'E') then
      let (e, c) := c.next
      let acc := e.getD (byteOf 'e') :: acc
      let (acc, c) :=
        if c.peek = some (byteOf '-') ∨ c.peek = some (byteOf '+') then
          let (s, c') := c.next
          (s.getD (byteOf '+') :: acc, c')
        else (acc, c)
      let (d, c) := c.next
      match d with
      | some d => .ok (decimalRun fuel c d acc)
      | none => .ok (255 :: acc, c)
    else .ok (acc, c)

/-- A token of `kind` with the text `acc` (last byte first), starting on `line`. -/
def tokenOf (kind : TokenKind) (acc : List UInt8) (line : Nat) (c : Cursor) : Token :=
  ⟨kind, ⟨acc.reverse.toArray⟩, line, c.pos⟩

/-- Skips a comment whose `--` has been read; `ch` is the byte just read after them. -/
def comment (fuel : Nat) (c : Cursor) (ch : Option UInt8) : Except SyntaxFault Cursor :=
  let (isLong, c1, first) :=
    if ch = some 91 then
      if c.peek = some 91 ∨ c.peek = some 61 then
        let (b, c') := c.next
        (true, c', b)
      else (false, c, ch)
    else (false, c, ch)
  if isLong then
    match longBracket fuel c1 first with
    | .ok (_, c2) => .ok c2
    | .error e =>
      -- the comment's fault names the text of the comment read so far
      let near := if e.message = "invalid multiline string" then ByteArray.empty else e.near
      .error { e with near := near, message := "invalid multiline comment" }
  else
    -- the rest of the line
    if first = some 10 ∨ first = none then .ok c1
    else .ok (readWhile (fun b ↦ b ≠ 10 ∧ b ≠ 13) fuel c1 []).2

/-- The kind of a one-byte symbol. -/
def symbolKind? (b : UInt8) : Option TokenKind :=
  if b = byteOf '+' then some .plus else if b = byteOf '*' then some .star
  else if b = byteOf '/' then some .slash else if b = byteOf '%' then some .percent
  else if b = byteOf '^' then some .caret else if b = byteOf '#' then some .hash
  else if b = byteOf '(' then some .lparen else if b = byteOf ')' then some .rparen
  else if b = byteOf '{' then some .lbrace else if b = byteOf '}' then some .rbrace
  else if b = byteOf ']' then some .rbracket else if b = byteOf ';' then some .semicolon
  else if b = byteOf ',' then some .comma
  else none

/-- Reads one token. -/
def scan : Nat → Cursor → Except SyntaxFault (Token × Cursor)
  | 0, c => .ok (tokenOf .eof [] 0 c, c)
  | fuel + 1, c =>
    let (ch, c) := skipBlanks isSpaceOrTab fuel c
    let (ch, c) := if ch = some 10 then skipBlanks isBlankOrBreak fuel c else (ch, c)
    let line := c.line
    match ch with
    | none => .ok (tokenOf .eof [] 0 c, c)
    | some b =>
      if isNameStart b then
        let (acc, c) := readWhile isNameByte fuel c [b]
        let text := String.fromUTF8? ⟨acc.reverse.toArray⟩
        let kind := ((text.bind keywordKind?)).getD .name
        .ok (tokenOf kind acc line c, c)
      else if isDecimalByte b then
        match number fuel c b with
        | .ok (acc, c) => .ok (tokenOf .number acc line c, c)
        | .error e => .error e
      else if b = byteOf '-' then
        if c.peek = some (byteOf '-') then
          let (_, c1) := c.next
          let (ch2, c2) := c1.next
          match comment fuel c2 ch2 with
          | .ok c3 => scan fuel c3
          | .error e => .error e
        else .ok (tokenOf .minus [b] line c, c)
      else if b = 34 ∨ b = 39 then
        match quoted b fuel c [] with
        | .ok (acc, c) => .ok (tokenOf .string acc line c, c)
        | .error e => .error e
      else if b = byteOf '[' then
        if c.peek = some 91 ∨ c.peek = some 61 then
          let (first, c1) := c.next
          match longBracket fuel c1 first with
          | .ok (acc, c2) => .ok (tokenOf .string acc line c2, c2)
          | .error e => .error e
        else .ok (tokenOf .lbracket [b] line c, c)
      else if b = byteOf '=' then
        if c.peek = some 61 then
          let (_, c1) := c.next
          .ok (tokenOf .eq [61, 61] line c1, c1)
        else .ok (tokenOf .assign [b] line c, c)
      else if b = byteOf '~' then
        if c.peek = some 61 then
          let (_, c1) := c.next
          .ok (tokenOf .ne [61, 126] line c1, c1)
        else .error (faultAt c [126] "Invalid '~' token")
      else if b = byteOf '<' then
        if c.peek = some 61 then
          let (_, c1) := c.next
          .ok (tokenOf .le [61, 60] line c1, c1)
        else .ok (tokenOf .lt [b] line c, c)
      else if b = byteOf '>' then
        if c.peek = some 61 then
          let (_, c1) := c.next
          .ok (tokenOf .ge [61, 62] line c1, c1)
        else .ok (tokenOf .gt [b] line c, c)
      else if b = byteOf '.' then
        if (c.peek.map isDecimalByte).getD false then
          match number fuel c b with
          | .ok (acc, c) => .ok (tokenOf .number acc line c, c)
          | .error e => .error e
        else if c.peek = some 46 then
          let (_, c1) := c.next
          if c1.peek = some 46 then
            let (_, c2) := c1.next
            .ok (tokenOf .ellipsis [46, 46, 46] line c2, c2)
          else .ok (tokenOf .concat [46, 46] line c1, c1)
        else .ok (tokenOf .dot [] line c, c)
      else if b = byteOf ':' then
        if c.peek = some 58 then
          let (_, c1) := c.next
          .ok (tokenOf .doubleColon [58, 58] line c1, c1)
        else .ok (tokenOf .colon [b] line c, c)
      else match symbolKind? b with
        | some k => .ok (tokenOf k [b] line c, c)
        | none => .error (faultAt c [b] "Invalid token")

/-- A piece of the token stream: a token, or the fault that ends the stream. -/
inductive Lexeme where
  | token (t : Token)
  | fault (e : SyntaxFault)
  deriving Inhabited

/-- All tokens of a chunk, ending with the end token or with the fault that stopped the
scan. -/
def tokenize (src : ByteArray) : Array Lexeme :=
  let fuel := src.size + 2
  let rec go : Nat → Cursor → Array Lexeme → Array Lexeme
    | 0, _, acc => acc.push (.token ⟨.eof, ByteArray.empty, 0, none⟩)
    | n + 1, c, acc =>
      match scan fuel c with
      | .error e => acc.push (.fault e)
      | .ok (t, c') => if t.kind = .eof then acc.push (.token t) else go n c' (acc.push (.token t))
  go fuel (Cursor.start src.toList) #[]

end LuaDebugger.Lua
