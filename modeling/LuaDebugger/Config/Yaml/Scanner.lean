import LuaDebugger.Config.Yaml.Token
/-!
# Scanning a YAML stream

The scanner turns the characters of a stream into tokens, on demand: `Scanner.peek` gives
the next token not yet taken, scanning as far as needed, and `Scanner.next` takes it.

Indentation becomes structure. In the block context the scanner keeps a stack of
indentation columns; a sequence entry `-` or a key at a deeper column opens a block
collection, and a line that starts left of the current column closes collections until the
column fits, each with a block end. Flow collections `[...]` and `{...}` nest by level and
ignore indentation.

A plain or quoted scalar, an alias or a flow collection may turn out to be a simple key, a
key without `?`: the scanner notes where it started, and when a `:` follows on the same
line, within 1024 characters, it puts the key token (and, where the key opens a block
mapping, the mapping's start) back at that place. A key that the indentation requires and
that gets no `:` is a fault. Before handing out a token the scanner looks at least two
tokens ahead, and until the token can no longer start a simple key.

Scalars are read with the folding of the format: line breaks inside a plain or quoted
scalar fold to a space, or to the breaks after the first; a literal block keeps them and a
folded block joins lines of equal indentation; a block's last breaks are clipped, stripped
or kept as its chomping indicator says. Double-quoted scalars know the escapes of the
format.
-/

namespace LuaDebugger.Yaml

/-- Whether a character breaks a line. -/
def isBreak (c : Char) : Bool :=
  c = '\r' || c = '\n' || c.toNat = 0x85 || c.toNat = 0x2028 || c.toNat = 0x2029

/-- Whether a character is a space or a tab. -/
def isBlank (c : Char) : Bool := c = ' ' || c = '\t'

/-- Whether a text starts with a blank or a line break, or is empty. -/
def blankz : List Char → Bool
  | [] => true
  | c :: _ => isBlank c || isBreak c || c.toNat = 0

/-- Whether a text starts with a line break or is empty. -/
def breakz : List Char → Bool
  | [] => true
  | c :: _ => isBreak c || c.toNat = 0

/-- Whether a character may stand in an anchor or a tag handle: a letter, a digit, `_` or
`-`. -/
def isAlpha (c : Char) : Bool := c.isAlphanum || c = '_' || c = '-'

/-- A place where a simple key may have started. -/
structure SimpleKey where
  /-- Whether a key may still start there. -/
  possible : Bool := false
  /-- Whether the indentation requires a key there. -/
  required : Bool := false
  /-- The number of the token that would follow the key. -/
  tokenNumber : Nat := 0
  /-- Where it starts. -/
  mark : Mark := {}
  deriving Inhabited

/-- The state of a scanner. -/
structure Scanner where
  /-- The characters not yet scanned. -/
  rest : List Char
  /-- Where they start. -/
  mark : Mark := {}
  /-- The tokens scanned so far, taken or not. -/
  tokens : Array Token := #[]
  /-- The number of tokens taken. -/
  head : Nat := 0
  /-- Whether the stream start was scanned. -/
  started : Bool := false
  /-- The current indentation column, `-1` at the top. -/
  indent : Int := -1
  /-- The enclosing indentation columns. -/
  indents : List Int := []
  /-- Whether a simple key may start here. -/
  simpleKeyAllowed : Bool := false
  /-- The possible simple keys, one per flow level, the innermost first. -/
  simpleKeys : List SimpleKey := []
  /-- The depth of flow collections. -/
  flowLevel : Nat := 0
  deriving Inhabited

namespace Scanner

/-- A fault of the scanner found here, with its context mark. -/
def fault (s : Scanner) (context : Mark) (problem : String) : Fault := .invalid true context problem s.mark

/-- Moves past `n` characters that break no line. -/
def advance (s : Scanner) (n : Nat) : Scanner :=
  let n := min n s.rest.length
  { s with rest := s.rest.drop n,
           mark := { s.mark with index := s.mark.index + n, column := s.mark.column + n } }

/-- Moves past one character that breaks no line. -/
def skip (s : Scanner) : Scanner := s.advance 1

/-- Moves past a line break, giving the break it stands for: a line feed for a carriage
return, a line feed, both, or a next-line character; the line and paragraph separators
stand for themselves. -/
def readBreak (s : Scanner) : Scanner × List Char :=
  match s.rest with
  | '\r' :: '\n' :: r => ({ s with rest := r, mark := ⟨s.mark.index + 2, s.mark.line + 1, 0⟩ }, ['\n'])
  | c :: r =>
    if isBreak c then
      ({ s with rest := r, mark := ⟨s.mark.index + 1, s.mark.line + 1, 0⟩ },
        if c = '\r' || c = '\n' || c.toNat = 0x85 then ['\n'] else [c])
    else (s, [])
  | [] => (s, [])

/-- Appends a token. -/
def push (s : Scanner) (k : TokenKind) (start stop : Mark) : Scanner :=
  { s with tokens := s.tokens.push ⟨k, start, stop⟩ }

/-- Puts a token at a position among those scanned. -/
def insertAt (s : Scanner) (pos : Nat) (t : Token) : Scanner :=
  { s with tokens := (s.tokens.extract 0 pos).push t ++ s.tokens.extract pos s.tokens.size }

/-- The simple key of the current flow level. -/
def topKey (s : Scanner) : SimpleKey := s.simpleKeys.headD {}

/-- Replaces the simple key of the current flow level. -/
def setTopKey (s : Scanner) (k : SimpleKey) : Scanner :=
  { s with simpleKeys := match s.simpleKeys with
    | [] => [k]
    | _ :: r => k :: r }

/-- Drops the possible simple key of the current level; a required one is a fault. -/
def removeSimpleKey (s : Scanner) : Except Fault Scanner :=
  let k := s.topKey
  if k.possible then
    if k.required then .error (s.fault k.mark "could not find expected ':'")
    else .ok (s.setTopKey { k with possible := false })
  else .ok s

/-- Notes that a simple key may start here. -/
def saveSimpleKey (s : Scanner) : Except Fault Scanner := do
  if s.simpleKeyAllowed then
    let required := s.flowLevel == 0 && s.indent == (s.mark.column : Int)
    let s ← s.removeSimpleKey
    pure (s.setTopKey ⟨true, required, s.tokens.size, s.mark⟩)
  else pure s

/-- Whether a possible simple key is too far behind to be one: on an earlier line or more
than 1024 characters back. -/
def isStale (s : Scanner) (k : SimpleKey) : Bool :=
  k.mark.line < s.mark.line || k.mark.index + 1024 < s.mark.index

/-- Checks the possible simple key at position `i` of the stack: whether it still stands,
dropping it when stale; a stale required key is a fault. -/
def checkKey (s : Scanner) (i : Nat) : Except Fault (Bool × Scanner) :=
  match s.simpleKeys[i]? with
  | none => .ok (false, s)
  | some k =>
    if !k.possible then .ok (false, s)
    else if s.isStale k then
      if k.required then .error (s.fault k.mark "could not find expected ':'")
      else .ok (false, { s with simpleKeys := s.simpleKeys.set i { k with possible := false } })
    else .ok (true, s)

/-- Opens a flow level. -/
def increaseFlowLevel (s : Scanner) : Scanner :=
  { s with simpleKeys := { mark := s.mark } :: s.simpleKeys, flowLevel := s.flowLevel + 1 }

/-- Closes a flow level. -/
def decreaseFlowLevel (s : Scanner) : Scanner :=
  if s.flowLevel > 0 then { s with flowLevel := s.flowLevel - 1, simpleKeys := s.simpleKeys.tail }
  else s

/-- Closes the block collections indented deeper than `column`, each with a block end at
the place before the blanks just skipped. -/
def unrollIndent (s : Scanner) (column : Int) (scanMark : Mark) : Scanner :=
  if s.flowLevel > 0 then s
  else
    let m : Mark := { scanMark with index := scanMark.index - 1 }
    let rec go : Nat → Scanner → Scanner
      | 0, s => s
      | n + 1, s =>
        if s.indent > column then
          let s := s.push .blockEnd m m
          go n { s with indent := s.indents.headD (-1), indents := s.indents.tail }
        else s
    go (s.indents.length + 1) s

/-- Opens a block collection at `column` when it is deeper than the current indentation,
with its start token at token number `number` or at the end. -/
def rollIndent (s : Scanner) (column : Nat) (number : Option Nat) (k : TokenKind) (m : Mark) :
    Scanner :=
  if s.flowLevel > 0 then s
  else if s.indent < (column : Int) then
    let s := { s with indents := s.indent :: s.indents, indent := column }
    match number with
    | some n => s.insertAt n ⟨k, m, m⟩
    | none => s.push k m m
  else s

/-- Moves past blanks and line breaks. -/
def skipWhite : Nat → Scanner → Scanner
  | 0, s => s
  | fuel + 1, s =>
    match s.rest with
    | c :: _ =>
      if isBlank c then skipWhite fuel s.skip
      else if isBreak c then skipWhite fuel s.readBreak.1
      else s
    | [] => s

/-- Moves past a comment up to its line break, and past the comments after it that only
blanks and line breaks separate from it, as long as the next one starts within 512 bytes;
the line break after the last comment stays. -/
def skipComments : Nat → Scanner → Scanner
  | 0, s => s
  | fuel + 1, s =>
    let s := s.advance (s.rest.takeWhile fun c ↦ !isBreak c).length
    let gap := s.rest.takeWhile fun c ↦ isBlank c || isBreak c
    let bytes := gap.foldl (fun n c ↦ n + c.utf8Size) 0
    if bytes < 512 && (s.rest.drop gap.length).head? = some '#' then
      skipComments fuel (skipWhite gap.length s)
    else s

/-- Skips blanks, comments and line breaks up to the next token. In the block context a
tab is skipped only where no simple key may start, and a line break allows one. -/
def toNextToken : Nat → Scanner → Scanner
  | 0, s => s
  | fuel + 1, s =>
    let s := if s.mark.column == 0 && s.rest.head? = some '﻿' then s.skip else s
    let tabs := s.flowLevel > 0 || !s.simpleKeyAllowed
    let s := s.advance (s.rest.takeWhile fun c ↦ c = ' ' || (tabs && c = '\t')).length
    let s := if s.rest.head? = some '#' then skipComments s.rest.length s else s
    match s.rest with
    | c :: _ =>
      if isBreak c then
        let s := s.readBreak.1
        toNextToken fuel (if s.flowLevel == 0 then { s with simpleKeyAllowed := true } else s)
      else s
    | [] => s

/-- Whether a document indicator `---` or `...` starts here, at the start of a line. -/
def atDocumentIndicator (s : Scanner) : Bool :=
  s.mark.column == 0 && match s.rest with
    | a :: b :: c :: r => ((a = '-' && b = '-' && c = '-') || (a = '.' && b = '.' && c = '.')) && blankz r
    | _ => false

/-! ### Scalars -/

/-- What a plain or quoted scalar has gathered: its text, reversed, and the blanks and
breaks waiting to be folded into it. -/
structure Gathered where
  /-- The text so far, reversed. -/
  text : List Char := []
  /-- The first line break of the current run of blanks. -/
  leadingBreak : List Char := []
  /-- The later line breaks of the run. -/
  trailingBreaks : List Char := []
  /-- The blanks of the run before any line break. -/
  whitespaces : List Char := []
  /-- Whether the run holds a line break. -/
  leadingBlanks : Bool := false
  deriving Inhabited

/-- Folds the waiting blanks and breaks into the text: a single line break becomes a space,
further breaks stay; blanks without a break stay as they are. -/
def Gathered.fold (g : Gathered) : Gathered :=
  if g.leadingBlanks then
    let add := if g.leadingBreak.head? = some '\n' then
        (if g.trailingBreaks.isEmpty then [' '] else g.trailingBreaks)
      else g.leadingBreak ++ g.trailingBreaks
    { g with text := add.reverse ++ g.text, leadingBreak := [], trailingBreaks := [],
             leadingBlanks := false }
  else { g with text := g.whitespaces.reverse ++ g.text, whitespaces := [] }

/-- Reads a run of blanks and breaks after the text of a scalar; in a plain scalar, a tab
that starts a continuation line left of `indent` is a fault. -/
def gatherBlanks (plain : Bool) (indent : Int) (start : Mark) :
    Nat → Scanner → Gathered → Except Fault (Scanner × Gathered)
  | 0, s, g => .ok (s, g)
  | fuel + 1, s, g =>
    match s.rest with
    | c :: _ =>
      if isBlank c then
        if plain && g.leadingBlanks && (s.mark.column : Int) < indent && c = '\t' then
          .error (s.fault start "found a tab character that violates indentation")
        else if !g.leadingBlanks then gatherBlanks plain indent start fuel s.skip { g with whitespaces := g.whitespaces ++ [c] }
        else gatherBlanks plain indent start fuel s.skip g
      else if isBreak c then
        let (s, b) := s.readBreak
        if !g.leadingBlanks then
          gatherBlanks plain indent start fuel s { g with whitespaces := [], leadingBreak := b, leadingBlanks := true }
        else gatherBlanks plain indent start fuel s { g with trailingBreaks := g.trailingBreaks ++ b }
      else .ok (s, g)
    | [] => .ok (s, g)

/-- Reads the characters of a plain scalar up to a blank or an indicator that ends it. -/
def plainChars : Nat → Scanner → Gathered → Mark → Scanner × Gathered × Mark
  | 0, s, g, stop => (s, g, stop)
  | fuel + 1, s, g, stop =>
    match s.rest with
    | c :: r =>
      if blankz (c :: r) then (s, g, stop)
      else if (c = ':' && blankz r) || (s.flowLevel > 0 &&
          (c = ',' || c = '?' || c = '[' || c = ']' || c = '{' || c = '}')) then (s, g, stop)
      else
        let g := if g.leadingBlanks || !g.whitespaces.isEmpty then g.fold else g
        let s := s.skip
        plainChars fuel s { g with text := c :: g.text } s.mark
    | [] => (s, g, stop)

/-- Reads the lines of a plain scalar. -/
def plainLines (indent : Int) (start : Mark) :
    Nat → Scanner → Gathered → Mark → Except Fault (Scanner × Gathered × Mark)
  | 0, s, g, stop => .ok (s, g, stop)
  | fuel + 1, s, g, stop =>
    if s.atDocumentIndicator || s.rest.head? = some '#' then .ok (s, g, stop)
    else
      let (s, g, stop) := plainChars s.rest.length s g stop
      match s.rest with
      | c :: _ =>
        if !(isBlank c || isBreak c) then .ok (s, g, stop)
        else do
          let (s, g) ← gatherBlanks true indent start s.rest.length s g
          if s.flowLevel == 0 && (s.mark.column : Int) < indent then .ok (s, g, stop)
          else plainLines indent start fuel s g stop
      | [] => .ok (s, g, stop)

/-- Scans a plain scalar, and whether it ended with a line break. -/
def plainScalar (s : Scanner) : Except Fault (Scanner × Bool) := do
  let start := s.mark
  let (s, g, stop) ← plainLines (s.indent + 1) start (s.rest.length + 1) s {} start
  let s := s.push (.scalar (String.ofList g.text.reverse) .plain) start stop
  pure (s, g.leadingBlanks)

/-- The character a double-quoted escape letter stands for, or the number of hexadecimal
digits of a code that follows it. -/
def escapeOf : Char → Option (Sum Char Nat)
  | '0' => some (.inl (Char.ofNat 0))
  | 'a' => some (.inl (Char.ofNat 7))
  | 'b' => some (.inl (Char.ofNat 8))
  | 't' | '\t' => some (.inl '\t')
  | 'n' => some (.inl '\n')
  | 'v' => some (.inl (Char.ofNat 11))
  | 'f' => some (.inl (Char.ofNat 12))
  | 'r' => some (.inl '\r')
  | 'e' => some (.inl (Char.ofNat 0x1B))
  | ' ' => some (.inl ' ')
  | '"' => some (.inl '"')
  | '\'' => some (.inl '\'')
  | '\\' => some (.inl '\\')
  | 'N' => some (.inl (Char.ofNat 0x85))
  | '_' => some (.inl (Char.ofNat 0xA0))
  | 'L' => some (.inl (Char.ofNat 0x2028))
  | 'P' => some (.inl (Char.ofNat 0x2029))
  | 'x' => some (.inr 2)
  | 'u' => some (.inr 4)
  | 'U' => some (.inr 8)
  | _ => none

/-- The value of a hexadecimal digit. -/
def hexValue (c : Char) : Option Nat :=
  if c.isDigit then some (c.toNat - 48)
  else if 'a' ≤ c ∧ c ≤ 'f' then some (c.toNat - 87)
  else if 'A' ≤ c ∧ c ≤ 'F' then some (c.toNat - 55)
  else none

/-- Reads the characters of a quoted scalar up to a blank or its closing quote; true when a
backslash escaped the line break. -/
def quotedChars (single : Bool) (start : Mark) :
    Nat → Scanner → Gathered → Except Fault (Scanner × Gathered × Bool)
  | 0, s, g => .ok (s, g, false)
  | fuel + 1, s, g =>
    match s.rest with
    | c :: r =>
      if blankz (c :: r) then .ok (s, g, false)
      else if single && c = '\'' && r.head? = some '\'' then
        quotedChars single start fuel (s.advance 2) { g with text := '\'' :: g.text }
      else if single && c = '\'' then .ok (s, g, false)
      else if !single && c = '"' then .ok (s, g, false)
      else if !single && c = '\\' && (match r with | d :: _ => isBreak d | [] => false) then
        .ok ((s.skip).readBreak.1, g, true)
      else if !single && c = '\\' then
        match r.head?.bind escapeOf with
        | none => .error (s.fault start "found unknown escape character")
        | some (.inl ch) => quotedChars single start fuel (s.advance 2) { g with text := ch :: g.text }
        | some (.inr n) =>
          let digits := (r.drop 1).take n
          let values := digits.filterMap hexValue
          if digits.length < n || values.length < n then
            .error (s.fault start "did not find expected hexdecimal number")
          else
            let v := values.foldl (fun acc d ↦ acc * 16 + d) 0
            if (0xD800 ≤ v ∧ v ≤ 0xDFFF) ∨ v > 0x10FFFF then
              .error (s.fault start "found invalid Unicode character escape code")
            else quotedChars single start fuel (s.advance (2 + n)) { g with text := Char.ofNat v :: g.text }
      else quotedChars single start fuel s.skip { g with text := c :: g.text }
    | [] => .ok (s, g, false)

/-- Reads the lines of a quoted scalar up to its closing quote. -/
def quotedLines (single : Bool) (start : Mark) :
    Nat → Scanner → Gathered → Except Fault (Scanner × Gathered)
  | 0, s, g => .ok (s, g)
  | fuel + 1, s, g => do
    if s.atDocumentIndicator then .error (s.fault start "found unexpected document indicator")
    if s.rest.isEmpty then .error (s.fault start "found unexpected end of stream")
    let (s, g, escapedBreak) ← quotedChars single start s.rest.length s { g with leadingBlanks := false }
    let g := if escapedBreak then { g with leadingBlanks := true } else g
    let closing := if single then '\'' else '"'
    if s.rest.head? = some closing then pure (s, g)
    else
      let (s, g) ← gatherBlanks false 0 start s.rest.length s g
      quotedLines single start fuel s g.fold

/-- Scans a quoted scalar from its opening quote. -/
def quotedScalar (s : Scanner) (single : Bool) : Except Fault Scanner := do
  let start := s.mark
  let (s, g) ← quotedLines single start (s.rest.length + 1) s.skip {}
  let s := s.skip
  pure (s.push (.scalar (String.ofList g.text.reverse) (if single then .singleQuoted else .doubleQuoted))
    start s.mark)

/-- Reads the indentation and the empty lines before a line of a block scalar, fixing the
indentation from the deepest of them when it is not known yet. -/
def blockBreaks (start : Mark) (outer : Int) :
    Nat → Scanner → Nat → Nat → List Char → Except Fault (Scanner × Nat × List Char)
  | 0, s, indent, _, breaks => .ok (s, indent, breaks)
  | fuel + 1, s, indent, maxIndent, breaks =>
    let spaces := (s.rest.takeWhile (· = ' ')).length
    let n := if indent = 0 then spaces else min spaces (indent - s.mark.column)
    let s := s.advance n
    let maxIndent := max maxIndent s.mark.column
    if (indent = 0 || s.mark.column < indent) && s.rest.head? = some '\t' then
      .error (s.fault start "found a tab character where an indentation space is expected")
    else
      match s.rest with
      | c :: _ =>
        if isBreak c then
          let (s, b) := s.readBreak
          blockBreaks start outer fuel s indent maxIndent (breaks ++ b)
        else .ok (s, fixIndent indent maxIndent, breaks)
      | [] => .ok (s, fixIndent indent maxIndent, breaks)
where
  fixIndent (indent maxIndent : Nat) : Nat :=
    if indent ≠ 0 then indent
    else max 1 (max maxIndent (outer + 1).toNat)

/-- Reads the lines of a block scalar at its indentation. -/
def blockLines (literal : Bool) (start : Mark) (outer : Int) (indent : Nat) :
    Nat → Scanner → List Char → List Char → List Char → Bool →
      Except Fault (Scanner × List Char × List Char × List Char)
  | 0, s, text, lead, trail, _ => .ok (s, text, lead, trail)
  | fuel + 1, s, text, lead, trail, leadingBlank =>
    if s.mark.column != indent || s.rest.isEmpty then .ok (s, text, lead, trail)
    else
      let trailingBlank := (s.rest.head?.map isBlank).getD false
      let text := if !literal && !leadingBlank && !trailingBlank && lead.head? = some '\n' then
          (if trail.isEmpty then text ++ [' '] else text)
        else text ++ lead
      let text := text ++ trail
      let leadingBlank := (s.rest.head?.map isBlank).getD false
      let line := s.rest.takeWhile fun c ↦ !isBreak c && c.toNat != 0
      let s := s.advance line.length
      let text := text ++ line
      if s.rest.isEmpty then .ok (s, text, [], [])
      else
        let (s, b) := s.readBreak
        match blockBreaks start outer s.rest.length s indent 0 [] with
        | .error f => .error f
        | .ok (s, _, breaks) => blockLines literal start outer indent fuel s text b breaks leadingBlank

/-- Scans a literal (`|`) or folded (`>`) block scalar from its indicator. -/
def blockScalar (s : Scanner) (literal : Bool) : Except Fault Scanner := do
  let start := s.mark
  let s := s.skip
  let sign := fun (c : Char) ↦ c = '+' || c = '-'
  let chompOf := fun (c : Char) ↦ if c = '+' then (1 : Int) else -1
  let (s, chomping, increment) ← match s.rest with
    | c :: r =>
      if sign c then
        match r with
        | d :: _ =>
          if d.isDigit then
            if d = '0' then .error (s.skip.fault start "found an indentation indicator equal to 0")
            else pure ((s.advance 2), chompOf c, d.toNat - 48)
          else pure (s.skip, chompOf c, 0)
        | [] => pure (s.skip, chompOf c, 0)
      else if c.isDigit then
        if c = '0' then .error (s.fault start "found an indentation indicator equal to 0")
        else
          match r with
          | d :: _ => if sign d then pure ((s.advance 2), chompOf d, c.toNat - 48) else pure (s.skip, 0, c.toNat - 48)
          | [] => pure (s.skip, 0, c.toNat - 48)
      else pure (s, 0, 0)
    | [] => pure (s, 0, 0)
  let s := s.advance (s.rest.takeWhile isBlank).length
  let s := if s.rest.head? = some '#' then s.advance (s.rest.takeWhile fun c ↦ !isBreak c).length else s
  if !breakz s.rest then .error (s.fault start "did not find expected comment or line break")
  let s := if (s.rest.head?.map isBreak).getD false then s.readBreak.1 else s
  let stop := s.mark
  let indent : Nat := if increment > 0 then
      (if s.indent ≥ 0 then (s.indent + increment).toNat else increment) else 0
  let (s, indent, trail) ← blockBreaks start s.indent s.rest.length s indent 0 []
  let (s, text, lead, trail) ← blockLines literal start s.indent indent (s.rest.length + 1) s [] [] trail false
  let text := if chomping != -1 then text ++ lead else text
  let text := if chomping = 1 then text ++ trail else text
  pure (s.push (.scalar (String.ofList text) (if literal then .literal else .folded)) start stop)

/-! ### Other tokens -/

/-- Scans an anchor `&name` or an alias `*name`. -/
def anchorToken (s : Scanner) (isAlias : Bool) : Except Fault Scanner := do
  let start := s.mark
  let s := s.skip
  let name := s.rest.takeWhile isAlpha
  let s := s.advance name.length
  let ends := match s.rest with
    | [] => true
    | c :: r => blankz (c :: r) || c = '?' || c = ':' || c = ',' || c = ']' || c = '}' ||
      c = '%' || c = '@' || c = '`'
  if name.isEmpty || !ends then
    .error (s.fault start "did not find expected alphabetic or numeric character")
  let n := String.ofList name
  pure (s.push (if isAlias then .reference n else .anchor n) start s.mark)

/-- Whether a character may stand in a tag's URI. -/
def isUriChar (c : Char) : Bool :=
  isAlpha c || ";/?:@&=+$,.!~*'()[]%".contains c

/-- Reads a tag handle: `!`, letters, and a closing `!` when one follows. In a directive
the handle must be closed unless it is `!` alone. -/
def tagHandle (s : Scanner) (directive : Bool) (start : Mark) : Except Fault (Scanner × String) :=
  if s.rest.head? != some '!' then .error (s.fault start "did not find expected '!'")
  else
    let s := s.skip
    let name := String.ofList (s.rest.takeWhile isAlpha)
    let s := s.advance name.length
    if s.rest.head? = some '!' then .ok (s.skip, "!" ++ name ++ "!")
    else if directive && !name.isEmpty then .error (s.fault start "did not find expected '!'")
    else .ok (s, "!" ++ name)

/-- Reads the URI of a tag, after `head` read already with its leading `!`; a tag needs a
head or at least one character. -/
def tagUri (s : Scanner) (head : String) (start : Mark) : Except Fault (Scanner × String) :=
  let uri := s.rest.takeWhile isUriChar
  if head.isEmpty && uri.isEmpty then .error (s.fault start "did not find expected tag URI")
  else .ok (s.advance uri.length, String.ofList (head.toList.drop 1 ++ uri))

/-- Scans a tag: `!<uri>`, `!suffix`, `!handle!suffix`, or `!` alone. -/
def tagToken (s : Scanner) : Except Fault Scanner := do
  let start := s.mark
  let (s, handle, suffix) ← match s.rest with
    | '!' :: '<' :: _ => do
      let (s, uri) ← tagUri (s.advance 2) "" start
      if s.rest.head? != some '>' then .error (s.fault start "did not find the expected '>'")
      else pure (s.skip, "", uri)
    | _ => do
      let (s, handle) ← tagHandle s false start
      if handle.length > 1 && handle.endsWith "!" then
        let (s, uri) ← tagUri s "" start
        pure (s, handle, uri)
      else
        let (s, uri) ← tagUri s handle start
        if uri.isEmpty then pure (s, "", "!") else pure (s, "!", uri)
  if !blankz s.rest && !(s.flowLevel > 0 && s.rest.head? = some ',') then
    .error (s.fault start "did not find expected whitespace or line break")
  pure (s.push (.tag handle suffix) start s.mark)

/-- Reads a version number of at most two digits. -/
def versionNumber (s : Scanner) (start : Mark) : Except Fault (Scanner × Nat) :=
  let ds := s.rest.takeWhile Char.isDigit
  if ds.length > 2 then .error ((s.advance 2).fault start "found extremely long version number")
  else if ds.isEmpty then .error (s.fault start "did not find expected version number")
  else .ok (s.advance ds.length, ds.foldl (fun v c ↦ v * 10 + (c.toNat - 48)) 0)

/-- Scans a directive `%YAML major.minor` or `%TAG handle prefix` and the rest of its
line. -/
def directiveToken (s : Scanner) : Except Fault Scanner := do
  let start := s.mark
  let s := s.skip
  let name := s.rest.takeWhile isAlpha
  if name.isEmpty then .error (s.fault start "could not find expected directive name")
  let s := s.advance name.length
  if !blankz s.rest then .error (s.fault start "found unexpected non-alphabetical character")
  let s := s.advance (s.rest.takeWhile isBlank).length
  let (s, kind) ← match String.ofList name with
    | "YAML" => do
      let (s, major) ← versionNumber s start
      if s.rest.head? != some '.' then
        .error (s.fault start "did not find expected digit or '.' character")
      let (s, minor) ← versionNumber s.skip start
      pure (s, TokenKind.versionDirective major minor)
    | "TAG" => do
      let (s, handle) ← tagHandle s true start
      if !(s.rest.head?.map isBlank).getD false then
        .error (s.fault start "did not find expected whitespace")
      let s := s.advance (s.rest.takeWhile isBlank).length
      let (s, pre) ← tagUri s "" start
      if !blankz s.rest then .error (s.fault start "did not find expected whitespace or line break")
      pure (s, TokenKind.tagDirective handle pre)
    | _ => .error (s.fault start "found unknown directive name")
  let stop := s.mark
  let s := s.advance (s.rest.takeWhile isBlank).length
  let s := if s.rest.head? = some '#' then s.advance (s.rest.takeWhile fun c ↦ !isBreak c).length else s
  if !breakz s.rest then .error (s.fault start "did not find expected comment or line break")
  let s := if (s.rest.head?.map isBreak).getD false then s.readBreak.1 else s
  pure (s.push kind start stop)

/-- Scans a one-character indicator into a token. -/
def indicator (s : Scanner) (k : TokenKind) : Scanner :=
  let start := s.mark
  let s := s.skip
  s.push k start s.mark

/-- Scans the next token, or several when a simple key or indentation adds structure. -/
def fetchNext (s : Scanner) : Except Fault Scanner := do
  if !s.started then
    let s := if s.rest.head? = some '﻿' then s.skip else s
    let s := { s with started := true, indent := -1, simpleKeyAllowed := true, simpleKeys := [{}] }
    return s.push .streamStart s.mark s.mark
  let scanMark := s.mark
  let s := toNextToken (s.rest.length + 1) s
  let s := s.unrollIndent s.mark.column scanMark
  match s.rest with
  | [] =>
    let s := if s.mark.column != 0 then { s with mark := { s.mark with column := 0, line := s.mark.line + 1 } } else s
    let s := s.unrollIndent (-1) s.mark
    let s ← s.removeSimpleKey
    let s := { s with simpleKeyAllowed := false }
    pure (s.push .streamEnd s.mark s.mark)
  | c :: r =>
    if s.mark.column == 0 && c = '%' then
      let s := s.unrollIndent (-1) s.mark
      let s ← s.removeSimpleKey
      directiveToken { s with simpleKeyAllowed := false }
    else if s.atDocumentIndicator then
      let s := s.unrollIndent (-1) s.mark
      let s ← s.removeSimpleKey
      let s := { s with simpleKeyAllowed := false }
      let start := s.mark
      let s := s.advance 3
      pure (s.push (if c = '-' then .documentStart else .documentEnd) start s.mark)
    else if c = '[' || c = '{' then
      let s ← s.saveSimpleKey
      let s := { s.increaseFlowLevel with simpleKeyAllowed := true }
      pure (s.indicator (if c = '[' then .flowSequenceStart else .flowMappingStart))
    else if c = ']' || c = '}' then
      let s ← s.removeSimpleKey
      let s := { s.decreaseFlowLevel with simpleKeyAllowed := false }
      pure (s.indicator (if c = ']' then .flowSequenceEnd else .flowMappingEnd))
    else if c = ',' then
      let s ← s.removeSimpleKey
      pure ({ s with simpleKeyAllowed := true }.indicator .flowEntry)
    else if c = '-' && blankz r then
      let s ← if s.flowLevel == 0 then
          if !s.simpleKeyAllowed then .error (s.fault s.mark "block sequence entries are not allowed in this context")
          else pure (s.rollIndent s.mark.column none .blockSequenceStart s.mark)
        else pure s
      let s ← s.removeSimpleKey
      pure ({ s with simpleKeyAllowed := true }.indicator .blockEntry)
    else if c = '?' && (s.flowLevel > 0 || blankz r) then
      let s ← if s.flowLevel == 0 then
          if !s.simpleKeyAllowed then .error (s.fault s.mark "mapping keys are not allowed in this context")
          else pure (s.rollIndent s.mark.column none .blockMappingStart s.mark)
        else pure s
      let s ← s.removeSimpleKey
      pure ({ s with simpleKeyAllowed := s.flowLevel == 0 }.indicator .key)
    else if c = ':' && (s.flowLevel > 0 || blankz r) then
      let (valid, s) ← s.checkKey 0
      let s ← if valid then
          let k := s.topKey
          let s := s.insertAt k.tokenNumber ⟨.key, k.mark, k.mark⟩
          let s := s.rollIndent k.mark.column (some k.tokenNumber) .blockMappingStart k.mark
          let s := s.setTopKey { k with possible := false }
          pure { s with simpleKeyAllowed := false }
        else if s.flowLevel == 0 then
          if !s.simpleKeyAllowed then .error (s.fault s.mark "mapping values are not allowed in this context")
          else pure { s.rollIndent s.mark.column none .blockMappingStart s.mark with simpleKeyAllowed := true }
        else pure { s with simpleKeyAllowed := false }
      pure (s.indicator .value)
    else if c = '*' || c = '&' then
      let s ← s.saveSimpleKey
      anchorToken { s with simpleKeyAllowed := false } (c = '*')
    else if c = '!' then
      let s ← s.saveSimpleKey
      tagToken { s with simpleKeyAllowed := false }
    else if (c = '|' || c = '>') && s.flowLevel == 0 then
      let s ← s.removeSimpleKey
      blockScalar { s with simpleKeyAllowed := true } (c = '|')
    else if c = '\'' || c = '"' then
      let s ← s.saveSimpleKey
      quotedScalar { s with simpleKeyAllowed := false } (c = '\'')
    else if !(blankz (c :: r) || "-?:,[]\x7b\x7d#&*!|>'\"%@`".contains c) ||
        (c = '-' && !(r.head?.map isBlank).getD false) ||
        (s.flowLevel == 0 && (c = '?' || c = ':') && !blankz r) then
      let s ← s.saveSimpleKey
      let (s, broke) ← plainScalar { s with simpleKeyAllowed := false }
      pure (if broke then { s with simpleKeyAllowed := true } else s)
    else .error (s.fault s.mark "found character that cannot start any token")

/-- Scans until the next token to hand out is settled: at least two more tokens are known
after it, and it cannot start a simple key. `fuel` bounds the tokens scanned. -/
def settle : Nat → Scanner → Except Fault Scanner
  | 0, s => .ok s
  | fuel + 1, s => do
    if s.head + 2 < s.tokens.size then
      match s.simpleKeys.findIdx? fun k ↦ k.possible && k.tokenNumber == s.head with
      | none => return s
      | some i =>
        let (valid, s) ← s.checkKey i
        if !valid then return s
    let s ← s.fetchNext
    settle fuel s

/-- The next token to hand out, and the scanner after scanning as far as needed. -/
def peek (s : Scanner) : Except Fault (Token × Scanner) := do
  let s ← settle (4 * s.rest.length + 16) s
  match s.tokens[s.head]? with
  | some t => pure (t, s)
  | none => pure (⟨.streamEnd, s.mark, s.mark⟩, s)

/-- Takes the next token. -/
def next (s : Scanner) : Scanner := { s with head := s.head + 1 }

end Scanner

end LuaDebugger.Yaml
