import LuaDebugger.Text.Printable
import LuaDebugger.Text.Quote
import LuaDebugger.Text.Utf8
/-!
# TOML documents as expressions

A TOML document is a sequence of lines, each holding at most one expression: a key-value
pair, a table header `[a.b]` or an array-of-tables header `[[a.b]]`, with blanks and a
comment around it. `Reader.next` reads the next expression and the line break after it.

The reader checks the form only. Numbers, dates and times keep the text they were written
with, and where it stands, so that the decoder can refuse one with the line it is on.
Strings are unescaped here: basic strings (`"..."`, `"""..."""`) know the escapes `\b \t
\n \f \r \e \" \\ \uXXXX \UXXXXXXXX`, a multi-line one drops a line break right after its
opening quotes and joins a line ending in a backslash to the next text; literal strings
(`'...'`, `'''...'''`) are taken as they stand.

The reader works on the bytes of a document, each byte read as the character of the same
number, so that a message naming a character names the byte found there. Comments and
strings are checked to hold well-formed UTF-8, and a string's bytes are read as UTF-8 when
it is done.

A failure records the number of bytes left from where it was found, from which the line it
is on follows, and the message of the fault.
-/

namespace LuaDebugger.Toml

/-- A failure to read a document: the number of characters from where it was found to the
end, and the message. -/
structure Failure where
  /-- Characters left from the place of the fault. -/
  left : Nat
  /-- What is wrong. -/
  message : String
  deriving Repr, Inhabited

/-- The text of a number, date or time as written, and the characters left from its
start. -/
structure Raw where
  /-- The text. -/
  text : List Char
  /-- Characters left from its start. -/
  left : Nat
  deriving Repr, Inhabited

/-- A value as read from a document. -/
inductive Value where
  | string (s : String)
  | bool (b : Bool)
  | integer (raw : Raw)
  | float (raw : Raw)
  | localDate (raw : Raw)
  | localTime (raw : Raw)
  | localDateTime (raw : Raw)
  | dateTime (raw : Raw)
  | array (items : List Value)
  /-- An inline table: its dotted keys and values in order. -/
  | inlineTable (entries : List (List String × Value))
  deriving Repr, Inhabited

/-- One expression of a document. -/
inductive Expression where
  /-- A key-value pair with a dotted key. -/
  | keyValue (key : List String) (value : Value)
  /-- A table header. -/
  | table (key : List String)
  /-- An array-of-tables header. -/
  | arrayTable (key : List String)
  deriving Repr, Inhabited

namespace Reader

/-- A failure found at the start of `cs`. -/
def failAt {α : Type} (cs : List Char) (msg : String) : Except Failure α := .error ⟨cs.length, msg⟩

/-- A code point as `U+0078 'x'`, the character shown when it is printable. -/
def codePoint (c : Char) : String :=
  let hex := (Text.hexPadded 4 c.toNat).toUpper
  if Text.isPrintable c then "U+" ++ hex ++ " '" ++ String.singleton c ++ "'" else "U+" ++ hex

/-- Skips blanks: spaces and tabs. -/
def blanks (cs : List Char) : List Char := cs.dropWhile fun c ↦ c = ' ' || c = '\t'

/-- Whether a character may not stand in a comment or a string: a control character other
than the tab. -/
def isControl (c : Char) : Bool := (c.toNat < 0x20 && c != '\t') || c.toNat = 0x7F

/-- The bytes a list of byte characters stands for. -/
def bytesOf (cs : List Char) : ByteArray := ⟨(cs.map fun c ↦ c.toNat.toUInt8).toArray⟩

/-- The text that a list of byte characters encodes in UTF-8. -/
def textOf (cs : List Char) : String := Text.decodeLossy (bytesOf cs)

/-- The bytes of the UTF-8 encoding of a character, as byte characters. -/
def encoded (c : Char) : List Char := (String.singleton c).toUTF8.toList.map fun b ↦ Char.ofNat b.toNat

/-- The number of bytes of the character that starts `cs`: one for a byte below `0x80` that
is no control character other than the tab and the line breaks, the length of a well-formed
encoding of a character otherwise, and zero when neither starts there. -/
def charWidth : List Char → Nat
  | [] => 0
  | c :: r =>
    if c.toNat < 0x80 then
      if isControl c && c != '\n' && c != '\r' then 0 else 1
    else match Text.decodeAt (bytesOf ((c :: r).take 4)) 0 with
      | some (_, w) => w
      | none => 0

/-- Skips the text of a comment after its `#`, up to the line break; `fuel` bounds the
characters read. -/
def commentBody : Nat → List Char → Except Failure (List Char)
  | _, [] => .ok []
  | _, '\n' :: r => .ok ('\n' :: r)
  | _, '\r' :: '\n' :: r => .ok ('\r' :: '\n' :: r)
  | 0, cs => .ok cs
  | fuel + 1, c :: r =>
    if c = '\r' then failAt (c :: r) "invalid character in comment"
    else match charWidth (c :: r) with
      | 0 => failAt (c :: r) "invalid character in comment"
      | w => commentBody fuel ((c :: r).drop w)

/-- Skips the text of a comment after its `#`, up to the line break. -/
def comment (cs : List Char) : Except Failure (List Char) := commentBody cs.length cs

/-- Reads a line break. -/
def newline : List Char → Except Failure (List Char)
  | [] => .ok []
  | '\n' :: r => .ok r
  | ['\r'] => failAt ['\r'] "windows new line expected"
  | '\r' :: '\n' :: r => .ok r
  | '\r' :: r => failAt ('\r' :: r) "windows new line should be \\r\\n"
  | c :: r => failAt (c :: r) ("expected newline but got " ++ codePoint c)

/-- Whether a character may stand in a bare key. -/
def isBareKeyChar (c : Char) : Bool := c.isAlphanum || c = '-' || c = '_'

/-- The value of a hexadecimal digit. -/
def hexDigit? (c : Char) : Option Nat :=
  if c.isDigit then some (c.toNat - 48)
  else if 'a' ≤ c ∧ c ≤ 'f' then some (c.toNat - 87)
  else if 'A' ≤ c ∧ c ≤ 'F' then some (c.toNat - 55)
  else none

/-- The code point written by `n` hexadecimal digits at the start of `cs`. -/
def hexRune (cs : List Char) (n : Nat) : Except Failure Char := do
  let digits := cs.take n
  if digits.length < n then
    failAt cs ("unicode point needs " ++ toString n ++ " character, not " ++ toString digits.length)
  let rec go : List Char → Nat → Except Failure Nat
    | [], v => .ok v
    | c :: r, v => match hexDigit? c with
      | some d => go r (v * 16 + d)
      | none => failAt (c :: r) "non-hex character"
  let v ← go digits 0
  if v > 0x10FFFF ∨ (0xD800 ≤ v ∧ v < 0xE000) then
    failAt cs "escape sequence is invalid Unicode code point"
  pure (Char.ofNat v)

/-- The character an escape letter stands for. -/
def simpleEscape : Char → Option Char
  | '"' => some '"'
  | '\\' => some '\\'
  | 'b' => some (Char.ofNat 8)
  | 'f' => some (Char.ofNat 12)
  | 'n' => some '\n'
  | 'r' => some '\r'
  | 't' => some '\t'
  | 'e' => some (Char.ofNat 0x1B)
  | _ => none

/-- Whether the rest of a line after a backslash is blank, so that the backslash joins the
line to the next text. -/
def endsLine : List Char → Bool
  | ' ' :: r | '\t' :: r => endsLine r
  | '\r' :: '\n' :: _ => true
  | '\n' :: _ => true
  | _ => false

/-- Drops the blanks and line breaks at the start of a text. -/
def skipBreaks : List Char → List Char
  | [] => []
  | c :: r => if c = ' ' || c = '\t' || c = '\n' || c = '\r' then skipBreaks r else c :: r

/-- A failure moved `k` characters further from the end of the document: for text that was
read apart from the characters that follow it there. -/
def shift {α : Type} (k : Nat) : Except Failure α → Except Failure α
  | .error f => .error ⟨f.left + k, f.message⟩
  | .ok a => .ok a

/-- Unescapes the body of a basic string, giving its bytes; `multi` allows line breaks and
backslashes that end a line. A byte that starts no allowed character is named in the
failure. The closing quotes follow the body in `tail`, as far as a `\u` escape looks.
`fuel` bounds the characters read. -/
def unescape (multi : Bool) (tail : List Char) : Nat → List Char → List Char → Except Failure (List Char)
  | _, [], acc => .ok acc.reverse
  | 0, _ :: _, acc => .ok acc.reverse
  | fuel + 1, '\\' :: r, acc =>
    if multi && endsLine r then unescape multi tail fuel (skipBreaks r) acc
    else
      match r with
      | [] => .ok acc.reverse
      | 'u' :: more =>
        match hexRune (more ++ tail) 4 with
        | .ok ch => unescape multi tail fuel (more.drop 4) ((encoded ch).reverse ++ acc)
        | .error f => .error ⟨f.left - tail.length, f.message⟩
      | 'U' :: more =>
        match hexRune (more ++ tail) 8 with
        | .ok ch => unescape multi tail fuel (more.drop 8) ((encoded ch).reverse ++ acc)
        | .error f => .error ⟨f.left - tail.length, f.message⟩
      | c :: more =>
        match simpleEscape c with
        | some ch => unescape multi tail fuel more (ch :: acc)
        | none => failAt (c :: more) ("invalid escaped character " ++ codePoint c)
  | fuel + 1, c :: r, acc =>
    match charWidth (c :: r) with
    | 0 => failAt (c :: r) ("invalid character " ++ codePoint c)
    | w => unescape multi tail fuel ((c :: r).drop w) (((c :: r).take w).reverse ++ acc)

/-- Checks that the body of a string without escapes is well-formed UTF-8 with no control
character other than the tab and the line breaks; `fuel` bounds the characters read. -/
def checkPlain : Nat → List Char → Except Failure Unit
  | _, [] => .ok ()
  | 0, _ :: _ => .ok ()
  | fuel + 1, c :: r =>
    match charWidth (c :: r) with
    | 0 => failAt (c :: r) "invalid UTF-8"
    | w => checkPlain fuel ((c :: r).drop w)

/-- The text of the body of a basic string, which `after` characters of the document follow;
`tail` are the closing quotes. -/
def basicBody (multi : Bool) (tail : List Char) (after : Nat) (body : List Char) :
    Except Failure String :=
  shift after <|
    if body.contains '\\' then do
      let bytes ← unescape multi tail body.length body []
      pure (textOf bytes)
    else do
      checkPlain body.length body
      pure (textOf body)

/-- Scans a basic string after its opening quote: the body up to the closing quote and the
rest. -/
def scanBasic : List Char → List Char → Except Failure ((List Char) × List Char)
  | [], _ => failAt [] "basic string not terminated by \""
  | '"' :: r, acc => .ok (acc.reverse, r)
  | '\n' :: r, _ => failAt ('\n' :: r) "basic strings cannot have new lines"
  | '\r' :: r, _ => failAt ('\r' :: r) "basic strings cannot have new lines"
  | ['\\'], _ => failAt ['\\'] "need a character after \\"
  | '\\' :: c :: r, acc => scanBasic r (c :: '\\' :: acc)
  | c :: r, acc => scanBasic r (c :: acc)

/-- Reads a basic string after its opening quote. -/
def basicString (cs : List Char) : Except Failure (String × List Char) := do
  let (body, rest) ← scanBasic cs []
  let text ← basicBody false [] (rest.length + 1) body
  pure (text, rest)

/-- Scans a literal string after its opening quote; `fuel` bounds the characters read. -/
def scanLiteral : Nat → List Char → List Char → Except Failure ((List Char) × List Char)
  | _, [], _ => failAt [] "unterminated literal string"
  | _, '\'' :: r, acc => .ok (acc.reverse, r)
  | _, '\n' :: r, _ => failAt ('\n' :: r) "literal strings cannot have new lines"
  | _, '\r' :: r, _ => failAt ('\r' :: r) "literal strings cannot have new lines"
  | 0, cs, _ => failAt cs "unterminated literal string"
  | fuel + 1, c :: r, acc =>
    match charWidth (c :: r) with
    | 0 => failAt (c :: r) "invalid character"
    | w => scanLiteral fuel ((c :: r).drop w) (((c :: r).take w).reverse ++ acc)

/-- Reads a literal string after its opening quote. -/
def literalString (cs : List Char) : Except Failure (String × List Char) := do
  let (body, rest) ← scanLiteral cs.length cs []
  pure (textOf body, rest)

/-- Scans the body of a multi-line string after its opening quotes `q q q`, up to the
closing ones; one or two more quotes right before them belong to the body. A backslash
keeps the next character in a basic string (`escapes`); a literal one holds only well-formed
characters. `fuel` bounds the characters read. -/
def scanMultiline (q : Char) (escapes : Bool) (name : String) : Nat → List Char → List Char → Except Failure ((List Char) × List Char)
  | _, [], _ => failAt [] ("multiline " ++ name ++ " string not terminated by " ++ String.ofList [q, q, q])
  | 0, cs, _ => failAt cs ("multiline " ++ name ++ " string not terminated by " ++ String.ofList [q, q, q])
  | fuel + 1, c :: r, acc =>
    if c = q && r.take 2 = [q, q] then
      let after := r.drop 2
      match after with
      | d :: after2 =>
        if d = q then
          match after2 with
          | e :: after3 =>
            if e = q then
              match after3 with
              | f :: _ =>
                if f = q then
                  failAt (c :: r) (String.ofList [q, q, q] ++ " not allowed in multiline " ++ name ++ " string")
                else .ok ((q :: q :: acc).reverse, after3)
              | [] => .ok ((q :: q :: acc).reverse, after3)
            else .ok ((q :: acc).reverse, after2)
          | [] => .ok ((q :: acc).reverse, after2)
        else .ok (acc.reverse, after)
      | [] => .ok (acc.reverse, after)
    else if escapes && c = '\\' then
      match r with
      | [] => failAt [] "need a character after \\"
      | d :: more => scanMultiline q escapes name fuel more (d :: c :: acc)
    else if c = '\r' then
      match r with
      | '\n' :: more => scanMultiline q escapes name fuel more ('\n' :: c :: acc)
      | [] => failAt [] "need a \\n after \\r"
      | _ => failAt (c :: r) "need a \\n after \\r"
    else if escapes then scanMultiline q escapes name fuel r (c :: acc)
    else match charWidth (c :: r) with
      | 0 => failAt (c :: r) "invalid character"
      | w => scanMultiline q escapes name fuel ((c :: r).drop w) (((c :: r).take w).reverse ++ acc)

/-- Drops a line break right after the opening quotes of a multi-line string. -/
def dropFirstBreak : List Char → List Char
  | '\n' :: r => r
  | '\r' :: '\n' :: r => r
  | cs => cs

/-- Reads a multi-line basic string after its opening quotes. -/
def multilineBasic (cs : List Char) : Except Failure (String × List Char) := do
  let (body, rest) ← scanMultiline '"' true "basic" cs.length cs []
  let text ← basicBody true ['"', '"', '"'] (rest.length + 3) (dropFirstBreak body)
  pure (text, rest)

/-- Reads a multi-line literal string after its opening quotes. -/
def multilineLiteral (cs : List Char) : Except Failure (String × List Char) := do
  let (body, rest) ← scanMultiline '\'' false "literal" cs.length cs []
  pure (textOf (dropFirstBreak body), rest)

/-- Reads a key that is a single name: bare, or a quoted string. -/
def simpleKey : List Char → Except Failure (String × List Char)
  | [] => failAt [] "expected key but found none"
  | '\'' :: r => literalString r
  | '"' :: r => basicString r
  | c :: r =>
    if isBareKeyChar c then .ok (String.ofList ((c :: r).takeWhile isBareKeyChar), (c :: r).dropWhile isBareKeyChar)
    else failAt (c :: r) ("invalid character at start of key: " ++ String.singleton c)

/-- Reads the names after the first of a dotted key; `fuel` bounds their number. -/
def keyRest : Nat → List Char → List String → Except Failure ((List String) × List Char)
  | 0, cs, acc => .ok (acc.reverse, blanks cs)
  | fuel + 1, cs, acc =>
    match blanks cs with
    | '.' :: r => do
      let (k, rest) ← simpleKey (blanks r)
      keyRest fuel rest (k :: acc)
    | rest => .ok (acc.reverse, rest)

/-- Reads a dotted key, and the blanks after it. -/
def key (cs : List Char) : Except Failure ((List String) × List Char) := do
  let (k, rest) ← simpleKey cs
  keyRest rest.length rest [k]

/-- Expects a character. -/
def expect (x : Char) : List Char → Except Failure (List Char)
  | [] => failAt [] ("expected character " ++ String.singleton x ++ " but the document ended here")
  | c :: r => if c = x then .ok r else failAt (c :: r) ("expected character " ++ String.singleton x)

/-- Whether a digit of a number with a base prefix may follow. -/
def baseDigit (base : Char) (c : Char) : Bool :=
  c = '_' || match base with
    | 'x' => (hexDigit? c).isSome
    | 'o' => '0' ≤ c ∧ c ≤ '7'
    | _ => c = '0' || c = '1'

/-- Scans the characters of a decimal number that may hold a sign, digits, underscores,
a point and an exponent: the text, whether it is a float, and the rest. -/
def scanNumber : List Char → List Char → Bool → Except Failure (List Char × Bool × List Char)
  | [], acc, isFloat => .ok (acc.reverse, isFloat, [])
  | c :: r, acc, isFloat =>
    if c.isDigit || c = '+' || c = '-' || c = '_' then scanNumber r (c :: acc) isFloat
    else if c = '.' || c = 'e' || c = 'E' then scanNumber r (c :: acc) true
    else if c = 'i' then
      if r.take 2 = ['n', 'f'] then .ok ((acc.reverse ++ ['i', 'n', 'f']), true, r.drop 2)
      else failAt (c :: r) "unexpected character 'i' while scanning for a number"
    else if c = 'n' then
      if r.take 2 = ['a', 'n'] then .ok ((acc.reverse ++ ['n', 'a', 'n']), true, r.drop 2)
      else failAt (c :: r) "unexpected character 'n' while scanning for a number"
    else .ok (acc.reverse, isFloat, c :: r)

/-- Reads a number in decimal: digits with signs, underscores, a point and an exponent;
a float when it has a point or an exponent. -/
def decimalNumber (cs : List Char) : Except Failure (Value × List Char) := do
  let (text, isFloat, rest) ← scanNumber cs [] false
  if text.isEmpty then failAt cs "incomplete number"
  let raw : Raw := ⟨text, cs.length⟩
  pure (if isFloat then .float raw else .integer raw, rest)

/-- Reads an integer or a float. A leading zero followed by `x`, `o` or `b` starts a number
in base 16, 8 or 2; followed by anything but a point or an exponent it is the number zero. -/
def intOrFloat (cs : List Char) : Except Failure (Value × List Char) :=
  match cs with
  | '0' :: b :: c :: r =>
    if b = '.' || b = 'e' || b = 'E' then decimalNumber cs
    else if b = 'x' || b = 'o' || b = 'b' then
      let digits := (c :: r).takeWhile (baseDigit b)
      .ok (.integer ⟨'0' :: b :: digits, cs.length⟩, (c :: r).drop digits.length)
    else .ok (.integer ⟨['0'], cs.length⟩, b :: c :: r)
  | _ => decimalNumber cs

/-- Scans a date, a time or both, with an optional offset: the characters that may belong
to one, a space counting when a digit follows it. -/
def scanDateTime (cs : List Char) : Except Failure (Value × List Char) :=
  let rec go : List Char → Nat → List Char → Bool → Bool → Bool → Bool →
      (List Char × List Char × Bool × Bool × Bool)
    | [], _, acc, hasDate, hasTime, hasTz, _ => (acc.reverse, [], hasDate, hasTime, hasTz)
    | c :: r, i, acc, hasDate, hasTime, hasTz, seenSpace =>
      if c.isDigit then go r (i + 1) (c :: acc) hasDate hasTime hasTz seenSpace
      else if c = '-' then go r (i + 1) (c :: acc) true hasTime (hasTz || i ≥ 8) seenSpace
      else if c = 'T' || c = 't' || c = ':' || c = '.' then go r (i + 1) (c :: acc) hasDate true hasTz seenSpace
      else if c = '+' then go r (i + 1) (c :: acc) hasDate hasTime true seenSpace
      else if c = 'Z' || c = 'z' then ((c :: acc).reverse, r, hasDate, hasTime, true)
      else if c = ' ' then
        match r with
        | d :: more =>
          if !seenSpace && d.isDigit then
            -- the character after the digit is taken without a look
            match more with
            | e :: after => go after (i + 3) (e :: d :: c :: acc) hasDate true hasTz true
            | [] => go [] (i + 2) (d :: c :: acc) hasDate true hasTz true
          else (acc.reverse, c :: r, hasDate, hasTime, hasTz)
        | [] => (acc.reverse, c :: r, hasDate, hasTime, hasTz)
      else (acc.reverse, c :: r, hasDate, hasTime, hasTz)
  let (text, rest, hasDate, hasTime, hasTz) := go cs 0 [] false false false false
  let raw : Raw := ⟨text, cs.length⟩
  let v := if hasTime then
      if hasDate then (if hasTz then Value.dateTime raw else .localDateTime raw) else .localTime raw
    else .localDate raw
  .ok (v, rest)

/-- Reads a number, a date or a time, or the words `inf` and `nan`. -/
def numberOrDate (cs : List Char) : Except Failure (Value × List Char) :=
  match cs with
  | 'i' :: r =>
    if r.take 2 = ['n', 'f'] then .ok (.float ⟨['i', 'n', 'f'], cs.length⟩, r.drop 2)
    else failAt cs "expected 'inf'"
  | 'n' :: r =>
    if r.take 2 = ['a', 'n'] then .ok (.float ⟨['n', 'a', 'n'], cs.length⟩, r.drop 2)
    else failAt cs "expected 'nan'"
  | '+' :: _ | '-' :: _ => intOrFloat cs
  | _ =>
    if cs.length < 3 then intOrFloat cs
    else
      let lead := (cs.take 5).zipIdx
      let isDate := (lead.find? fun (c, _) ↦ !c.isDigit).any fun (c, i) ↦
        (i = 2 && c = ':') || (i = 4 && c = '-')
      if isDate then scanDateTime cs else intOrFloat cs

mutual

/-- Reads a value; `fuel` bounds the depth of nesting and the number of items. -/
def value : Nat → List Char → Except Failure (Value × List Char)
  | 0, cs => failAt cs "document nested too deeply"
  | fuel + 1, cs =>
    match cs with
    | [] => failAt [] "expected value, not eof"
    | '"' :: '"' :: '"' :: r => do
      let (s, rest) ← multilineBasic r
      pure (.string s, rest)
    | '"' :: r => do
      let (s, rest) ← basicString r
      pure (.string s, rest)
    | '\'' :: '\'' :: '\'' :: r => do
      let (s, rest) ← multilineLiteral r
      pure (.string s, rest)
    | '\'' :: r => do
      let (s, rest) ← literalString r
      pure (.string s, rest)
    | 't' :: r =>
      if r.take 3 = ['r', 'u', 'e'] then .ok (.bool true, r.drop 3) else failAt cs "expected 'true'"
    | 'f' :: r =>
      if r.take 4 = ['a', 'l', 's', 'e'] then .ok (.bool false, r.drop 4) else failAt cs "expected 'false'"
    | '[' :: r => array fuel cs r true []
    | '{' :: r => inlineTable fuel cs r true []
    | _ => numberOrDate cs

/-- Reads the items of an array after its opening bracket `start`. -/
def array : Nat → List Char → List Char → Bool → List Value → Except Failure (Value × List Char)
  | 0, start, _, _, _ => failAt start "array is incomplete"
  | fuel + 1, start, cs, first, acc => do
    if cs.isEmpty then
      let _ ← expect ']' cs
    let cs ← fillers cs.length cs
    match cs with
    | [] => failAt start "array is incomplete"
    | ']' :: r => pure (.array acc.reverse, r)
    | ',' :: r =>
      if first then failAt cs "array cannot start with comma"
      else
        let r ← fillers r.length r
        match r with
        | ']' :: more => pure (.array acc.reverse, more)
        | _ => item fuel start r acc
    | _ =>
      if !first then failAt cs "array elements must be separated by commas"
      else item fuel start cs acc

/-- Reads one item of an array and goes on with the rest. -/
def item : Nat → List Char → List Char → List Value → Except Failure (Value × List Char)
  | 0, start, _, _ => failAt start "array is incomplete"
  | fuel + 1, start, cs, acc => do
    let (v, rest) ← value fuel cs
    let rest ← fillers rest.length rest
    array fuel start rest false (v :: acc)

/-- Skips blanks, comments and line breaks between the items of an array. -/
def fillers : Nat → List Char → Except Failure (List Char)
  | 0, cs => .ok cs
  | fuel + 1, cs =>
    let cs := blanks cs
    match cs with
    | '#' :: r => do
      let r ← comment r
      match r with
      | [] => pure []
      | '\n' :: _ | '\r' :: _ => do
        let more ← newline r
        fillers fuel more
      | _ => pure r
    | '\n' :: _ | '\r' :: _ => do
      let more ← newline cs
      fillers fuel more
    | _ => .ok cs

/-- Reads the entries of an inline table after its opening brace `start`. -/
def inlineTable : Nat → List Char → List Char → Bool → List (List String × Value) → Except Failure (Value × List Char)
  | 0, start, _, _, _ => failAt start "inline table is incomplete"
  | fuel + 1, start, cs, first, acc => do
    if cs.isEmpty then
      let _ ← expect '}' cs
    match blanks cs with
    | [] => failAt cs "inline table is incomplete"
    | '}' :: r => .ok (.inlineTable acc.reverse, r)
    | rest => do
      let rest ← if first then pure rest else do
        let r ← expect ',' rest
        pure (blanks r)
      let ((k, v), after) ← keyValue fuel rest
      inlineTable fuel start after false ((k, v) :: acc)

/-- Reads a key-value pair. -/
def keyValue : Nat → List Char → Except Failure ((List String × Value) × List Char)
  | 0, cs => failAt cs "document nested too deeply"
  | fuel + 1, cs => do
    let (k, rest) ← key cs
    let rest := blanks rest
    if rest.isEmpty then failAt cs "expected = after a key, but the document ends there"
    let rest ← expect '=' rest
    let (v, rest) ← value fuel (blanks rest)
    pure ((k, v), rest)

end

/-- Reads a table header or an array-of-tables header, from its first bracket. -/
def header (cs : List Char) : Except Failure (Expression × List Char) :=
  match cs with
  | '[' :: '[' :: r => do
    let (k, rest) ← key (blanks r)
    let rest ← expect ']' (blanks rest)
    let rest ← expect ']' rest
    pure (.arrayTable k, rest)
  | _ => do
    let (k, rest) ← key (blanks (cs.drop 1))
    let rest ← expect ']' (blanks rest)
    pure (.table k, rest)

/-- Reads what a line holds up to its line break: nothing, a comment, or an expression
with blanks and a comment after it. -/
def expression (cs : List Char) : Except Failure ((Option Expression) × List Char) := do
  let cs := blanks cs
  match cs with
  | [] => pure (none, [])
  | '#' :: r => pure (none, ← comment r)
  | '\n' :: _ | '\r' :: _ => pure (none, cs)
  | _ =>
    let (e, rest) ← if cs.head? = some '[' then header cs else do
      let ((k, v), rest) ← keyValue (4 * cs.length + 4) cs
      pure (Expression.keyValue k v, rest)
    let rest := blanks rest
    match rest with
    | '#' :: r => pure (some e, ← comment r)
    | _ => pure (some e, rest)

/-- Reads the next expression and the line break after it, skipping empty lines and
comments; none at the end of the document. `fuel` bounds the lines skipped. -/
def next : Nat → List Char → Except Failure (Option (Expression × List Char))
  | 0, _ => .ok none
  | fuel + 1, cs =>
    if cs.isEmpty then .ok none
    else do
      let (e, rest) ← expression cs
      let rest ← if rest.isEmpty then pure [] else newline rest
      match e with
      | some e => pure (some (e, rest))
      | none => next fuel rest

end Reader

end LuaDebugger.Toml
