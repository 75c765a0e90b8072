import LuaDebugger.CoreInstances
/-!
# The characters of a YAML stream

A YAML stream arrives as bytes in UTF-8, UTF-16LE or UTF-16BE. A byte order mark at its
start chooses one of the UTF-16 forms, or UTF-8, and is dropped; without one the stream is
UTF-8. The bytes are read one character after another, and the first that is no encoding of
a character, or encodes one that may not stand in a stream, ends the reading with the
message of what was found there.

A UTF-8 encoding is taken to be as long as its lead byte says (`110xxxxx` two bytes,
`1110xxxx` three, `11110xxx` four) before its other bytes are looked at, so that `0xC0`
leads a two-byte encoding that is then refused for being longer than its value needs, and
an encoding cut short by the end of the stream is told apart from one with a wrong byte.
-/

namespace LuaDebugger.Yaml

/-- The forms in which a YAML stream encodes its characters. -/
inductive Encoding where
  | utf8
  | utf16le
  | utf16be
  deriving DecidableEq, Repr

/-- Whether the character numbered `n` may stand in a YAML stream: the tab, the line breaks,
the printable ASCII characters, the next line `U+0085`, and the rest of Unicode but the
surrogates and the noncharacters `U+FFFE` and `U+FFFF`. -/
def isStreamChar (n : Nat) : Bool :=
  n = 0x09 ∨ n = 0x0A ∨ n = 0x0D ∨ (0x20 ≤ n ∧ n ≤ 0x7E) ∨ n = 0x85 ∨ (0xA0 ≤ n ∧ n ≤ 0xD7FF) ∨
    (0xE000 ≤ n ∧ n ≤ 0xFFFD) ∨ (0x10000 ≤ n ∧ n ≤ 0x10FFFF)

/-- The number of the character encoded in UTF-8 at `i`, and the length of its encoding. -/
def utf8At (bs : ByteArray) (i : Nat) : Except String (Nat × Nat) := do
  let byte (k : Nat) : Nat := (bs.get! (i + k)).toNat
  let lead := byte 0
  let (width, first) ← if lead < 0x80 then pure (1, lead)
    else if lead &&& 0xE0 = 0xC0 then pure (2, lead &&& 0x1F)
    else if lead &&& 0xF0 = 0xE0 then pure (3, lead &&& 0x0F)
    else if lead &&& 0xF8 = 0xF0 then pure (4, lead &&& 0x07)
    else throw "invalid leading UTF-8 octet"
  if i + width > bs.size then throw "incomplete UTF-8 octet sequence"
  let value ← (List.range (width - 1)).foldlM (fun v k ↦
    let b := byte (k + 1)
    if b &&& 0xC0 != 0x80 then throw "invalid trailing UTF-8 octet" else pure (v * 64 + (b &&& 0x3F)))
    first
  if !(width = 1 ∨ (width = 2 ∧ 0x80 ≤ value) ∨ (width = 3 ∧ 0x800 ≤ value) ∨
      (width = 4 ∧ 0x10000 ≤ value)) then
    throw "invalid length of a UTF-8 sequence"
  if (0xD800 ≤ value ∧ value ≤ 0xDFFF) ∨ 0x10FFFF < value then throw "invalid Unicode character"
  pure (value, width)

/-- The number of the character encoded in UTF-16 at `i`, most significant byte first when
`big`, and the length of its encoding: two bytes, or four for a surrogate pair. -/
def utf16At (bs : ByteArray) (big : Bool) (i : Nat) : Except String (Nat × Nat) := do
  let unit (j : Nat) : Nat :=
    let a := (bs.get! j).toNat
    let b := (bs.get! (j + 1)).toNat
    if big then a * 256 + b else b * 256 + a
  if bs.size < i + 2 then throw "incomplete UTF-16 character"
  let v := unit i
  if v &&& 0xFC00 = 0xDC00 then throw "unexpected low surrogate area"
  if v &&& 0xFC00 = 0xD800 then
    if bs.size < i + 4 then throw "incomplete UTF-16 surrogate pair"
    let w := unit (i + 2)
    if w &&& 0xFC00 != 0xDC00 then throw "expected low surrogate area"
    pure (0x10000 + (v &&& 0x3FF) * 1024 + (w &&& 0x3FF), 4)
  else pure (v, 2)

/-- The characters of a stream from byte `i` on, after `acc`. -/
def charsFrom (bs : ByteArray) (enc : Encoding) (i : Nat) (acc : Array Char) :
    Except String (Array Char) :=
  if h : i < bs.size then
    let decoded := match enc with
      | .utf8 => utf8At bs i
      | .utf16le => utf16At bs false i
      | .utf16be => utf16At bs true i
    match decoded with
    | .error e => .error e
    | .ok (v, w) =>
      if !isStreamChar v then .error "control characters are not allowed"
      else charsFrom bs enc (i + max w 1) (acc.push (Char.ofNat v))
  else .ok acc
  termination_by bs.size - i

/-- The encoding a stream's first bytes announce, and the number of bytes of its byte order
mark. -/
def detectEncoding (bs : ByteArray) : Encoding × Nat :=
  let byte (k : Nat) : Nat := (bs.get! k).toNat
  if 2 ≤ bs.size ∧ byte 0 = 0xFF ∧ byte 1 = 0xFE then (.utf16le, 2)
  else if 2 ≤ bs.size ∧ byte 0 = 0xFE ∧ byte 1 = 0xFF then (.utf16be, 2)
  else if 3 ≤ bs.size ∧ byte 0 = 0xEF ∧ byte 1 = 0xBB ∧ byte 2 = 0xBF then (.utf8, 3)
  else (.utf8, 0)

/-- The characters of a YAML stream, or the message of the first fault in its encoding. -/
def streamChars (bs : ByteArray) : Except String (List Char) :=
  let (enc, skip) := detectEncoding bs
  (charsFrom bs enc skip #[]).map Array.toList

end LuaDebugger.Yaml
