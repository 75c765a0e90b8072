import LuaDebugger.CoreInstances
/-!
# Reading bytes as UTF-8

Text that arrives from a client or from a script is a byte string and need not be valid
UTF-8. It is read as a sequence of pieces: a well-formed encoding of a scalar value gives a
character, and any byte where no well-formed encoding starts stands alone. A well-formed
encoding is the shortest one for its value, is not a surrogate, and is at most `U+10FFFF`.
-/

namespace LuaDebugger.Text

/-- A piece of a byte string read as UTF-8. -/
inductive Piece where
  /-- A well-formed encoding of a character. -/
  | char (c : Char)
  /-- A byte that starts no well-formed encoding. -/
  | stray (b : UInt8)
  deriving DecidableEq, Repr, Inhabited

/-- Whether `b` is a continuation byte `10xxxxxx`. -/
def isContinuation (b : UInt8) : Bool := b &&& 0xC0 = 0x80

/-- The character whose well-formed encoding starts at `i`, with the encoding's length. -/
def decodeAt (bs : ByteArray) (i : Nat) : Option (Char × Nat) :=
  let byte (k : Nat) : Nat := (bs.get! (i + k)).toNat
  let cont (k : Nat) : Bool := i + k < bs.size ∧ isContinuation (bs.get! (i + k))
  if i ≥ bs.size then none
  else
    let b0 := byte 0
    if b0 < 0x80 then some (Char.ofNat b0, 1)
    else if b0 < 0xC2 then none
    else if b0 < 0xE0 then
      if cont 1 then some (Char.ofNat ((b0 &&& 0x1F) * 64 + (byte 1 &&& 0x3F)), 2) else none
    else if b0 < 0xF0 then
      if cont 1 ∧ cont 2 then
        let v := (b0 &&& 0x0F) * 4096 + (byte 1 &&& 0x3F) * 64 + (byte 2 &&& 0x3F)
        if v < 0x800 ∨ (0xD800 ≤ v ∧ v ≤ 0xDFFF) then none else some (Char.ofNat v, 3)
      else none
    else if b0 < 0xF5 then
      if cont 1 ∧ cont 2 ∧ cont 3 then
        let v := (b0 &&& 0x07) * 262144 + (byte 1 &&& 0x3F) * 4096 + (byte 2 &&& 0x3F) * 64
          + (byte 3 &&& 0x3F)
        if v < 0x10000 ∨ v > 0x10FFFF then none else some (Char.ofNat v, 4)
      else none
    else none

/-- The pieces of `bs` from position `i` on. -/
def piecesFrom (bs : ByteArray) (i : Nat) : List Piece :=
  if h : i < bs.size then
    match decodeAt bs i with
    | some (c, w) => .char c :: piecesFrom bs (i + max w 1)
    | none => .stray bs[i] :: piecesFrom bs (i + 1)
  else []
  termination_by bs.size - i

/-- The pieces of a byte string, in order. -/
def pieces (bs : ByteArray) : List Piece := piecesFrom bs 0

/-- The text of a byte string, each stray byte read as the replacement character. -/
def decodeLossy (bs : ByteArray) : String :=
  String.ofList ((pieces bs).map fun p ↦ match p with
    | .char c => c
    | .stray _ => '�')

/-- The bytes of a text. -/
def encode (s : String) : ByteArray := s.toUTF8

/-- Whether a byte string is well-formed UTF-8 throughout. -/
def isWellFormed (bs : ByteArray) : Bool :=
  (pieces bs).all fun p ↦ match p with
    | .char _ => true
    | .stray _ => false

/-- The lowercase base-16 digits of each byte, two per byte. -/
def hexOfBytes (bs : ByteArray) : String :=
  let digit (n : Nat) : Char := if n < 10 then Char.ofNat (48 + n) else Char.ofNat (87 + n)
  String.ofList (bs.toList.flatMap fun b ↦ [digit (b.toNat / 16), digit (b.toNat % 16)])

end LuaDebugger.Text
