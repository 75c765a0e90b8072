import LuaDebugger.Text.Utf8
/-!
# White space

The characters with the Unicode White_Space property, and the trimming and blank tests built
on them. A stray byte is never white space.
-/

namespace LuaDebugger.Text

/-- Whether a character has the White_Space property. -/
def isSpace (c : Char) : Bool :=
  let n := c.toNat
  (9 ≤ n ∧ n ≤ 13) ∨ n = 32 ∨ n = 0x85 ∨ n = 0xA0 ∨ n = 0x1680 ∨ (0x2000 ≤ n ∧ n ≤ 0x200A)
    ∨ n = 0x2028 ∨ n = 0x2029 ∨ n = 0x202F ∨ n = 0x205F ∨ n = 0x3000

/-- Whether a byte string holds white space only. -/
def isBlankBytes (bs : ByteArray) : Bool :=
  (pieces bs).all fun p ↦ match p with
    | .char c => isSpace c
    | .stray _ => false

/-- A text without the white space at either end. -/
def trimSpace (s : String) : String :=
  String.ofList (((s.toList.dropWhile isSpace).reverse.dropWhile isSpace).reverse)

/-- The bytes of a piece. -/
def Piece.bytes : Piece → ByteArray
  | .char c => (String.singleton c).toUTF8
  | .stray b => ByteArray.mk #[b]

/-- Whether a piece is a white space character. -/
def Piece.isSpace : Piece → Bool
  | .char c => Text.isSpace c
  | .stray _ => false

/-- A byte string without the white space at either end; stray bytes stay as they are. -/
def trimSpaceBytes (bs : ByteArray) : ByteArray :=
  let kept := (((pieces bs).dropWhile Piece.isSpace).reverse.dropWhile Piece.isSpace).reverse
  kept.foldl (fun acc p ↦ acc ++ p.bytes) ByteArray.empty

end LuaDebugger.Text
