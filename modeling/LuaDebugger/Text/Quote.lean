import LuaDebugger.Text.Utf8
import LuaDebugger.Text.Printable
/-!
# Quoted text

A text between double quotes that reads back as the same bytes. The quote and the
backslash are escaped; a printable character stands as itself; the seven control
characters with a letter escape take it (`\a \b \f \n \r \t \v`); other characters below
`U+0080` and every stray byte become `\x` and two hex digits, and other characters `\u`
with four digits or `\U` with eight.
-/

namespace LuaDebugger.Text

/-- The lowercase hex digits of `n`, padded with zeros to `width`. -/
def hexPadded (width n : Nat) : String :=
  let ds := Nat.toDigits 16 n
  String.ofList (List.replicate (width - ds.length) '0' ++ ds)

/-- The escaped form of one character inside double quotes. -/
def quoteChar (c : Char) : String :=
  if c = '"' then "\\\""
  else if c = '\\' then "\\\\"
  else if isPrintable c then String.singleton c
  else match c.toNat with
    | 7 => "\\a"
    | 8 => "\\b"
    | 12 => "\\f"
    | 10 => "\\n"
    | 13 => "\\r"
    | 9 => "\\t"
    | 11 => "\\v"
    | n =>
      if n < 0x20 ∨ n = 0x7F then "\\x" ++ hexPadded 2 n
      else if n < 0x10000 then "\\u" ++ hexPadded 4 n
      else "\\U" ++ hexPadded 8 n

/-- A byte string between double quotes, escaped so that it reads back. -/
def quoteBytes (bs : ByteArray) : String :=
  let body := (pieces bs).foldl (fun acc p ↦ acc ++ match p with
    | .char c => quoteChar c
    | .stray b => "\\x" ++ hexPadded 2 b.toNat) ""
  "\"" ++ body ++ "\""

/-- A text between double quotes, escaped so that it reads back. -/
def quote (s : String) : String := quoteBytes s.toUTF8

end LuaDebugger.Text
