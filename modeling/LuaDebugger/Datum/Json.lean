import LuaDebugger.Datum.Display
import LuaDebugger.Text.Quote
import LuaDebugger.Decimal.Read
/-!
# Data values as JSON text

The interchange text of a datum. Object keys come in sorted order. In strings the quote,
the backslash and the control characters are escaped, the line and paragraph separators
too, and each stray byte becomes the replacement character; nothing else is escaped.
Floats use the interchange format, and a NaN or an infinity has no JSON text, so encoding
fails on it. Spans of time are their nanoseconds, dates and times their calendar text.
-/

namespace LuaDebugger

namespace Json

/-- The escaped form of a character inside a JSON string. -/
def escapeChar (c : Char) : String :=
  match c.toNat with
  | 0x22 => "\\\""
  | 0x5C => "\\\\"
  | 0x08 => "\\b"
  | 0x0C => "\\f"
  | 0x0A => "\\n"
  | 0x0D => "\\r"
  | 0x09 => "\\t"
  | 0x2028 => "\\u2028"
  | 0x2029 => "\\u2029"
  | n => if n < 0x20 then "\\u00" ++ Text.hexPadded 2 n else String.singleton c

/-- A byte string as a JSON string. -/
def quoteBytes (b : ByteArray) : String :=
  "\"" ++ (Text.pieces b).foldl (fun acc p ↦ acc ++ match p with
    | .char c => escapeChar c
    | .stray _ => "�") "" ++ "\""

/-- A text as a JSON string. -/
def quote (s : String) : String := quoteBytes s.toUTF8

end Json

namespace Datum

mutual
/-- The JSON text of a datum, or none when it holds a NaN or an infinity. -/
def toJson? : Datum → Option String
  | .null => some "null"
  | .bool b => some (if b then "true" else "false")
  | .int n | .int64 n => some (toString n)
  | .uint64 n => some (toString n)
  | .float x =>
    if !Decimal.isFinite x then none
    else some (Decimal.FloatFormat.interchange.render x)
  | .duration ns => some (toString ns)
  | .text s => some (Json.quote s)
  | .bytes b => some (Json.quoteBytes b)
  | .list xs => (listJson? xs).map fun body ↦ "[" ++ body ++ "]"
  | .map kvs => (entriesJson? kvs).map fun body ↦ "\x7b" ++ body ++ "\x7d"
  | .localDate d => some (Json.quote d.text)
  | .localTime t => some (Json.quote t.text)
  | .localDateTime d t => some (Json.quote (d.text ++ "T" ++ t.text))
  | .instant d t o _ => some (Json.quote (instantStamp d t o))
/-- The items of a list, separated by commas. -/
def listJson? : List Datum → Option String
  | [] => some ""
  | [x] => toJson? x
  | x :: rest => do
    let a ← toJson? x
    let b ← listJson? rest
    pure (a ++ "," ++ b)
/-- The entries of a map, separated by commas. -/
def entriesJson? : List (String × Datum) → Option String
  | [] => some ""
  | [(k, v)] => (toJson? v).map fun a ↦ Json.quote k ++ ":" ++ a
  | (k, v) :: rest => do
    let a ← toJson? v
    let b ← entriesJson? rest
    pure (Json.quote k ++ ":" ++ a ++ "," ++ b)
end

end Datum

end LuaDebugger
