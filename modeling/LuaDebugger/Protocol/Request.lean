import LuaDebugger.Text.Space
import LuaDebugger.Text.Bytes
/-!
# Client requests

The client speaks in lines. A line that holds only white space is no request; any other is
cut at every single space, the first part naming the request and the others being its
arguments, empty ones included. A line may end in a carriage return, which is dropped once.
A chunk of input is cut at line feeds and read line by line.
-/

namespace LuaDebugger

/-- A request line of the client: a name and its arguments, as raw bytes. -/
structure Request where
  /-- The request's name. -/
  name : ByteArray
  /-- The arguments, in order. -/
  args : List ByteArray
  deriving DecidableEq, Inhabited

namespace Request

/-- The arguments joined by single spaces: the text after the name. -/
def rest (r : Request) : ByteArray := Text.joinBytes " ".toUTF8 r.args

/-- The text after the name. -/
def restText (r : Request) : String := Text.decodeLossy r.rest

/-- Reads one line: none for a blank line, else the name and the arguments. -/
def ofLine? (line : ByteArray) : Option Request :=
  let line := Text.dropFinal 13 line
  if Text.isBlankBytes line then none
  else match Text.splitBytes 32 line with
    | name :: args => some ⟨name, args⟩
    | [] => none

/-- The requests of a chunk, one per line that is not blank, in order. -/
def ofChunk (chunk : ByteArray) : List Request :=
  (Text.splitBytes 10 chunk).filterMap ofLine?

/-- A request built from text. -/
def ofText? (line : String) : Option Request := ofLine? line.toUTF8

end Request

end LuaDebugger
