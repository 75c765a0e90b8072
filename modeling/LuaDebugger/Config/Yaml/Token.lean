import LuaDebugger.CoreInstances
/-!
# YAML tokens and faults

The scanner cuts a YAML stream into tokens: indicators of structure (the starts and ends of
block and flow collections, entries, keys and values), anchors, aliases, tags and scalars.
Each token carries the marks where it starts and stops: the index of the character, its
line and its column, all counted from zero.

A fault of the scanner or the parser names the problem and the mark where it was found, and
often a context mark, where the construct that failed began. Its message names a line: the
context's line when it is not the first, else the problem's when that is not the first, and
none otherwise; a fault of the scanner counts lines from one there, a fault of the parser
from zero.
-/

namespace LuaDebugger.Yaml

/-- A place in the stream: the index of a character, its line and its column, from zero. -/
structure Mark where
  /-- The index of the character. -/
  index : Nat := 0
  /-- The line, from zero. -/
  line : Nat := 0
  /-- The column, from zero. -/
  column : Nat := 0
  deriving Repr, Inhabited, DecidableEq

/-- How a scalar is written. -/
inductive ScalarStyle where
  | plain
  | singleQuoted
  | doubleQuoted
  | literal
  | folded
  deriving Repr, Inhabited, DecidableEq

/-- The kinds of tokens. -/
inductive TokenKind where
  | streamStart
  | streamEnd
  /-- A `%YAML` directive with its version. -/
  | versionDirective (major minor : Nat)
  /-- A `%TAG` directive with its handle and prefix. -/
  | tagDirective (handle pre : String)
  | documentStart
  | documentEnd
  | blockSequenceStart
  | blockMappingStart
  | blockEnd
  | flowSequenceStart
  | flowSequenceEnd
  | flowMappingStart
  | flowMappingEnd
  | blockEntry
  | flowEntry
  | key
  | value
  | reference (name : String)
  | anchor (name : String)
  /-- A tag: its handle and suffix. -/
  | tag (handle suffix : String)
  | scalar (text : String) (style : ScalarStyle)
  deriving Repr, Inhabited

/-- A token with the marks where it starts and stops. -/
structure Token where
  /-- What the token is. -/
  kind : TokenKind
  /-- Where it starts. -/
  start : Mark
  /-- Where it stops. -/
  stop : Mark
  deriving Repr, Inhabited

/-- A fault found while reading a YAML stream. -/
inductive Fault where
  /-- A fault of the scanner (`scanner`) or the parser, with its context mark, the problem
  and the mark of the problem. -/
  | invalid (scanner : Bool) (contextMark : Mark) (problem : String) (problemMark : Mark)
  /-- A fault found while building or reading the document. -/
  | document (message : String)
  deriving Inhabited

namespace Fault

/-- The message of a fault. -/
def message : Fault → String
  | .document m => "yaml: " ++ m
  | .invalid scanner ctx problem pm =>
    let shift := if scanner then 1 else 0
    let line := if ctx.line != 0 then ctx.line + shift
      else if pm.line != 0 then pm.line + shift else 0
    "yaml: " ++ (if line != 0 then "line " ++ toString line ++ ": " else "") ++ problem

end Fault

end LuaDebugger.Yaml
