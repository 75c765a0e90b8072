import LuaDebugger.CoreInstances
/-!
# Tokens of Lua source

The kinds of token a Lua chunk is made of, positions in the source, and the fault a
malformed chunk is refused with. A position counts lines from one and columns from one,
column zero standing just after a line break; the end of the input has no line.
-/

namespace LuaDebugger.Lua

/-- The kind of a token. -/
inductive TokenKind where
  | name | number | string
  | kwAnd | kwBreak | kwDo | kwElse | kwElseif | kwEnd | kwFalse | kwFor | kwFunction
  | kwGoto | kwIf | kwIn | kwLocal | kwNil | kwNot | kwOr | kwRepeat | kwReturn | kwThen
  | kwTrue | kwUntil | kwWhile
  | plus | minus | star | slash | percent | caret | hash
  | lparen | rparen | lbrace | rbrace | lbracket | rbracket
  | semicolon | colon | doubleColon | comma | dot | concat | ellipsis
  | assign | eq | ne | lt | le | gt | ge
  | eof
  deriving DecidableEq, Repr, Inhabited

/-- The keyword a name stands for, if it is reserved. -/
def keywordKind? (s : String) : Option TokenKind :=
  match s with
  | "and" => some .kwAnd | "break" => some .kwBreak | "do" => some .kwDo
  | "else" => some .kwElse | "elseif" => some .kwElseif | "end" => some .kwEnd
  | "false" => some .kwFalse | "for" => some .kwFor | "function" => some .kwFunction
  | "goto" => some .kwGoto | "if" => some .kwIf | "in" => some .kwIn
  | "local" => some .kwLocal | "nil" => some .kwNil | "not" => some .kwNot
  | "or" => some .kwOr | "repeat" => some .kwRepeat | "return" => some .kwReturn
  | "then" => some .kwThen | "true" => some .kwTrue | "until" => some .kwUntil
  | "while" => some .kwWhile
  | _ => none

/-- A place in the source: a line from one and a column. -/
structure Pos where
  /-- The line, from one. -/
  line : Nat
  /-- The column of the last byte read on the line; zero just after a line break. -/
  col : Nat
  deriving DecidableEq, Repr, Inhabited

/-- A token: its kind, its text, the line it starts on, and where the scanner stood after
it (`none` when the end of the input had been read). -/
structure Token where
  /-- The kind. -/
  kind : TokenKind
  /-- The text: the name, the digits of a number, the value of a string. -/
  text : ByteArray
  /-- The line of the token's first byte. -/
  line : Nat
  /-- The scanner's position after the token. -/
  stop : Option Pos
  deriving Inhabited

/-- Why a chunk was refused: where the scanner stood, the text of the token it stood at,
and what was wrong. -/
structure SyntaxFault where
  /-- The scanner's position; `none` once the end of the input was read. -/
  at? : Option Pos
  /-- The text of the token in question. -/
  near : ByteArray
  /-- What was wrong. -/
  message : String
  deriving Inhabited

namespace SyntaxFault

/-- The text of a fault in a chunk called `source`, ending in a line feed. -/
def render (source : String) (e : SyntaxFault) : ByteArray :=
  match e.at? with
  | none => (source ++ " at EOF:   " ++ e.message ++ "\n").toUTF8
  | some p =>
    (source ++ " line:" ++ toString p.line ++ "(column:" ++ toString p.col ++ ") near '").toUTF8
      ++ e.near ++ ("':   " ++ e.message ++ "\n").toUTF8

end SyntaxFault

end LuaDebugger.Lua
