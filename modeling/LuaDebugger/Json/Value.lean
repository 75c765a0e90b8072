import LuaDebugger.Datum.Json
/-!
# JSON documents

A JSON document as written: numbers keep the text of their literal, so that `1e2`, `100`
and `-0.0` stay apart, and objects keep their members in order. Reading accepts the JSON
grammar with surrounding white space; writing is compact, with the string escapes of
`Json.escapeChar`.
-/

namespace LuaDebugger

/-- A JSON value. -/
inductive JsonValue where
  | null
  | bool (b : Bool)
  /-- A number, as the text of its literal. -/
  | number (literal : String)
  | str (s : String)
  | arr (items : List JsonValue)
  /-- An object, members in the order written. -/
  | obj (members : List (String × JsonValue))
  deriving Inhabited

namespace JsonValue

mutual
/-- The compact text of a JSON value. -/
def render : JsonValue → String
  | .null => "null"
  | .bool b => if b then "true" else "false"
  | .number t => t
  | .str s => Json.quote s
  | .arr xs => "[" ++ renderItems xs ++ "]"
  | .obj ms => "\x7b" ++ renderMembers ms ++ "\x7d"
/-- Items separated by commas. -/
def renderItems : List JsonValue → String
  | [] => ""
  | [x] => render x
  | x :: rest => render x ++ "," ++ renderItems rest
/-- Members separated by commas. -/
def renderMembers : List (String × JsonValue) → String
  | [] => ""
  | [(k, v)] => Json.quote k ++ ":" ++ render v
  | (k, v) :: rest => Json.quote k ++ ":" ++ render v ++ "," ++ renderMembers rest
end

/-- The member `key` of an object. -/
def field? (v : JsonValue) (key : String) : Option JsonValue :=
  match v with
  | .obj ms => (ms.find? (·.1 == key)).map (·.2)
  | _ => none

end JsonValue

namespace JsonRead

/-- Skips white space. -/
def skipSpace : List Char → List Char
  | c :: rest => if c = ' ' ∨ c = '\t' ∨ c = '\n' ∨ c = '\r' then skipSpace rest else c :: rest
  | [] => []

theorem skipSpace_length (cs : List Char) : (skipSpace cs).length ≤ cs.length := by
  induction cs with
  | nil => simp [skipSpace]
  | cons c rest ih =>
    simp only [skipSpace]
    split
    · exact Nat.le_succ_of_le ih
    · exact Nat.le_refl _

/-- The value of four hex digits. -/
def hex4 (cs : List Char) : Option Nat :=
  if cs.length < 4 then none
  else (cs.take 4).foldl (fun acc c ↦ acc.bind fun n ↦
    if '0' ≤ c ∧ c ≤ '9' then some (n * 16 + (c.toNat - 48))
    else if 'a' ≤ c ∧ c ≤ 'f' then some (n * 16 + (c.toNat - 87))
    else if 'A' ≤ c ∧ c ≤ 'F' then some (n * 16 + (c.toNat - 55))
    else none) (some 0)

/-- Reads the rest of a string after its opening quote: the characters and what follows the
closing quote. -/
def readString (cs : List Char) (acc : List Char) : Option (String × List Char) :=
  match cs with
  | [] => none
  | '"' :: rest => some (String.ofList acc.reverse, rest)
  | '\\' :: e :: rest =>
    match e with
    | '"' => readString rest ('"' :: acc)
    | '\\' => readString rest ('\\' :: acc)
    | '/' => readString rest ('/' :: acc)
    | 'b' => readString rest ('\x08' :: acc)
    | 'f' => readString rest ('\x0c' :: acc)
    | 'n' => readString rest ('\n' :: acc)
    | 'r' => readString rest ('\r' :: acc)
    | 't' => readString rest ('\t' :: acc)
    | 'u' =>
      match hex4 rest with
      | none => none
      | some hi =>
        let after := rest.drop 4
        if 0xD800 ≤ hi ∧ hi < 0xDC00 then
          if after.take 2 = ['\\', 'u'] then
            match hex4 (after.drop 2) with
            | some lo =>
              if 0xDC00 ≤ lo ∧ lo < 0xE000 then
                readString ((after.drop 2).drop 4)
                  (Char.ofNat (0x10000 + (hi - 0xD800) * 0x400 + (lo - 0xDC00)) :: acc)
              else readString after ('�' :: acc)
            | none => none
          else readString after ('�' :: acc)
        else if 0xDC00 ≤ hi ∧ hi < 0xE000 then readString after ('�' :: acc)
        else readString after (Char.ofNat hi :: acc)
    | _ => none
  | c :: rest => readString rest (c :: acc)
  termination_by cs.length
  decreasing_by all_goals (simp_all; try omega)

/-- Whether a character may appear in a number literal. -/
def numberChar (c : Char) : Bool :=
  c.isDigit || c = '-' || c = '+' || c = '.' || c = 'e' || c = 'E'

mutual
/-- Reads a value at the start of `cs` (after white space): the value and the rest. -/
def readValue (cs : List Char) : Option (JsonValue × List Char) :=
  match cs with
  | 'n' :: 'u' :: 'l' :: 'l' :: rest => some (.null, rest)
  | 't' :: 'r' :: 'u' :: 'e' :: rest => some (.bool true, rest)
  | 'f' :: 'a' :: 'l' :: 's' :: 'e' :: rest => some (.bool false, rest)
  | '"' :: rest => (readString rest []).map fun (s, r) ↦ (.str s, r)
  | '[' :: rest => readItems (skipSpace rest) []
  | '{' :: rest => readMembers (skipSpace rest) []
  | c :: rest =>
    if c = '-' ∨ c.isDigit then
      let lit := (c :: rest).takeWhile numberChar
      some (.number (String.ofList lit), (c :: rest).drop lit.length)
    else none
  | [] => none
  termination_by 2 * cs.length
  decreasing_by all_goals grind [skipSpace_length]
/-- Reads the items of an array after its opening bracket, `acc` holding those read. -/
def readItems (cs : List Char) (acc : List JsonValue) : Option (JsonValue × List Char) :=
  if cs.head? = some ']' then some (.arr acc.reverse, cs.drop 1)
  else
    match readValue cs with
    | none => none
    | some (v, rest) =>
      match skipSpace rest with
      | ',' :: more => if more.length < cs.length then readItems (skipSpace more) (v :: acc) else none
      | ']' :: more => some (.arr (v :: acc).reverse, more)
      | _ => none
  termination_by 2 * cs.length + 1
  decreasing_by all_goals grind [skipSpace_length]
/-- Reads the members of an object after its opening brace, `acc` holding those read. -/
def readMembers (cs : List Char) (acc : List (String × JsonValue)) :
    Option (JsonValue × List Char) :=
  match cs with
  | '}' :: rest => some (.obj acc.reverse, rest)
  | '"' :: rest =>
    match readString rest [] with
    | none => none
    | some (k, afterKey) =>
      match skipSpace afterKey with
      | ':' :: more =>
        if more.length ≤ rest.length then
          match readValue (skipSpace more) with
          | none => none
          | some (v, after) =>
            match skipSpace after with
            | ',' :: next =>
              if next.length ≤ rest.length then readMembers (skipSpace next) ((k, v) :: acc) else none
            | '}' :: next => some (.obj ((k, v) :: acc).reverse, next)
            | _ => none
        else none
      | _ => none
  | _ => none
  termination_by 2 * cs.length + 1
  decreasing_by all_goals grind [skipSpace_length]
end

end JsonRead

/-- Reads a whole text as one JSON value. -/
def JsonValue.parse? (s : String) : Option JsonValue :=
  match JsonRead.readValue (JsonRead.skipSpace s.toList) with
  | some (v, rest) => if (JsonRead.skipSpace rest).isEmpty then some v else none
  | none => none

end LuaDebugger
