import LuaDebugger.Decimal.Read
import LuaDebugger.Datum.Basic
/-!
# What a YAML scalar stands for

A plain scalar without a tag is resolved by its text. The words `true` and `false` (in
lower case, capitalised or upper case) are booleans; the empty text, `~` and `null` are the
absent value; `.nan` and `.inf` with an optional sign are floats. A text that starts with a
digit or a sign may be a timestamp, a decimal, octal, hexadecimal or binary integer with
underscores between its digits (a signed 64-bit value first, else an unsigned one), or a
decimal float; anything else is a string.

A tag narrows resolution: `!!str` and `!!binary` take the text as it is, and a tag of a
scalar type must agree with what the text resolves to, except that an integer is accepted
as a float. Other tags leave the text a string.
-/

namespace LuaDebugger.Yaml

/-- The prefix of the tags of the core schema. -/
def longTagPrefix : String := "tag:yaml.org,2002:"

/-- A tag with the core schema's prefix written as `!!`. -/
def shortTag (tag : String) : String :=
  if tag.startsWith longTagPrefix then "!!" ++ String.ofList (tag.toList.drop longTagPrefix.length)
  else tag

/-- What a scalar stands for. -/
inductive Scalar where
  /-- The absent value. -/
  | null
  | bool (b : Bool)
  /-- A signed 64-bit integer. -/
  | int (i : Int)
  /-- An unsigned 64-bit integer beyond the signed range. -/
  | uint (n : Nat)
  | float (x : Float)
  /-- A string: the text itself, or another for a binary scalar. -/
  | text (s : String)
  /-- A point in time: its date and time at an offset from UTC in seconds, and whether
  its zone is UTC. -/
  | timestamp (d : CivilDate) (t : CivilTime) (offset : Int) (utc : Bool)
  deriving Inhabited

/-- The words that resolve by themselves, with their tags. -/
def wordValue? : String → Option (String × Scalar)
  | "true" | "True" | "TRUE" => some ("!!bool", .bool true)
  | "false" | "False" | "FALSE" => some ("!!bool", .bool false)
  | "" | "~" | "null" | "Null" | "NULL" => some ("!!null", .null)
  | ".nan" | ".NaN" | ".NAN" => some ("!!float", .float (0.0 / 0.0))
  | ".inf" | ".Inf" | ".INF" | "+.inf" | "+.Inf" | "+.INF" => some ("!!float", .float (1.0 / 0.0))
  | "-.inf" | "-.Inf" | "-.INF" => some ("!!float", .float (-(1.0 / 0.0)))
  | _ => none

/-- How the first character of a text hints at its type: `S` for a sign, `D` for a digit,
`M` for the first letter of a word, `.` for a point, `N` for the empty text. -/
def hint (s : String) : Option Char :=
  match s.toList with
  | [] => some 'N'
  | c :: _ =>
    if c = '+' ∨ c = '-' then some 'S'
    else if c.isDigit then some 'D'
    else if "yYnNtTfFoO~".toList.contains c then some 'M'
    else if c = '.' then some '.'
    else none

/-- The value of a decimal digit. -/
def digitOf (c : Char) : Nat := c.toNat - 48

/-- One or two leading digits and what follows them. -/
def shortNumber : List Char → Option (Nat × List Char)
  | a :: b :: r =>
    if a.isDigit then (if b.isDigit then some (digitOf a * 10 + digitOf b, r) else some (digitOf a, b :: r))
    else none
  | [a] => if a.isDigit then some (digitOf a, []) else none
  | [] => none

/-- The number of days of a month. -/
def daysIn (month : Nat) (year : Nat) : Nat :=
  if month = 2 then (if year % 4 = 0 ∧ (year % 100 ≠ 0 ∨ year % 400 = 0) then 29 else 28)
  else if month = 4 ∨ month = 6 ∨ month = 9 ∨ month = 11 then 30
  else 31

/-- Reads a fraction of a second, a point or comma and digits, as nanoseconds from its
first nine digits. -/
def readFraction : List Char → Nat × List Char
  | c :: d :: r =>
    if (c = '.' ∨ c = ',') ∧ d.isDigit then
      let ds := (d :: r).takeWhile Char.isDigit
      let nine := (ds.take 9) ++ List.replicate (9 - min 9 ds.length) '0'
      (nine.foldl (fun n c ↦ n * 10 + digitOf c) 0, (d :: r).drop ds.length)
    else (0, c :: d :: r)
  | cs => (0, cs)

/-- Reads a zone: `Z`, or `±hh:mm` with at most 24 hours and 60 minutes, as its offset in
seconds and whether it is UTC; the zone must end the text. -/
def readZone : List Char → Option (Int × Bool)
  | ['Z'] => some (0, true)
  | [s, h1, h2, ':', m1, m2] =>
    if (s = '+' ∨ s = '-') ∧ h1.isDigit ∧ h2.isDigit ∧ m1.isDigit ∧ m2.isDigit then
      let h := digitOf h1 * 10 + digitOf h2
      let m := digitOf m1 * 10 + digitOf m2
      if h ≤ 24 ∧ m ≤ 60 then
        let o : Int := ((h * 60 + m) * 60 : Nat)
        let o := if s = '-' then -o else o
        some (o, o = 0)
      else none
    else none
  | _ => none

/-- Reads a time of day `h:m:s` with an optional fraction, and what follows it. -/
def readClock (cs : List Char) : Option (CivilTime × List Char) :=
  match shortNumber cs with
  | some (h, ':' :: r) =>
    if h ≥ 24 then none
    else match shortNumber r with
      | some (m, ':' :: r) =>
        if m ≥ 60 then none
        else match shortNumber r with
          | some (sec, r) =>
            if sec ≥ 60 then none
            else
              let (ns, r) := readFraction r
              some ({ hour := h, minute := m, second := sec, nanos := ns }, r)
          | none => none
      | _ => none
  | _ => none

/-- Reads a timestamp: a date `yyyy-m-d`, alone, or with a time after `T` or `t` and a
zone, or after spaces and nothing more. A time without a zone is in UTC. -/
def readTimestamp (s : String) : Option (CivilDate × CivilTime × Int × Bool) :=
  let cs := s.toList
  let year := cs.takeWhile Char.isDigit
  if year.length ≠ 4 ∨ (cs.drop 4).head? ≠ some '-' then none
  else
    let y := year.foldl (fun n c ↦ n * 10 + digitOf c) 0
    match shortNumber (cs.drop 5) with
    | some (month, '-' :: r) =>
      if month < 1 ∨ month > 12 then none
      else match shortNumber r with
        | some (day, r) =>
          if day < 1 ∨ day > daysIn month y then none
          else
            let date : CivilDate := ⟨y, month, day⟩
            match r with
            | [] => some (date, { hour := 0, minute := 0, second := 0 }, 0, true)
            | 'T' :: r | 't' :: r =>
              match readClock r with
              | some (t, rest) => (readZone rest).map fun (o, u) ↦ (date, t, o, u)
              | none => none
            | ' ' :: r =>
              match readClock (r.dropWhile (· = ' ')) with
              | some (t, []) => some (date, t, 0, true)
              | _ => none
            | _ => none
        | none => none
    | _ => none

/-- Whether a text has the form of a float: digits with an optional point and fraction,
or a point and digits, then an optional exponent. -/
def isFloatForm (s : String) : Bool :=
  let cs := match s.toList with
    | '+' :: r | '-' :: r => r
    | r => r
  let digits := cs.takeWhile Char.isDigit
  let rest := cs.drop digits.length
  let mantissaRest : Option (List Char) :=
    if digits.isEmpty then
      match rest with
      | '.' :: r =>
        let frac := r.takeWhile Char.isDigit
        if frac.isEmpty then none else some (r.drop frac.length)
      | _ => none
    else
      match rest with
      | '.' :: r => some (r.dropWhile Char.isDigit)
      | r => some r
  match mantissaRest with
  | none => false
  | some [] => true
  | some (e :: r) =>
    (e = 'e' ∨ e = 'E') &&
      let r := match r with
        | '+' :: t | '-' :: t => t
        | t => t
      !r.isEmpty && r.all Char.isDigit

/-- What a text resolves to under a tag of the core schema, or `!!str` as it is. -/
def resolveText (tag s : String) : String × Scalar :=
  match hint s with
  | none => ("!!str", .text s)
  | some h =>
    if tag = "!!str" ∨ tag = "!!binary" then ("!!str", .text s)
    else match wordValue? s with
      | some r => r
      | none =>
        if h = '.' then
          match Decimal.readFloat s with
          | .ok x => ("!!float", .float x)
          | .error _ => ("!!str", .text s)
        else if h = 'D' ∨ h = 'S' then
          match (if tag = "" ∨ tag = "!!timestamp" then readTimestamp s else none) with
          | some (d, t, o, u) => ("!!timestamp", .timestamp d t o u)
          | none =>
            let plain := String.ofList (s.toList.filter (· ≠ '_'))
            match Decimal.readInt 0 plain with
            | .ok i => ("!!int", .int i)
            | .error _ =>
              match Decimal.readNat 0 plain with
              | .ok n => ("!!int", .uint n)
              | .error _ =>
                if isFloatForm plain then
                  match Decimal.readFloat plain with
                  | .ok x => ("!!float", .float x)
                  | .error _ => ("!!str", .text s)
                else ("!!str", .text s)
        else ("!!str", .text s)

/-- Whether scalars under a tag are resolved by their text. -/
def isResolvable (tag : String) : Bool :=
  tag = "" ∨ tag = "!!str" ∨ tag = "!!bool" ∨ tag = "!!int" ∨ tag = "!!float" ∨ tag = "!!null" ∨
    tag = "!!timestamp"

/-- The float nearest to an integer. -/
def floatOfInt (i : Int) : Float :=
  let x := Float.ofScientific i.natAbs false 0
  if i < 0 then -x else x

/-- Resolves a scalar's text under its tag: the tag it resolves to and its value, or the
message of a disagreement between the tag and the text. -/
def resolve (tag s : String) : Except String (String × Scalar) :=
  let tag := shortTag tag
  if !isResolvable tag then .ok (tag, .text s)
  else
    let (rtag, v) := resolveText tag s
    if tag = "" ∨ tag = rtag ∨ tag = "!!str" ∨ tag = "!!binary" then .ok (rtag, v)
    else match tag, v with
      | "!!float", .int i => .ok ("!!float", .float (floatOfInt i))
      | _, _ => .error ("cannot decode " ++ rtag ++ " `" ++ s ++ "` as a " ++ tag)

end LuaDebugger.Yaml
