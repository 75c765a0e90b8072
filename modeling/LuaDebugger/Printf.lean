import LuaDebugger.Decimal.Fixed
import LuaDebugger.Decimal.Read
import LuaDebugger.Text.Quote
import LuaDebugger.Text.Space
import LuaDebugger.Text.Bytes
/-!
# Printf-style formatting

A format text with directives `%[flags][width][.precision]verb` and a list of arguments.

* The flags are `#`, `0`, `+`, `-` and space. A width or a precision is a run of digits, or
  `*` to take it from the next argument, which must then be an integer (else
  `%!(BADWIDTH)` or `%!(BADPREC)` is written). A number past a million is no number.
* Each directive takes the next argument, or the one named by an index `[n]` before the
  width, the precision or the verb; an index that names no argument, or one placed where it
  cannot apply, writes `%!verb(BADINDEX)`. `%%` is a percent sign and takes nothing.
* An argument that does not fit its verb is written `%!verb(type=value)`, a directive
  without an argument `%!verb(MISSING)`, a directive cut short by the end of the format
  `%!(NOVERB)`, and arguments left over, when no index was used, `%!(EXTRA type=value, ...)`.
* The verb `T` writes the name of the argument's type. The verb `v` writes any value in its
  plain form; under `#` it writes strings quoted and lists and maps in literal syntax, and
  it ignores `+`.

An argument may carry a text of its own (a span of time, a script value): the verbs `v`,
`s`, `q`, `x` and `X` format that text, the others the value under it.

The format and the result are byte strings. Text outside the directives, and a string
under `v` or `s`, are copied byte for byte; a width counts characters, and a byte that is
not part of a well-formed character counts as one.
-/

namespace LuaDebugger

/-- A value of a basic type: a signed 64-bit integer, a binary64 value or a byte string. -/
inductive FmtBasic where
  | int (n : Int)
  | float (x : Float)
  | str (b : ByteArray)
  deriving Inhabited

/-- An argument of a format. -/
inductive FmtArg where
  /-- The absent value. -/
  | nil
  | bool (b : Bool)
  /-- A signed integer, with the name of its type. -/
  | int (n : Int) (ty : String)
  /-- An unsigned integer, with the name of its type. -/
  | uint (n : Nat) (ty : String)
  /-- A binary64 value, with the name of its type. -/
  | float (x : Float) (ty : String)
  /-- A byte string, with the name of its type. -/
  | str (b : ByteArray) (ty : String)
  /-- A value that has a text of its own, with the name of its type and the value under it. -/
  | shown (text : String) (ty : String) (under : FmtArg)
  /-- A reference to a record without fields, of the named record type: `&{}` under every
  verb, and `&name{}` in literal syntax. -/
  | emptyRecord (name : String)
  | list (items : List FmtArg)
  /-- A map, entries in key order. -/
  | map (entries : List (String × FmtArg))
  /-- A value that chooses its own form, with the name of its type: under each verb, the
  basic value to write and the verb to write it under, with the same flags, width and
  precision. A misfit of the verb `p` shows the value `under`. -/
  | chosen (ty : String) (under : FmtBasic) (pick : Char → FmtBasic × Char)
  deriving Inhabited

/-- A basic value as an argument, with the name of its type. -/
def FmtBasic.toArg : FmtBasic → FmtArg
  | .int n => .int n "int64"
  | .float x => .float x "float64"
  | .str b => .str b "string"

/-- The flags, width and precision of one directive. -/
structure FmtSpec where
  /-- Pad on the right. -/
  minus : Bool := false
  /-- Fill the width on the left with zeros rather than spaces. -/
  zero : Bool := false
  /-- Always write the sign of a number. -/
  plus : Bool := false
  /-- Write a space where a positive number has no sign. -/
  space : Bool := false
  /-- The alternate form. -/
  sharp : Bool := false
  /-- The `#` flag of the verb `v`: values in literal syntax. -/
  sharpV : Bool := false
  /-- The `+` flag of the verb `v`, which only a value that chooses its own form reads. -/
  plusV : Bool := false
  /-- The least width. -/
  width : Option Nat := none
  /-- The precision. -/
  precision : Option Nat := none
  deriving Inhabited

namespace Printf

/-- `n` copies of `c`. -/
def fill (n : Nat) (c : Char) : String := String.ofList (List.replicate n c)

/-- The character that fills the width on the left: a zero under the zero flag, else a
space. The flag is never set together with `-`, which fills on the right with spaces. -/
def padChar (spec : FmtSpec) : Char := if spec.zero ∧ ¬spec.minus then '0' else ' '

/-- Pads a text to the width of the spec: on the right with spaces under `-`, else on the
left with the spec's filling character, so that under the zero flag every text (a string,
a truth value, `<nil>`, a type name) takes zeros in front. -/
def padText (spec : FmtSpec) (s : String) : String :=
  match spec.width with
  | none => s
  | some w =>
    if s.length ≥ w then s
    else if spec.minus then s ++ fill (w - s.length) ' '
    else fill (w - s.length) (padChar spec) ++ s

/-- Pads a text with spaces only, whatever the zero flag says: for integers, whose zeros
are placed among their digits, for code points and for the words of the infinities and
NaN. -/
def padBlank (spec : FmtSpec) (s : String) : String := padText { spec with zero := false } s

/-- The sign of a number as the spec writes it. -/
def signText (spec : FmtSpec) (neg : Bool) : String :=
  if neg then "-" else if spec.plus then "+" else if spec.space then " " else ""

/-- The digits of `n` in `base`, uppercase when `upper` holds. -/
def digitsIn (base n : Nat) (upper : Bool) : String :=
  let ds := Nat.toDigits base n
  String.ofList (if upper then ds.map Decimal.asciiLower |>.map Char.toUpper else ds)

/-- An integer of magnitude `m` in `base`. The precision, or else the zero flag with a
width, asks for leading zeros; a zero precision writes a zero as nothing. Under `#` the
digits take the prefix of their base, and `octal` adds the prefix `0o`; the sign comes
first, and the whole is padded with spaces. -/
def integerText (spec : FmtSpec) (base : Nat) (upper octal neg : Bool) (m : Nat) : String :=
  if spec.precision = some 0 ∧ m = 0 then padBlank spec ""
  else
    let least := match spec.precision, spec.width with
      | some p, _ => p
      | none, some w =>
        if spec.zero ∧ ¬spec.minus then (if neg ∨ spec.plus ∨ spec.space then w - 1 else w) else 0
      | none, none => 0
    let ds := digitsIn base m upper
    let ds := fill (least - ds.length) '0' ++ ds
    let mark :=
      if spec.sharp then
        match base with
        | 2 => "0b"
        | 8 => if ds.startsWith "0" then "" else "0"
        | 16 => if upper then "0X" else "0x"
        | _ => ""
      else ""
    padBlank spec (signText spec neg ++ (if octal then "0o" else "") ++ mark ++ ds)

/-- The character a code point stands for; past the last code point, a negative number and
a surrogate stand for the replacement character. -/
def runeOf (n : Int) : Char :=
  if n < 0 ∨ n > 0x10FFFF ∨ (0xD800 ≤ n ∧ n ≤ 0xDFFF) then Char.ofNat 0xFFFD else Char.ofNat n.toNat

/-- The escaped form of a character, with every character past ASCII escaped by its code. -/
def quoteCharAscii (c : Char) : String :=
  if c.toNat < 0x80 then Text.quoteChar c
  else if c.toNat < 0x10000 then "\\u" ++ Text.hexPadded 4 c.toNat
  else "\\U" ++ Text.hexPadded 8 c.toNat

/-- A character between single quotes, escaped so that it reads back; `ascii` escapes every
character past ASCII. -/
def quoteRune (ascii : Bool) (c : Char) : String :=
  if c = '\'' then "'\\''"
  else if c = '"' then "'\"'"
  else "'" ++ (if ascii then quoteCharAscii c else Text.quoteChar c) ++ "'"

/-- A code point written `U+XXXX`, with at least four digits or as many as the precision
asks; under `#` a printable character follows between quotes. -/
def unicodeText (spec : FmtSpec) (u : Nat) : String :=
  let ds := digitsIn 16 u true
  let least := max 4 (spec.precision.getD 0)
  let shown :=
    if spec.sharp ∧ u ≤ 0x10FFFF ∧ Text.isPrintable (Char.ofNat u) then
      " '" ++ String.singleton (Char.ofNat u) ++ "'"
    else ""
  padBlank spec ("U+" ++ fill (least - ds.length) '0' ++ ds ++ shown)

/-- An integer under an integer verb; `unsigned` marks a value of an unsigned type. -/
def intText (spec : FmtSpec) (v : Char) (unsigned : Bool) (n : Int) : Option String :=
  let neg := n < 0
  let m := n.natAbs
  -- the bits of the value as an unsigned 64-bit number
  let bits : Nat := if neg then 2 ^ 64 - m else m
  match v with
  | 'v' =>
    if spec.sharpV ∧ unsigned then some (integerText { spec with sharp := true } 16 false false neg m)
    else some (integerText spec 10 false false neg m)
  | 'd' => some (integerText spec 10 false false neg m)
  | 'b' => some (integerText spec 2 false false neg m)
  | 'o' => some (integerText spec 8 false false neg m)
  | 'O' => some (integerText spec 8 false true neg m)
  | 'x' => some (integerText spec 16 false false neg m)
  | 'X' => some (integerText spec 16 true false neg m)
  | 'c' => some (padText spec (String.singleton (runeOf bits)))
  | 'q' =>
    let c := runeOf bits
    if spec.sharp ∧ Text.isPrintable c then some (padText spec ("'" ++ String.singleton c ++ "'"))
    else some (padText spec (quoteRune spec.plus c))
  | 'U' => some (unicodeText spec bits)
  | _ => none

/-- The hexadecimal form of a finite binary64 value's magnitude, `0x1.8p+00`: a leading
digit `1` (`0` for zero), the fraction in hexadecimal, and the binary exponent with at least
two digits. A precision below fifteen rounds the fraction to that many places, a tie going
to the even neighbour; without one the fraction has as many places as are exact. -/
def hexFloatDigits (upper : Bool) (prec : Option Nat) (x : Decimal.Binary) : String :=
  let one : Nat := 2 ^ 60
  -- the mantissa with its leading one at bit 60, and the exponent of that bit
  let (n, e) : Nat × Int :=
    if x.m = 0 then (0, 0)
    else
      let k := Nat.log2 x.m
      (x.m * 2 ^ (60 - k), x.q + k)
  let (n, e) : Nat × Int :=
    match prec with
    | some p =>
      if p < 15 then
        let shift := 4 * p
        let extra := (n * 2 ^ shift) % one
        let t := n / 2 ^ (60 - shift)
        let t := if extra ||| (t % 2) > 2 ^ 59 then t + 1 else t
        let n := t * 2 ^ (60 - shift)
        if n ≥ 2 * one then (n / 2, e + 1) else (n, e)
      else (n, e)
    | none => (n, e)
  let lead := if n ≥ one then "1" else "0"
  let places := (Nat.toDigits 16 (n % one + one)).drop 1
  let frac := match prec with
    | none => String.ofList (places.reverse.dropWhile (· = '0')).reverse
    | some p => String.ofList (places.take p) ++ fill (p - 15) '0'
  let body := "0x" ++ lead ++ (if frac = "" then "" else "." ++ frac) ++ "p" ++
    (if e < 0 then "-" else "+") ++ fill (2 - (Nat.toDigits 10 e.natAbs).length) '0' ++
    String.ofList (Nat.toDigits 10 e.natAbs)
  if upper then body.map Char.toUpper else body

/-- The digits of a finite binary64 value's magnitude under verb `v` (one of
`e E f F g G x X b`). -/
def floatDigits (spec : FmtSpec) (v : Char) (x : Float) : String :=
  let bits := x.toBits
  let b := Decimal.Binary.ofBits bits
  let zero := bits &&& 0x7FFFFFFFFFFFFFFF = 0
  let upper := v = 'E' ∨ v = 'G'
  let mark (s : String) : String := if upper then s.map Char.toUpper else s
  match v with
  | 'f' | 'F' =>
    let prec := spec.precision.getD 6
    (b.fixed prec).fixedText prec
  | 'e' | 'E' =>
    let prec := spec.precision.getD 6
    if zero then mark ((if prec = 0 then "0" else "0." ++ fill prec '0') ++ "e+00")
    else mark ((b.significant (prec + 1)).scientificText (prec + 1) 2)
  | 'x' | 'X' => hexFloatDigits (v = 'X') spec.precision b
  | 'b' =>
    String.ofList (Nat.toDigits 10 b.m) ++ "p" ++ (if b.q < 0 then "-" else "+") ++
      String.ofList (Nat.toDigits 10 b.q.natAbs)
  | _ =>
    match spec.precision with
    | none => mark (Decimal.FloatFormat.general.render (if bits >>> 63 = 1 then -x else x))
    | some p =>
      let p := max p 1
      if zero then "0"
      else
        let d := (b.significant p).normalize
        let lead := d.leadingExp
        if lead < -4 ∨ lead ≥ p then mark (d.scientific 2) else d.positional

/-- The alternate form of a number's digits under a float verb: a decimal point always, and
under `g`, `G` and `x` trailing zeros until `digits` characters of the number are written
from its first one that is not a zero (the `x` of `0x` counting as one). An exponent stays
at the end. -/
def alternateDigits (v : Char) (digits : Nat) (num : String) : String :=
  let cs := num.toList
  let isTail (c : Char) : Bool := c = 'p' ∨ c = 'P' ∨ ((c = 'e' ∨ c = 'E') ∧ v ≠ 'x' ∧ v ≠ 'X')
  let body := cs.takeWhile (fun c ↦ !isTail c)
  let tail := cs.dropWhile (fun c ↦ !isTail c)
  let counted := ((body.dropWhile (fun c ↦ c = '0' ∨ c = '.')).filter (· ≠ '.')).length
  let hasPoint := body.contains '.'
  let counted := if ¬hasPoint ∧ body = ['0'] then counted + 1 else counted
  String.ofList (body ++ (if hasPoint then [] else ['.'])) ++ fill (digits - counted) '0' ++
    String.ofList tail

/-- A binary64 value under verb `v` (one of `e E f F g G x X b`), padded. An infinity always
shows its sign and a NaN only under `+` or space, and neither takes zeros; under the zero
flag a finite number takes its zeros between the sign and the digits. Under `#` (but not
with `b`) the digits take their alternate form, with as many digits as the precision says,
six by default, under `g`, `G` and `x`. -/
def floatText (spec : FmtSpec) (v : Char) (x : Float) : String :=
  let bits := x.toBits
  let neg := bits >>> 63 = 1
  let e := (bits >>> 52) &&& 0x7FF
  let f := bits &&& 0xFFFFFFFFFFFFF
  if e = 0x7FF then
    if f ≠ 0 then padBlank spec (if spec.plus then "+NaN" else if spec.space then " NaN" else "NaN")
    else padBlank spec (if neg then "-Inf" else if spec.space ∧ ¬spec.plus then " Inf" else "+Inf")
  else
    let body := floatDigits spec v x
    let body :=
      if spec.sharp ∧ v ≠ 'b' then
        let digits := if v = 'g' ∨ v = 'G' ∨ v = 'x' then spec.precision.getD 6 else 0
        alternateDigits v digits body
      else body
    let sign := signText spec neg
    if sign = "" then padText spec body
    else
      match spec.width with
      | some w =>
        if spec.zero ∧ ¬spec.minus ∧ w > sign.length + body.length then
          sign ++ fill (w - sign.length - body.length) '0' ++ body
        else padText spec (sign ++ body)
      | none => sign ++ body

/-- A binary64 value under a verb, if the verb takes one. -/
def floatVerb (spec : FmtSpec) (v : Char) (x : Float) : Option String :=
  match v with
  | 'v' => some (floatText spec 'g' x)
  | 'e' | 'E' | 'f' | 'F' | 'g' | 'G' | 'x' | 'X' | 'b' => some (floatText spec v x)
  | _ => none

/-- A byte string cut to as many characters as the precision says. -/
def truncateBytes (spec : FmtSpec) (b : ByteArray) : ByteArray :=
  match spec.precision with
  | some p => ((Text.pieces b).take p).foldl (fun acc piece ↦ acc ++ piece.bytes) ByteArray.empty
  | none => b

/-- Pads a byte string to the width of the spec, a character or a stray byte counting as
one: on the right with spaces under `-`, else on the left with the spec's filling
character. -/
def padBytes (spec : FmtSpec) (b : ByteArray) : ByteArray :=
  match spec.width with
  | none => b
  | some w =>
    let n := (Text.pieces b).length
    if n ≥ w then b
    else if spec.minus then b ++ (fill (w - n) ' ').toUTF8
    else (fill (w - n) (padChar spec)).toUTF8 ++ b

/-- Whether a text can stand between backquotes: well formed, with no control character
but the tab, no backquote, no delete and no byte order mark. -/
def canBackquote (b : ByteArray) : Bool :=
  (Text.pieces b).all fun piece ↦ match piece with
    | .char c =>
      let n := c.toNat
      n ≠ 0xFEFF ∧ n ≠ 0x60 ∧ n ≠ 0x7F ∧ (n ≥ 0x20 ∨ n = 9)
    | .stray _ => false

/-- A byte string quoted: between backquotes under `#` when it can be, else between double
quotes, with every character past ASCII escaped under `+`. -/
def quoteText (spec : FmtSpec) (b : ByteArray) : String :=
  let b := truncateBytes spec b
  if spec.sharp ∧ canBackquote b then padText spec ("`" ++ Text.decodeLossy b ++ "`")
  else if spec.plus then
    let body := (Text.pieces b).foldl (fun acc piece ↦ acc ++ match piece with
      | .char c => quoteCharAscii c
      | .stray x => "\\x" ++ Text.hexPadded 2 x.toNat) ""
    padText spec ("\"" ++ body ++ "\"")
  else padText spec (Text.quoteBytes b)

/-- The bytes of a string in hex, two digits each, as many bytes as the precision says.
Under space the bytes are apart, and under `#` a prefix `0x` comes first, or before each
byte when they are apart. -/
def hexText (spec : FmtSpec) (b : ByteArray) (upper : Bool) : String :=
  let bytes := match spec.precision with
    | some p => b.toList.take p
    | none => b.toList
  let n := bytes.length
  if n = 0 then padText spec ""
  else
    let mark := if upper then "0X" else "0x"
    let digits (x : UInt8) := digitsIn 16 (x.toNat / 16) upper ++ digitsIn 16 (x.toNat % 16) upper
    let items := bytes.map fun x ↦ (if spec.space ∧ spec.sharp then mark else "") ++ digits x
    let body := (if spec.sharp ∧ ¬spec.space then mark else "") ++
      (if spec.space then " ".intercalate items else String.join items)
    padText spec body

/-- A byte string under a string verb; `v` and `s` write its bytes as they are. -/
def stringText (spec : FmtSpec) (v : Char) (b : ByteArray) : Option ByteArray :=
  match v with
  | 'v' =>
    if spec.sharpV then some (quoteText spec b).toUTF8
    else some (padBytes spec (truncateBytes spec b))
  | 's' => some (padBytes spec (truncateBytes spec b))
  | 'x' => some (hexText spec b false).toUTF8
  | 'X' => some (hexText spec b true).toUTF8
  | 'q' => some (quoteText spec b).toUTF8
  | _ => none

/-- The name of the type of an argument. -/
def typeName : FmtArg → String
  | .nil => "<nil>"
  | .bool _ => "bool"
  | .int _ ty | .uint _ ty | .float _ ty | .str _ ty | .shown _ ty _ => ty
  | .emptyRecord name => "*" ++ name
  | .chosen ty _ _ => ty
  | .list _ => "[]interface {}"
  | .map _ => "map[string]interface {}"

/-- A reference to a record without fields: `&{}`, with the record's name before the
braces in literal syntax. -/
def recordText (spec : FmtSpec) (name : String) : String :=
  "&" ++ (if spec.sharpV then name else "") ++ "\x7b\x7d"

/-- A truth value under a verb that takes one. -/
def boolText (spec : FmtSpec) (b : Bool) : ByteArray :=
  (padText spec (if b then "true" else "false")).toUTF8

/-- A basic value written under the verb `v`. -/
def basicPlain (spec : FmtSpec) : FmtBasic → ByteArray
  | .int n => ((intText spec 'v' false n).getD "").toUTF8
  | .float x => (floatText spec 'g' x).toUTF8
  | .str b => (stringText spec 'v' b).getD .empty

mutual
/-- An argument written under the verb `v` without its own text: what a misfit shows
after its type. -/
def plain (spec : FmtSpec) : FmtArg → ByteArray
  | .nil => (padText spec "<nil>").toUTF8
  | .bool b => boolText spec b
  | .int n _ => ((intText spec 'v' false n).getD "").toUTF8
  | .uint n _ => ((intText spec 'v' true n).getD "").toUTF8
  | .float x _ => (floatText spec 'g' x).toUTF8
  | .str b _ => (stringText spec 'v' b).getD .empty
  | .shown t _ under =>
    match under with
    | .nil => t.toUTF8
    | .shown u _ _ => u.toUTF8
    | x => plain spec x
  | .emptyRecord name => (recordText spec name).toUTF8
  | .chosen _ under _ => basicPlain spec under
  | .list xs =>
    if spec.sharpV then "[]interface {}\x7b".toUTF8 ++ plainItems spec ", " xs ++ "\x7d".toUTF8
    else "[".toUTF8 ++ plainItems spec " " xs ++ "]".toUTF8
  | .map kvs =>
    if spec.sharpV then
      "map[string]interface {}\x7b".toUTF8 ++ plainEntries spec ", " kvs ++ "\x7d".toUTF8
    else "map[".toUTF8 ++ plainEntries spec " " kvs ++ "]".toUTF8
/-- The items of a list written plainly, separated by `sep`. -/
def plainItems (spec : FmtSpec) (sep : String) : List FmtArg → ByteArray
  | [] => .empty
  | [x] => plainItem spec x
  | x :: rest => plainItem spec x ++ sep.toUTF8 ++ plainItems spec sep rest
/-- An item of a list written plainly; an absent item is `<nil>`, unpadded, or in Go syntax
`interface {}(nil)`. -/
def plainItem (spec : FmtSpec) : FmtArg → ByteArray
  | .nil => (if spec.sharpV then "interface {}(nil)" else "<nil>").toUTF8
  | x => plain spec x
/-- The entries of a map written plainly, separated by `sep`; a key is written as a string
under `v`. -/
def plainEntries (spec : FmtSpec) (sep : String) : List (String × FmtArg) → ByteArray
  | [] => .empty
  | [(k, x)] => (stringText spec 'v' k.toUTF8).getD .empty ++ ":".toUTF8 ++ plainItem spec x
  | (k, x) :: rest =>
    (stringText spec 'v' k.toUTF8).getD .empty ++ ":".toUTF8 ++ plainItem spec x ++ sep.toUTF8 ++
      plainEntries spec sep rest
end

/-- What a misfit writes: the verb, then the type and the plain value. -/
def badVerb (spec : FmtSpec) (v : Char) (a : FmtArg) : ByteArray :=
  match a with
  | .nil => ("%!" ++ String.singleton v ++ "(<nil>)").toUTF8
  | _ => ("%!" ++ String.singleton v ++ "(" ++ typeName a ++ "=").toUTF8 ++ plain spec a ++ ")".toUTF8

/-- A basic value under a verb. -/
def basicText (spec : FmtSpec) (v : Char) (b : FmtBasic) : ByteArray :=
  let misfit := badVerb spec v b.toArg
  match b with
  | .int n => ((intText spec v false n).map String.toUTF8).getD misfit
  | .float x => ((floatVerb spec v x).map String.toUTF8).getD misfit
  | .str s => (stringText spec v s).getD misfit

/-- A value that chooses its own form, under verb `v`: the value it picks is written as if
by a directive of its own, whose flags are those that the directive was given (`+` and `#`
under `v` included), with the same width and precision. -/
def chosenText (spec : FmtSpec) (v : Char) (pick : Char → FmtBasic × Char) : ByteArray :=
  let (b, c) := pick v
  let plus := spec.plus || spec.plusV
  let sharp := spec.sharp || spec.sharpV
  let base : FmtSpec := { spec with plus, sharp, plusV := false, sharpV := false }
  let spec := if c = 'v' then
      { base with sharpV := base.sharp, sharp := false, plusV := base.plus, plus := false }
    else base
  basicText spec c b

/-- The value under a value with a text of its own, under a verb that does not take the
text; a misfit names the outer value `a`. -/
def underText (spec : FmtSpec) (v : Char) (a : FmtArg) : FmtArg → ByteArray
  | .int n _ => ((intText spec v false n).map String.toUTF8).getD (badVerb spec v a)
  | .uint n _ => ((intText spec v true n).map String.toUTF8).getD (badVerb spec v a)
  | .float x _ => ((floatVerb spec v x).map String.toUTF8).getD (badVerb spec v a)
  | .bool b => if v = 't' ∨ v = 'v' then boolText spec b else badVerb spec v a
  | .str b _ => (stringText spec v b).getD (badVerb spec v a)
  | .emptyRecord name => (recordText spec name).toUTF8
  | _ => badVerb spec v a

/-- A key of a map under a verb: a string. -/
def keyText (spec : FmtSpec) (v : Char) (k : String) : ByteArray :=
  (stringText spec v k.toUTF8).getD (badVerb spec v (.str k.toUTF8 "string"))

mutual
/-- A value under a verb. An absent value at the top takes only `v` (and `T`); inside a
list or a map it is `<nil>`. -/
def value (spec : FmtSpec) (v : Char) (top : Bool) : FmtArg → ByteArray
  | .nil =>
    if top then (if v = 'v' then (padText spec "<nil>").toUTF8 else badVerb spec v .nil)
    else if spec.sharpV then "interface {}(nil)".toUTF8 else "<nil>".toUTF8
  | .bool b => if v = 't' ∨ v = 'v' then boolText spec b else badVerb spec v (.bool b)
  | .int n ty => ((intText spec v false n).map String.toUTF8).getD (badVerb spec v (.int n ty))
  | .uint n ty => ((intText spec v true n).map String.toUTF8).getD (badVerb spec v (.uint n ty))
  | .float x ty => ((floatVerb spec v x).map String.toUTF8).getD (badVerb spec v (.float x ty))
  | .str b ty => (stringText spec v b).getD (badVerb spec v (.str b ty))
  | .shown t ty under =>
    if ¬spec.sharpV ∧ (v = 'v' ∨ v = 's' ∨ v = 'q' ∨ v = 'x' ∨ v = 'X') then
      (stringText spec v t.toUTF8).getD t.toUTF8
    else underText spec v (.shown t ty under) under
  | .emptyRecord name => (recordText spec name).toUTF8
  | a@(.chosen _ _ pick) => if v = 'p' then badVerb spec v a else chosenText spec v pick
  | .list xs =>
    if spec.sharpV then "[]interface {}\x7b".toUTF8 ++ items spec v ", " xs ++ "\x7d".toUTF8
    else "[".toUTF8 ++ items spec v " " xs ++ "]".toUTF8
  | .map kvs =>
    if spec.sharpV then "map[string]interface {}\x7b".toUTF8 ++ entries spec v ", " kvs ++ "\x7d".toUTF8
    else "map[".toUTF8 ++ entries spec v " " kvs ++ "]".toUTF8
/-- The items of a list under a verb. -/
def items (spec : FmtSpec) (v : Char) (sep : String) : List FmtArg → ByteArray
  | [] => .empty
  | [x] => value spec v false x
  | x :: rest => value spec v false x ++ sep.toUTF8 ++ items spec v sep rest
/-- The entries of a map under a verb, each key as a string. -/
def entries (spec : FmtSpec) (v : Char) (sep : String) : List (String × FmtArg) → ByteArray
  | [] => .empty
  | [(k, x)] => keyText spec v k ++ ":".toUTF8 ++ value spec v false x
  | (k, x) :: rest =>
    keyText spec v k ++ ":".toUTF8 ++ value spec v false x ++ sep.toUTF8 ++ entries spec v sep rest
end

/-- One argument under a directive: `T` names its type, `w` (which wraps errors only when an
error is being built) is a misfit for every argument, written whole with no method of its
own, and any other verb writes it. -/
def directive (spec : FmtSpec) (v : Char) (a : FmtArg) : ByteArray :=
  if v = 'w' then badVerb spec v a
  else if v = 'T' then
    match a with
    | .nil => (padText spec "<nil>").toUTF8
    | _ => padBytes spec (truncateBytes spec (typeName a).toUTF8)
  else value spec v true a

/-- The character at index `i` of a format; a stray byte reads as the replacement
character. -/
def charAt (fmt : Array Text.Piece) (i : Nat) : Option Char :=
  fmt[i]?.map fun piece ↦ match piece with
    | .char c => c
    | .stray _ => '�'

/-- Reads the flags of a directive at `i`: the spec and the index after them. A `-` turns
the zero flag off, and a zero after it does not turn it on. -/
def readFlags (fmt : Array Text.Piece) (i : Nat) (spec : FmtSpec) : FmtSpec × Nat :=
  if h : i < fmt.size then
    match fmt[i] with
    | .char '#' => readFlags fmt (i + 1) { spec with sharp := true }
    | .char '0' => readFlags fmt (i + 1) { spec with zero := !spec.minus }
    | .char '+' => readFlags fmt (i + 1) { spec with plus := true }
    | .char '-' => readFlags fmt (i + 1) { spec with minus := true, zero := false }
    | .char ' ' => readFlags fmt (i + 1) { spec with space := true }
    | _ => (spec, i)
  else (spec, i)
termination_by fmt.size - i

/-- Reads a run of digits from `i` up to `stop`: the number, if there is one, and the index
after it. A number past a million is no number, and reading then jumps to `stop`. -/
def readNum (fmt : Array Text.Piece) (i stop : Nat) : Option Nat × Nat :=
  go i 0 false
where
  /-- Reads on from `j` with `num` read so far. -/
  go (j num : Nat) (any : Bool) : Option Nat × Nat :=
    let found := if any then some num else none
    if _h : j < stop then
      match fmt[j]? with
      | some (.char c) =>
        if c.isDigit then
          if num > 1000000 then (none, stop)
          else go (j + 1) (num * 10 + (c.toNat - 48)) true
        else (found, j)
      | _ => (found, j)
    else (found, j)
  termination_by stop - j

/-- The first `]` at or after `j`. -/
def closeBracket (fmt : Array Text.Piece) (j : Nat) : Option Nat :=
  if h : j < fmt.size then
    if fmt[j] = .char ']' then some j else closeBracket fmt (j + 1)
  else none
termination_by fmt.size - j

/-- What reading an argument index gave. -/
structure ArgIndex where
  /-- The argument to take next. -/
  argNum : Nat
  /-- The index in the format after the argument index. -/
  next : Nat
  /-- Whether a well-formed index was read. -/
  found : Bool := false
  /-- Whether the index, if any, names an argument. -/
  good : Bool := true
  /-- Whether a bracket was met, which turns off the check for arguments left over. -/
  bracket : Bool := false

/-- Reads an argument index `[n]` at `i`, with `count` arguments and `argNum` the next one. -/
def argIndex (fmt : Array Text.Piece) (i count argNum : Nat) : ArgIndex :=
  if fmt[i]? ≠ some (.char '[') then { argNum := argNum, next := i }
  else if fmt.size - i < 3 then { argNum := argNum, next := i + 1, good := false, bracket := true }
  else
    match closeBracket fmt (i + 1) with
    | none => { argNum := argNum, next := i + 1, good := false, bracket := true }
    | some j =>
      match readNum fmt (i + 1) j with
      | (some n, k) =>
        if k ≠ j then { argNum := argNum, next := j + 1, good := false, bracket := true }
        else if 1 ≤ n ∧ n - 1 < count then
          { argNum := n - 1, next := j + 1, found := true, bracket := true }
        else { argNum := argNum, next := j + 1, found := true, good := false, bracket := true }
      | (none, _) => { argNum := argNum, next := j + 1, good := false, bracket := true }

/-- The integer of an argument taken as a width or a precision. -/
def intOf : FmtArg → Option Int
  | .int n _ => some n
  | .uint n _ => if n < 2 ^ 63 then some n else none
  | .shown _ _ (.int n _) => some n
  | .shown _ _ (.uint n _) => if n < 2 ^ 63 then some n else none
  | _ => none

/-- Takes a width or a precision from argument `argNum`: the number, whether it is one, and
the argument after it. -/
def intFromArg (args : List FmtArg) (argNum : Nat) : Int × Bool × Nat :=
  match args[argNum]? with
  | none => (0, false, argNum)
  | some a =>
    match intOf a with
    | some n => if n > 1000000 ∨ n < -1000000 then (0, false, argNum + 1) else (n, true, argNum + 1)
    | none => (0, false, argNum + 1)

/-- Where filling in a format stands. -/
structure Filling where
  /-- The bytes written so far. -/
  out : ByteArray := .empty
  /-- The argument the next directive takes. -/
  argNum : Nat := 0
  /-- Whether an argument index was met. -/
  reordered : Bool := false

/-- Reads and writes the directive whose flags start at `i`: the filling after it, and the
index after its verb, or none when the format ends first. -/
def step (fmt : Array Text.Piece) (args : List FmtArg) (i : Nat) (st : Filling) :
    Filling × Option Nat :=
  let count := args.length
  let (spec, i) := readFlags fmt i {}
  let r := argIndex fmt i count st.argNum
  let reordered := st.reordered || r.bracket
  let (good, afterIndex, argNum, i) := (r.good, r.found, r.argNum, r.next)
  -- the width
  let (spec, good, afterIndex, argNum, i, notes) :=
    if fmt[i]? = some (.char '*') then
      let (w, ok, argNum) := intFromArg args argNum
      let spec :=
        if ¬ok then spec
        else if w < 0 then { spec with width := some w.natAbs, minus := true, zero := false }
        else { spec with width := some w.natAbs }
      (spec, good, false, argNum, i + 1, if ok then "" else "%!(BADWIDTH)")
    else
      let (w, i) := readNum fmt i fmt.size
      ({ spec with width := w }, good && !(afterIndex && w.isSome), afterIndex, argNum, i, "")
  -- the precision
  let (spec, good, afterIndex, argNum, i, notes, reordered) :=
    if i + 1 < fmt.size ∧ fmt[i]? = some (.char '.') then
      let good := good && !afterIndex
      let r := argIndex fmt (i + 1) count argNum
      let (good, afterIndex, argNum, i, reordered) :=
        (good && r.good, r.found, r.argNum, r.next, reordered || r.bracket)
      if fmt[i]? = some (.char '*') then
        let (p, ok, argNum) := intFromArg args argNum
        let ok := ok ∧ p ≥ 0
        ({ spec with precision := if ok then some p.toNat else none }, good, false, argNum, i + 1,
          notes ++ (if ok then "" else "%!(BADPREC)"), reordered)
      else
        let (p, i) := readNum fmt i fmt.size
        ({ spec with precision := some (p.getD 0) }, good, afterIndex, argNum, i, notes, reordered)
    else (spec, good, afterIndex, argNum, i, notes, reordered)
  -- an index before the verb
  let (good, argNum, i, reordered) :=
    if afterIndex then (good, argNum, i, reordered)
    else
      let r := argIndex fmt i count argNum
      (good && r.good, r.argNum, r.next, reordered || r.bracket)
  let out := st.out ++ notes.toUTF8
  let written (text : ByteArray) (argNum : Nat) : Filling :=
    { out := out ++ text, argNum := argNum, reordered := reordered }
  match charAt fmt i with
  | none => (written "%!(NOVERB)".toUTF8 argNum, none)
  | some v =>
    let verb := "%!" ++ String.singleton v
    if v = '%' then (written "%".toUTF8 argNum, some (i + 1))
    else if !good then (written (verb ++ "(BADINDEX)").toUTF8 argNum, some (i + 1))
    else
      match args[argNum]? with
      | none => (written (verb ++ "(MISSING)").toUTF8 argNum, some (i + 1))
      | some a =>
        let spec := if v = 'v' ∨ v = 'w' then
            { spec with sharpV := spec.sharp, sharp := false, plusV := spec.plus, plus := false }
          else spec
        (written (directive spec v a) (argNum + 1), some (i + 1))

/-- Fills in the format from index `i`; each step of the fuel reads one piece or one
directive, so the length of the format is fuel enough. Text outside the directives is
copied byte for byte. -/
def run (fmt : Array Text.Piece) (args : List FmtArg) : Nat → Nat → Filling → Filling
  | 0, _, st => st
  | fuel + 1, i, st =>
    match fmt[i]? with
    | none => st
    | some (.char '%') =>
      match step fmt args (i + 1) st with
      | (st, some j) => run fmt args fuel j st
      | (st, none) => st
    | some piece => run fmt args fuel (i + 1) { st with out := st.out ++ piece.bytes }

/-- The format `fmt` filled in with `args`. -/
def format (fmt : ByteArray) (args : List FmtArg) : ByteArray :=
  let cs := (Text.pieces fmt).toArray
  let st := run cs args (cs.size + 1) 0 {}
  if st.reordered ∨ st.argNum ≥ args.length then st.out
  else
    let extra := args.drop st.argNum
    let shown := extra.map fun a ↦ match a with
      | .nil => "<nil>".toUTF8
      | _ => (typeName a ++ "=").toUTF8 ++ value {} 'v' true a
    st.out ++ "%!(EXTRA ".toUTF8 ++ Text.joinBytes ", ".toUTF8 shown ++ ")".toUTF8

/-- The format `fmt` filled in with `args`, as text: a byte that is not part of a
well-formed character reads as the replacement character. -/
def formatText (fmt : String) (args : List FmtArg) : String :=
  Text.decodeLossy (format fmt.toUTF8 args)

end Printf

end LuaDebugger
