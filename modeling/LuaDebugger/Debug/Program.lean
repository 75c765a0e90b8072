import LuaDebugger.Lua.Parser
import LuaDebugger.Debug.Breakpoint
import LuaDebugger.Debug.Frame
import LuaDebugger.Text.Bytes
/-!
# Instrumented programs

Before a program runs, each line where a statement starts gets a call to the step hook in
front of it: `__depurador_passo(<index>,<line>); ` after the line's indentation. A line
counts as a statement line when the syntax tree has a statement there and the line's own
text starts with that statement's leading word: its keyword, the root name of its target
or callee, or an opening parenthesis before a call on a name. The hook thus never lands in
the middle of a line, and a statement that starts on a line after another statement's text
is stepped with that line.

The statement lines are kept per function, a function being named by the lines of its
start and its end; the main chunk is named `(0, 0)`.
-/

namespace LuaDebugger

open Lua

/-- The lines a function spans, naming it among the functions of a program; `(0, 0)` is the
main chunk. -/
structure ScopeKey where
  /-- The line the function starts on. -/
  first : Nat
  /-- The line of its `end`. -/
  last : Nat
  deriving DecidableEq, Repr, Inhabited

namespace ScopeKey

/-- The main chunk. -/
def main : ScopeKey := ⟨0, 0⟩

/-- The order of scope keys: by first line, then by last line. -/
def lt (a b : ScopeKey) : Bool := a.first < b.first || (a.first = b.first && a.last < b.last)

end ScopeKey

/-- What the syntax tree says about the lines: the leading word of each statement and the
function each statement belongs to. -/
structure LineFacts where
  /-- A statement's line and its leading word. -/
  leads : Array (Nat × String) := #[]
  /-- A statement's line and the function it belongs to. -/
  owners : Array (ScopeKey × Nat) := #[]
  /-- The functions seen, in order. -/
  scopes : Array ScopeKey := #[]
  deriving Inhabited

namespace LineFacts

/-- Records a statement with its leading word in the function `cur`. -/
def add (f : LineFacts) (cur : ScopeKey) (line : Nat) (lead : String) : LineFacts :=
  { f with leads := f.leads.push (line, lead), owners := f.owners.push (cur, line) }

end LineFacts

/-- The root name of a target or callee: the name that its fields and calls hang from. -/
def rootName : Expr → String
  | .name n _ => n
  | .index o _ _ => rootName o
  | .call f _ _ _ => rootName f
  | .method r _ _ _ _ => rootName r
  | _ => ""

mutual

/-- Collects the statements inside an expression's functions. -/
def factsExpr (cur : ScopeKey) (f : LineFacts) : Expr → LineFacts
  | .func b => factsFunc f b
  | .call fn a _ _ => factsExprs cur (factsExpr cur f fn) a
  | .method r _ a _ _ => factsExprs cur (factsExpr cur f r) a
  | .index o k _ => factsExpr cur (factsExpr cur f o) k
  | .table fs _ => factsFields cur f fs
  | .binop _ a b _ => factsExpr cur (factsExpr cur f a) b
  | .unop _ a _ => factsExpr cur f a
  | _ => f

/-- Collects over a list of expressions. -/
def factsExprs (cur : ScopeKey) (f : LineFacts) : List Expr → LineFacts
  | [] => f
  | e :: rest => factsExprs cur (factsExpr cur f e) rest

/-- Collects over the fields of a table constructor. -/
def factsFields (cur : ScopeKey) (f : LineFacts) : List Field → LineFacts
  | [] => f
  | .positional v :: rest => factsFields cur (factsExpr cur f v) rest
  | .keyed k v :: rest => factsFields cur (factsExpr cur (factsExpr cur f k) v) rest

/-- Collects the statements of a function, which is its own scope. -/
def factsFunc (f : LineFacts) : FuncBody → LineFacts
  | .mk _ _ body line lastLine =>
    let key : ScopeKey := ⟨line, if lastLine = 0 then line else lastLine⟩
    factsStmts key { f with scopes := f.scopes.push key } body

/-- Collects the statements of a block. -/
def factsStmts (cur : ScopeKey) (f : LineFacts) : List Stmt → LineFacts
  | [] => f
  | s :: rest => factsStmts cur (factsStmt cur f s) rest

/-- Collects one statement and those nested in it. -/
def factsStmt (cur : ScopeKey) (f : LineFacts) : Stmt → LineFacts
  | .assign ts vs l =>
    let f := match ts with
      | t :: _ => f.add cur l (rootName t)
      | [] => f
    factsExprs cur (factsExprs cur f ts) vs
  | .localAssign _ vs l => factsExprs cur (f.add cur l "local") vs
  | .callStmt e l => factsExpr cur (f.add cur l (rootName e)) e
  | .doBlock b l _ => factsStmts cur (f.add cur l "do") b
  | .whileLoop c b l _ => factsStmts cur (factsExpr cur (f.add cur l "while") c) b
  | .repeatLoop b c l _ => factsExpr cur (factsStmts cur (f.add cur l "repeat") b) c
  | .ifThen c t e l _ =>
    factsStmts cur (factsStmts cur (factsExpr cur (f.add cur l "if") c) t) e
  | .numericFor _ a b s body l _ =>
    let f := factsExpr cur (factsExpr cur (f.add cur l "for") a) b
    let f := match s with
      | some s => factsExpr cur f s
      | none => f
    factsStmts cur f body
  | .genericFor _ es body l _ => factsStmts cur (factsExprs cur (f.add cur l "for") es) body
  | .funcDef _ body l => factsFunc (f.add cur l "function") body
  | .methodDef _ _ body l => factsFunc (f.add cur l "function") body
  | .ret vs l => factsExprs cur (f.add cur l "return") vs
  | .brk l => f.add cur l "break"
  | .label .. | .goto .. => f

end

/-- The reserved words, which are no root names. -/
def reservedWords : List String :=
  ["and", "break", "do", "else", "elseif", "end", "false", "for", "function", "goto", "if",
    "in", "local", "nil", "not", "or", "repeat", "return", "then", "true", "until", "while"]

/-- Whether a byte is a space or a tab. -/
def isIndentByte (b : UInt8) : Bool := b = 32 || b = 9

/-- The word a line's text starts with after its indentation: `(`, the longest name there,
or nothing. -/
def leadingWord (text : ByteArray) : String :=
  let s := text.toList.dropWhile isIndentByte
  match s with
  | [] => ""
  | 40 :: _ => "("
  | b :: rest =>
    if isNameStart b then
      String.ofList ((b :: rest.takeWhile isNameByte).map fun x ↦ Char.ofNat x.toNat)
    else ""

/-- Whether a word is a name that is not reserved. -/
def isPlainName (w : String) : Bool :=
  match w.toList with
  | c :: rest => isNameStart (byteOf c) && rest.all (fun c ↦ isNameByte (byteOf c)) &&
      c.toNat < 128 && !reservedWords.contains w
  | [] => false

/-- Whether a line whose statements lead with `leads` starts one of them. -/
def startsStatement (text : ByteArray) (leads : List String) : Bool :=
  let w := leadingWord text
  w ≠ "" && leads.any fun lead ↦ lead = w || (w = "(" && isPlainName lead)

/-- An instrumented program. -/
structure Program where
  /-- The position of the program among those loaded. -/
  index : Nat
  /-- The path it was loaded from. -/
  path : String
  /-- The identity of its file. -/
  id : FileId
  /-- The display lines: the source's lines without a final empty one, each without one
  trailing carriage return. -/
  lines : Array ByteArray
  /-- The instrumented source. -/
  source : ByteArray
  /-- The statement lines, ascending. -/
  statements : List Nat
  /-- The statement lines of each function, ascending, in the order of the functions' keys. -/
  scopes : List (ScopeKey × List Nat)
  deriving Inhabited

/-- The hook call put in front of a statement line. -/
def hookCall (index line : Nat) : ByteArray :=
  ("__depurador_passo(" ++ toString index ++ "," ++ toString line ++ "); ").toUTF8

/-- A line with the hook call for `line` put after its indentation. -/
def withHook (index line : Nat) (text : ByteArray) : ByteArray :=
  let indent := (text.toList.takeWhile isIndentByte).length
  text.extract 0 indent ++ hookCall index line ++ text.extract indent text.size

/-- Inserts `x` into the ascending list `xs`, keeping one copy of each. -/
def insertSorted (x : Nat) : List Nat → List Nat
  | [] => [x]
  | y :: ys => if x < y then x :: y :: ys else if x = y then y :: ys else y :: insertSorted x ys

/-- Inserts a key into a list of keys ascending by `ScopeKey.lt`, keeping one copy. -/
def insertKey (k : ScopeKey) : List ScopeKey → List ScopeKey
  | [] => [k]
  | y :: ys => if k.lt y then k :: y :: ys else if k = y then y :: ys else y :: insertKey k ys

namespace Program

/-- Instruments the chunk `src` loaded from `path` as program number `index`. -/
def instrument (cwd : String) (index : Nat) (path : String) (src : ByteArray) :
    Except SyntaxFault Program := do
  let chunk ← parseChunk src
  let raw := (Text.splitBytes 10 src).toArray
  let facts := factsStmts ScopeKey.main {} chunk
  let leadsAt (line : Nat) : List String :=
    (facts.leads.toList.filter (·.1 = line)).map (·.2)
  let lines := facts.leads.toList.foldl (fun acc (l, _) ↦ insertSorted l acc) []
  let stmts := lines.filter fun l ↦
    1 ≤ l ∧ l ≤ raw.size ∧ startsStatement (raw.getD (l - 1) ByteArray.empty) (leadsAt l)
  let keys := (facts.scopes.toList ++ facts.owners.toList.map (·.1)).foldl
    (fun acc k ↦ insertKey k acc) [ScopeKey.main]
  let scopes := keys.map fun k ↦
    (k, (facts.owners.toList.filter (fun (o, l) ↦ o = k ∧ stmts.contains l)).foldl
      (fun acc (_, l) ↦ insertSorted l acc) [])
  let out := raw.mapIdx fun i text ↦
    if stmts.contains (i + 1) then withHook index (i + 1) text else text
  let display := if raw.size > 0 ∧ raw.back? = some ByteArray.empty then raw.pop else raw
  let display := display.map fun l ↦ if Text.endsWithByte l 13 then Text.dropLastByte l else l
  pure { index, path, id := FileId.ofPath cwd path, lines := display,
         source := Text.joinBytes "\n".toUTF8 out.toList, statements := stmts, scopes }

/-- The statement lines of the function spanning `first` to `last`, or of the main chunk
when `first` is zero. -/
def statementsIn (p : Program) (first last : Nat) : List Statement :=
  let key : ScopeKey := if first = 0 then .main else ⟨first, last⟩
  match p.scopes.find? (·.1 = key) with
  | some (_, ls) => ls.map fun (l : Nat) ↦ ({ file := p.id, line := (l : Int) } : Statement)
  | none => []

/-- The program as an open file. -/
def openFile (p : Program) : OpenFile := ⟨p.id, p.path, p.lines⟩

end Program

end LuaDebugger

namespace LuaDebugger

/-- A program refused because its source does not parse. -/
structure ProgramFault where
  /-- The path of the program. -/
  path : String
  /-- Why the parser refused it. -/
  fault : Lua.SyntaxFault
  deriving Inhabited

namespace ProgramFault

/-- The message: `syntax error in <path>: ` and the parser's fault in the chunk `<path>`. -/
def message (e : ProgramFault) : ByteArray :=
  ("syntax error in " ++ e.path ++ ": ").toUTF8 ++ e.fault.render e.path

end ProgramFault

end LuaDebugger
