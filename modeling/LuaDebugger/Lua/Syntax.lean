import LuaDebugger.CoreInstances
/-!
# The syntax tree of a Lua chunk

Expressions and statements as the parser builds them. Every node carries the line it is
reported at: a binary operation the line of its left operand, a unary one the line of its
operand, an index or a call the line of the object or function, a parenthesised expression
the line of its opening parenthesis. Statements carry the line of their first token, and
block statements the line of their closing keyword as well. A function carries the lines of
its start and of its `end`.
-/

namespace LuaDebugger.Lua

/-- A binary operator. -/
inductive BinOp where
  | add | sub | mul | div | mod | pow | concat
  | eq | ne | lt | le | gt | ge
  | and | or
  deriving DecidableEq, Repr, Inhabited

/-- A unary operator. -/
inductive UnOp where
  | neg | not | len
  deriving DecidableEq, Repr, Inhabited

mutual

/-- An expression. -/
inductive Expr where
  | nil (line : Nat)
  | tru (line : Nat)
  | fls (line : Nat)
  /-- A numeral, as written. -/
  | number (text : ByteArray) (line : Nat)
  | str (value : ByteArray) (line : Nat)
  /-- `...`; `single` when parenthesised, which keeps only its first value. -/
  | vararg (single : Bool) (line : Nat)
  | func (body : FuncBody)
  | name (id : String) (line : Nat)
  | index (obj key : Expr) (line : Nat)
  /-- A call; `single` when parenthesised. -/
  | call (fn : Expr) (args : List Expr) (single : Bool) (line : Nat)
  /-- A method call `recv:method(args)`; `single` when parenthesised. -/
  | method (recv : Expr) (method : String) (args : List Expr) (single : Bool) (line : Nat)
  | binop (op : BinOp) (lhs rhs : Expr) (line : Nat)
  | unop (op : UnOp) (operand : Expr) (line : Nat)
  | table (fields : List Field) (line : Nat)

/-- A field of a table constructor. -/
inductive Field where
  /-- A value at the next array position. -/
  | positional (value : Expr)
  /-- A value at a key. -/
  | keyed (key value : Expr)

/-- The parameters and body of a function, with the lines of its start and end. -/
inductive FuncBody where
  | mk (params : List String) (variadic : Bool) (body : List Stmt) (line lastLine : Nat)

/-- A statement. -/
inductive Stmt where
  | assign (targets values : List Expr) (line : Nat)
  | callStmt (call : Expr) (line : Nat)
  | doBlock (body : List Stmt) (line lastLine : Nat)
  | whileLoop (cond : Expr) (body : List Stmt) (line lastLine : Nat)
  | repeatLoop (body : List Stmt) (cond : Expr) (line lastLine : Nat)
  /-- A conditional; an `elseif` is a conditional alone in the `else` part. -/
  | ifThen (cond : Expr) (thenPart elsePart : List Stmt) (line lastLine : Nat)
  | numericFor (var : String) (start limit : Expr) (step : Option Expr) (body : List Stmt)
      (line lastLine : Nat)
  | genericFor (names : List String) (exprs : List Expr) (body : List Stmt) (line lastLine : Nat)
  /-- `function a.b.c() ... end`, the target being the name or field it assigns. -/
  | funcDef (target : Expr) (body : FuncBody) (line : Nat)
  /-- `function a.b:m() ... end`, a method with an implicit `self`. -/
  | methodDef (recv : Expr) (method : String) (body : FuncBody) (line : Nat)
  | localAssign (names : List String) (values : List Expr) (line : Nat)
  | ret (values : List Expr) (line : Nat)
  | brk (line : Nat)
  | label (name : String) (line : Nat)
  | goto (name : String) (line : Nat)

end

instance : Inhabited Expr := ⟨.nil 0⟩
instance : Inhabited Stmt := ⟨.brk 0⟩
instance : Inhabited FuncBody := ⟨.mk [] false [] 0 0⟩

namespace FuncBody

/-- The parameter names. -/
def params : FuncBody → List String | .mk p _ _ _ _ => p
/-- Whether the function takes extra arguments as `...`. -/
def variadic : FuncBody → Bool | .mk _ v _ _ _ => v
/-- The statements of the body. -/
def body : FuncBody → List Stmt | .mk _ _ b _ _ => b
/-- The line the function starts on. -/
def line : FuncBody → Nat | .mk _ _ _ l _ => l
/-- The line of its `end`. -/
def lastLine : FuncBody → Nat | .mk _ _ _ _ l => l
/-- The same function started on another line. -/
def withLine (f : FuncBody) (l : Nat) : FuncBody := .mk f.params f.variadic f.body l f.lastLine

end FuncBody

namespace Expr

/-- The line an expression is reported at. -/
def line : Expr → Nat
  | .nil l | .tru l | .fls l | .number _ l | .str _ l | .vararg _ l | .name _ l
  | .index _ _ l | .call _ _ _ l | .method _ _ _ _ l | .binop _ _ _ l | .unop _ _ l
  | .table _ l => l
  | .func b => b.line

/-- The same expression reported at line `l`. -/
def withLine (e : Expr) (l : Nat) : Expr :=
  match e with
  | .nil _ => .nil l
  | .tru _ => .tru l
  | .fls _ => .fls l
  | .number t _ => .number t l
  | .str v _ => .str v l
  | .vararg s _ => .vararg s l
  | .func b => .func (b.withLine l)
  | .name n _ => .name n l
  | .index o k _ => .index o k l
  | .call f a s _ => .call f a s l
  | .method r m a s _ => .method r m a s l
  | .binop op a b _ => .binop op a b l
  | .unop op a _ => .unop op a l
  | .table fs _ => .table fs l

/-- Whether an expression may stand on the left of an assignment. -/
def isTarget : Expr → Bool
  | .name .. | .index .. => true
  | _ => false

/-- Whether an expression is a call. -/
def isCall : Expr → Bool
  | .call .. | .method .. => true
  | _ => false

end Expr

namespace Stmt

/-- The line a statement is reported at. -/
def line : Stmt → Nat
  | .assign _ _ l | .callStmt _ l | .doBlock _ l _ | .whileLoop _ _ l _ | .repeatLoop _ _ l _
  | .ifThen _ _ _ l _ | .numericFor _ _ _ _ _ l _ | .genericFor _ _ _ l _ | .funcDef _ _ l
  | .methodDef _ _ _ l | .localAssign _ _ l | .ret _ l | .brk l | .label _ l | .goto _ l => l

/-- The last line of a statement: that of the `end` (or `until`) of a statement with a body,
and otherwise the line it is reported at. -/
def lastLine : Stmt → Nat
  | .doBlock _ _ l | .whileLoop _ _ _ l | .repeatLoop _ _ _ l | .ifThen _ _ _ _ l
  | .numericFor _ _ _ _ _ _ l | .genericFor _ _ _ _ l => l
  | .funcDef _ b _ | .methodDef _ _ b _ => b.lastLine
  | s => s.line

/-- Whether a statement is a label. -/
def isLabel : Stmt → Bool
  | .label .. => true
  | _ => false

end Stmt

end LuaDebugger.Lua
