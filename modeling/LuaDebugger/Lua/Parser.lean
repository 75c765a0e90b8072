import LuaDebugger.Lua.Lexer
import LuaDebugger.Lua.Syntax
/-!
# Parsing Lua

A recursive-descent parser over the token stream of `tokenize`, for Lua 5.1 with labels and
`goto`. `return` and `break` end a block. A statement that starts with an expression is an
assignment when a `=` or `,` follows it and a call otherwise; a bare expression that is no
call is refused with `parse error`. Binary operators bind from loosest to tightest as
`or`, `and`, comparisons, `..` (to the right), `+ -`, `* / %`, the unary operators, and `^`
(to the right).

A refusal is reported at the token where the text stops being the start of a chunk: its
text and the scanner's position after it, or the end of the input. A scanning fault is
reported when the parser reaches the token it spoils. Nesting is bounded by a budget
computed from the number of tokens, which is never exhausted by a chunk of that length.
-/

namespace LuaDebugger.Lua

/-- The parser's state: the tokens and the position of the next one. -/
abbrev Parse := ReaderT (Array Lexeme) (StateT Nat (Except SyntaxFault))

namespace Parse

/-- The next token; a scanning fault there is raised. -/
def peek : Parse Token := do
  let ts ← read
  match ts[(← get)]? with
  | some (.token t) => pure t
  | some (.fault e) => throw e
  | none => pure ⟨.eof, ByteArray.empty, 0, none⟩

/-- The kind of the token after the next one. -/
def peekKind2 : Parse TokenKind := do
  let ts ← read
  match ts[(← get) + 1]? with
  | some (.token t) => pure t.kind
  | _ => pure .eof

/-- Moves past the next token. -/
def advance : Parse Unit := modify (· + 1)

/-- Refuses the chunk at the next token. -/
def failHere {α : Type} (message : String := "syntax error") : Parse α := do
  let t ← peek
  throw ⟨t.stop, t.text, message⟩

/-- Takes a token of kind `k`, or refuses. -/
def expect (k : TokenKind) : Parse Token := do
  let t ← peek
  if t.kind = k then advance; pure t else failHere

/-- Takes a name, or refuses. -/
def expectName : Parse (String × Nat) := do
  let t ← expect .name
  pure (String.fromUTF8? t.text |>.getD "", t.line)

/-- Whether a token ends a block. -/
def endsBlock : TokenKind → Bool
  | .eof | .kwEnd | .kwElse | .kwElseif | .kwUntil => true
  | _ => false

/-- Whether a token can start an expression. -/
def startsExpr : TokenKind → Bool
  | .kwNil | .kwFalse | .kwTrue | .number | .string | .ellipsis | .kwFunction | .name
  | .lparen | .lbrace | .minus | .kwNot | .hash => true
  | _ => false

/-- The operator of a binary token with its left and right binding power. -/
def binary? : TokenKind → Option (BinOp × Nat × Nat)
  | .kwOr => some (.or, 1, 1)
  | .kwAnd => some (.and, 2, 2)
  | .lt => some (.lt, 3, 3) | .gt => some (.gt, 3, 3) | .le => some (.le, 3, 3)
  | .ge => some (.ge, 3, 3) | .eq => some (.eq, 3, 3) | .ne => some (.ne, 3, 3)
  | .concat => some (.concat, 4, 3)
  | .plus => some (.add, 5, 5) | .minus => some (.sub, 5, 5)
  | .star => some (.mul, 6, 6) | .slash => some (.div, 6, 6) | .percent => some (.mod, 6, 6)
  | .caret => some (.pow, 8, 7)
  | _ => none

/-- The operator of a unary token. -/
def unary? : TokenKind → Option UnOp
  | .minus => some .neg
  | .kwNot => some .not
  | .hash => some .len
  | _ => none

/-- The binding power of the unary operators. -/
def unaryPower : Nat := 7

/-- The fault raised when the budget runs out. -/
def tooDeep {α : Type} : Parse α := failHere "chunk has too many syntax levels"

mutual

/-- An expression whose binary operators bind more tightly than `limit`. -/
def subexpr : Nat → Nat → Parse Expr
  | 0, _ => tooDeep
  | n + 1, limit => do
    let t ← peek
    let e ← match unary? t.kind with
      | some op => do
        advance
        let operand ← subexpr n unaryPower
        pure (Expr.unop op operand operand.line)
      | none => simpleExpr n
    binaryTail n limit e

/-- Extends `e` by binary operators that bind more tightly than `limit`. -/
def binaryTail : Nat → Nat → Expr → Parse Expr
  | 0, _, _ => tooDeep
  | n + 1, limit, e => do
    let t ← peek
    match binary? t.kind with
    | some (op, left, right) =>
      if left > limit then
        advance
        let rhs ← subexpr n right
        binaryTail n limit (.binop op e rhs e.line)
      else pure e
    | none => pure e

/-- A simple expression: a constant, `...`, a function, a table or a prefix expression. -/
def simpleExpr : Nat → Parse Expr
  | 0 => tooDeep
  | n + 1 => do
    let t ← peek
    match t.kind with
    | .kwNil => advance; pure (.nil t.line)
    | .kwTrue => advance; pure (.tru t.line)
    | .kwFalse => advance; pure (.fls t.line)
    | .number => advance; pure (.number t.text t.line)
    | .string => advance; pure (.str t.text t.line)
    | .ellipsis => advance; pure (.vararg false t.line)
    | .kwFunction =>
      advance
      let body ← funcBody n
      pure (.func (body.withLine t.line))
    | .lbrace => tableCons n
    | _ => do
      let (e, _) ← suffixedExpr n
      pure e

/-- A name or a parenthesised expression; the flag says whether it was parenthesised. -/
def primaryExpr : Nat → Parse (Expr × Bool)
  | 0 => tooDeep
  | n + 1 => do
    let t ← peek
    match t.kind with
    | .name =>
      advance
      pure (.name (String.fromUTF8? t.text |>.getD "") t.line, false)
    | .lparen =>
      advance
      let inner ← subexpr n 0
      let _ ← expect .rparen
      let e := match inner with
        | .call f a false l => Expr.call f a true l
        | .method r m a false l => Expr.method r m a true l
        | .vararg _ _ => Expr.vararg true t.line
        | other => other.withLine t.line
      pure (e, true)
    | _ => failHere

/-- A prefix expression with its fields, indexes and calls; the flag says whether it is a
parenthesised expression with nothing after it. -/
def suffixedExpr : Nat → Parse (Expr × Bool)
  | 0 => tooDeep
  | n + 1 => do
    let (e, paren) ← primaryExpr n
    suffixes n e paren

/-- Applies the fields, indexes and calls that follow `e`. -/
def suffixes : Nat → Expr → Bool → Parse (Expr × Bool)
  | 0, _, _ => tooDeep
  | n + 1, e, paren => do
    let t ← peek
    match t.kind with
    | .dot =>
      advance
      let (k, kl) ← expectName
      suffixes n (.index e (.str k.toUTF8 kl) e.line) false
    | .lbracket =>
      advance
      let k ← subexpr n 0
      let _ ← expect .rbracket
      suffixes n (.index e k e.line) false
    | .colon =>
      advance
      let (m, _) ← expectName
      let a ← args n
      suffixes n (.method e m a false e.line) false
    | .lparen | .lbrace | .string =>
      let a ← args n
      suffixes n (.call e a false e.line) false
    | _ => pure (e, paren)

/-- The arguments of a call: a list in parentheses, a table or a string. -/
def args : Nat → Parse (List Expr)
  | 0 => tooDeep
  | n + 1 => do
    let t ← peek
    match t.kind with
    | .lparen =>
      advance
      if (← peek).kind = .rparen then advance; pure []
      else
        let es ← exprList n
        let _ ← expect .rparen
        pure es
    | .lbrace => do
      let tbl ← tableCons n
      pure [tbl]
    | .string => advance; pure [.str t.text t.line]
    | _ => failHere

/-- Expressions separated by commas. -/
def exprList : Nat → Parse (List Expr)
  | 0 => tooDeep
  | n + 1 => do
    let e ← subexpr n 0
    exprListTail n [e]

/-- The remaining expressions of a list, `acc` holding those read (last first). -/
def exprListTail : Nat → List Expr → Parse (List Expr)
  | 0, _ => tooDeep
  | n + 1, acc => do
    if (← peek).kind = .comma then
      advance
      let e ← subexpr n 0
      exprListTail n (e :: acc)
    else pure acc.reverse

/-- A table constructor. -/
def tableCons : Nat → Parse Expr
  | 0 => tooDeep
  | n + 1 => do
    let open_ ← expect .lbrace
    let fields ← fieldList n []
    pure (.table fields open_.line)

/-- The fields of a table constructor up to its closing brace. -/
def fieldList : Nat → List Field → Parse (List Field)
  | 0, _ => tooDeep
  | n + 1, acc => do
    let t ← peek
    if t.kind = .rbrace then advance; pure acc.reverse
    else
      let f ← field n
      let s ← peek
      if s.kind = .comma ∨ s.kind = .semicolon then
        advance
        fieldList n (f :: acc)
      else
        let _ ← expect .rbrace
        pure (f :: acc).reverse

/-- One field of a table constructor. -/
def field : Nat → Parse Field
  | 0 => tooDeep
  | n + 1 => do
    let t ← peek
    match t.kind with
    | .name =>
      if (← peekKind2) = .assign then
        advance; advance
        let v ← subexpr n 0
        pure (.keyed (.str t.text t.line) v)
      else
        let v ← subexpr n 0
        pure (.positional v)
    | .lbracket =>
      advance
      let k ← subexpr n 0
      let _ ← expect .rbracket
      let _ ← expect .assign
      let v ← subexpr n 0
      pure (.keyed k v)
    | _ =>
      let v ← subexpr n 0
      pure (.positional v)

/-- The parameters and body of a function after its name, up to `end`; its line is the
line of the opening parenthesis. -/
def funcBody : Nat → Parse FuncBody
  | 0 => tooDeep
  | n + 1 => do
    let open_ ← expect .lparen
    let (params, variadic) ← paramList n []
    let body ← block n
    let close ← expect .kwEnd
    pure (.mk params variadic body open_.line close.line)

/-- The parameter list up to its closing parenthesis. -/
def paramList : Nat → List String → Parse (List String × Bool)
  | 0, _ => tooDeep
  | n + 1, acc => do
    let t ← peek
    match t.kind with
    | .rparen =>
      if acc.isEmpty then advance; pure ([], false) else failHere
    | .ellipsis =>
      advance
      let _ ← expect .rparen
      pure (acc.reverse, true)
    | _ =>
      let (p, _) ← expectName
      let s ← peek
      if s.kind = .comma then
        advance
        if (← peek).kind = .ellipsis then
          advance
          let _ ← expect .rparen
          pure ((p :: acc).reverse, true)
        else paramList n (p :: acc)
      else
        let _ ← expect .rparen
        pure ((p :: acc).reverse, false)

/-- The statements of a block, up to a token that ends it; `return` or `break` comes last. -/
def block : Nat → Parse (List Stmt)
  | 0 => tooDeep
  | n + 1 => statements n []

/-- The statements of a block, `acc` holding those read (last first). -/
def statements : Nat → List Stmt → Parse (List Stmt)
  | 0, _ => tooDeep
  | n + 1, acc => do
    let t ← peek
    match t.kind with
    | .kwReturn =>
      advance
      let vs ← if startsExpr (← peek).kind then exprList n else pure []
      if (← peek).kind = .semicolon then advance
      pure (Stmt.ret vs t.line :: acc).reverse
    | .kwBreak =>
      advance
      if (← peek).kind = .semicolon then advance
      pure (Stmt.brk t.line :: acc).reverse
    | .semicolon => advance; statements n acc
    | k =>
      if endsBlock k then pure acc.reverse
      else
        let s ← statement n
        statements n (s :: acc)

/-- The `elseif` parts of a conditional, then its `else` part and `end`: the statements of
the `else` part and the line of `end`. -/
def elseParts : Nat → Parse (List Stmt × Nat)
  | 0 => tooDeep
  | n + 1 => do
    let t ← peek
    match t.kind with
    | .kwElseif =>
      advance
      let c ← subexpr n 0
      let _ ← expect .kwThen
      let b ← block n
      let (rest, lastLine) ← elseParts n
      pure ([Stmt.ifThen c b rest t.line lastLine], lastLine)
    | .kwElse =>
      advance
      let b ← block n
      let close ← expect .kwEnd
      pure (b, close.line)
    | _ =>
      let close ← expect .kwEnd
      pure ([], close.line)

/-- The names of a list after its first one. -/
def nameListTail : Nat → List String → Parse (List String)
  | 0, _ => tooDeep
  | n + 1, acc => do
    if (← peek).kind = .comma then
      advance
      let (m, _) ← expectName
      nameListTail n (m :: acc)
    else pure acc.reverse

/-- The target of a function definition: a name and its fields. -/
def funcTarget : Nat → Expr → Parse Expr
  | 0, _ => tooDeep
  | n + 1, e => do
    if (← peek).kind = .dot then
      advance
      let (k, kl) ← expectName
      funcTarget n (.index e (.str k.toUTF8 kl) kl)
    else pure e

/-- The targets of an assignment after its first one. -/
def targetsTail : Nat → List Expr → Parse (List Expr)
  | 0, _ => tooDeep
  | n + 1, acc => do
    if (← peek).kind = .comma then
      advance
      let (e, paren) ← suffixedExpr n
      if e.isTarget ∧ ¬paren then targetsTail n (e :: acc) else failHere
    else pure acc.reverse

/-- One statement that is not `return` or `break`. -/
def statement : Nat → Parse Stmt
  | 0 => tooDeep
  | n + 1 => do
    let t ← peek
    match t.kind with
    | .kwDo =>
      advance
      let b ← block n
      let close ← expect .kwEnd
      pure (.doBlock b t.line close.line)
    | .kwWhile =>
      advance
      let c ← subexpr n 0
      let _ ← expect .kwDo
      let b ← block n
      let close ← expect .kwEnd
      pure (.whileLoop c b t.line close.line)
    | .kwRepeat =>
      advance
      let b ← block n
      let _ ← expect .kwUntil
      let c ← subexpr n 0
      pure (.repeatLoop b c t.line c.line)
    | .kwIf =>
      advance
      let c ← subexpr n 0
      let _ ← expect .kwThen
      let b ← block n
      let (rest, lastLine) ← elseParts n
      pure (.ifThen c b rest t.line lastLine)
    | .kwFor =>
      advance
      let (v, _) ← expectName
      if (← peek).kind = .assign then
        advance
        let start ← subexpr n 0
        let _ ← expect .comma
        let limit ← subexpr n 0
        let step ← if (← peek).kind = .comma then do
            advance
            let s ← subexpr n 0
            pure (some s)
          else pure none
        let _ ← expect .kwDo
        let b ← block n
        let close ← expect .kwEnd
        pure (.numericFor v start limit step b t.line close.line)
      else
        let names ← nameListTail n [v]
        let _ ← expect .kwIn
        let es ← exprList n
        let _ ← expect .kwDo
        let b ← block n
        let close ← expect .kwEnd
        pure (.genericFor names es b t.line close.line)
    | .kwFunction =>
      advance
      let (nm, nl) ← expectName
      let target ← funcTarget n (.name nm nl)
      if (← peek).kind = .colon then
        advance
        let (m, _) ← expectName
        let body ← funcBody n
        pure (.methodDef target m body t.line)
      else
        let body ← funcBody n
        pure (.funcDef target body t.line)
    | .kwLocal =>
      advance
      if (← peek).kind = .kwFunction then
        advance
        let (nm, _) ← expectName
        let body ← funcBody n
        pure (.localAssign [nm] [.func body] t.line)
      else
        let (nm, _) ← expectName
        let names ← nameListTail n [nm]
        if (← peek).kind = .assign then
          advance
          let es ← exprList n
          pure (.localAssign names es t.line)
        else pure (.localAssign names [] t.line)
    | .doubleColon =>
      advance
      let (nm, _) ← expectName
      let _ ← expect .doubleColon
      pure (.label nm t.line)
    | .kwGoto =>
      advance
      let (nm, _) ← expectName
      pure (.goto nm t.line)
    | _ =>
      let (e, paren) ← suffixedExpr n
      let k := (← peek).kind
      if k = .assign ∨ k = .comma then
        if e.isTarget ∧ ¬paren then
          let targets ← targetsTail n [e]
          let _ ← expect .assign
          let vs ← exprList n
          pure (.assign targets vs e.line)
        else failHere
      else if e.isCall then pure (.callStmt e e.line)
      else failHere "parse error"

end

end Parse

/-- The statements of a chunk, or the fault that refuses it. -/
def parseChunk (src : ByteArray) : Except SyntaxFault (List Stmt) :=
  let ts := tokenize src
  let budget := 16 * (ts.size + 4)
  let p : Parse (List Stmt) := do
    let b ← Parse.block budget
    let _ ← Parse.expect .eof
    pure b
  match (p.run ts).run 0 with
  | .ok (b, _) => .ok b
  | .error e => .error e

end LuaDebugger.Lua
