import LuaDebugger.Lua.Parser
import LuaDebugger.Proofs.TokenLines
/-!
# The functions of a parsed chunk start on lines from one

A function of a program is named by the lines it spans, and the main chunk by line zero; the
two must never meet. `parseChunk_funcsOnLines` says they do not: every function written in a
chunk that parses starts on a line from one.

`exprFunctions` and its companions list the functions written in a syntax tree, a function
before those written in its body. A function's line is that of its opening parenthesis, or of
the `function` keyword or the parenthesis around it, all tokens the parser took, and every
token but the end of the input starts on a line from one (`tokenize_lined`).

The parser is a family of functions that call each other with one unit of fuel less.
`Yields ts x Q` says every value `x` gives on the tokens `ts` satisfies `Q`; it is built up
along binds (`yields_bind`). `ParsesLined ts n` gathers what each parsing function yields with
fuel `n`, and each `_step` lemma gives one function with one more unit of fuel from it, so
induction on the fuel gives it for all (`parsesLined`).
-/

namespace LuaDebugger.Lua

/-! ### The functions written in a syntax tree -/

mutual

/-- The functions written in an expression, each before those written inside it. -/
def exprFunctions : Expr → List FuncBody
  | .func b => bodyFunctions b
  | .call fn a _ _ => exprFunctions fn ++ exprsFunctions a
  | .method r _ a _ _ => exprFunctions r ++ exprsFunctions a
  | .index o k _ => exprFunctions o ++ exprFunctions k
  | .table fs _ => fieldsFunctions fs
  | .binop _ a b _ => exprFunctions a ++ exprFunctions b
  | .unop _ a _ => exprFunctions a
  | _ => []

/-- The functions written in a list of expressions. -/
def exprsFunctions : List Expr → List FuncBody
  | [] => []
  | e :: rest => exprFunctions e ++ exprsFunctions rest

/-- The functions written in the fields of a table constructor. -/
def fieldsFunctions : List Field → List FuncBody
  | [] => []
  | .positional v :: rest => exprFunctions v ++ fieldsFunctions rest
  | .keyed k v :: rest => exprFunctions k ++ exprFunctions v ++ fieldsFunctions rest

/-- A function and the functions written in its body. -/
def bodyFunctions : FuncBody → List FuncBody
  | .mk params variadic body line lastLine =>
    .mk params variadic body line lastLine :: blockFunctions body

/-- The functions written in a block, at any depth. -/
def blockFunctions : List Stmt → List FuncBody
  | [] => []
  | s :: rest => stmtFunctions s ++ blockFunctions rest

/-- The functions written in a statement. -/
def stmtFunctions : Stmt → List FuncBody
  | .assign ts vs _ => exprsFunctions ts ++ exprsFunctions vs
  | .localAssign _ vs _ => exprsFunctions vs
  | .callStmt e _ => exprFunctions e
  | .doBlock b _ _ => blockFunctions b
  | .whileLoop c b _ _ => exprFunctions c ++ blockFunctions b
  | .repeatLoop b c _ _ => blockFunctions b ++ exprFunctions c
  | .ifThen c t e _ _ => exprFunctions c ++ blockFunctions t ++ blockFunctions e
  | .numericFor _ a b s body _ _ =>
    exprFunctions a ++ exprFunctions b ++ (match s with
      | some s => exprFunctions s
      | none => []) ++ blockFunctions body
  | .genericFor _ es body _ _ => exprsFunctions es ++ blockFunctions body
  | .funcDef _ body _ | .methodDef _ _ body _ => bodyFunctions body
  | .ret vs _ => exprsFunctions vs
  | .brk _ | .label .. | .goto .. => []

end

theorem bodyFunctions_eq (fb : FuncBody) : bodyFunctions fb = fb :: blockFunctions fb.body := by
  cases fb
  rfl

/-- Every function of the list starts on a line from one. -/
def FuncsOnLines (fs : List FuncBody) : Prop := ∀ fb ∈ fs, 1 ≤ fb.line

@[simp] theorem funcsOnLines_nil : FuncsOnLines [] := fun _ h ↦ absurd h List.not_mem_nil

@[simp] theorem funcsOnLines_append {fs gs : List FuncBody} :
    FuncsOnLines (fs ++ gs) ↔ FuncsOnLines fs ∧ FuncsOnLines gs := by
  simp only [FuncsOnLines, List.mem_append, or_imp, forall_and]

@[simp] theorem funcsOnLines_cons {fb : FuncBody} {fs : List FuncBody} :
    FuncsOnLines (fb :: fs) ↔ 1 ≤ fb.line ∧ FuncsOnLines fs := by
  simp only [FuncsOnLines, List.mem_cons, forall_eq_or_imp]

@[simp] theorem funcsOnLines_exprsFunctions {es : List Expr} :
    FuncsOnLines (exprsFunctions es) ↔ ∀ e ∈ es, FuncsOnLines (exprFunctions e) := by
  induction es with
  | nil => simp [exprsFunctions]
  | cons e es ih => simp [exprsFunctions, ih]

@[simp] theorem funcsOnLines_fieldsFunctions {fs : List Field} :
    FuncsOnLines (fieldsFunctions fs) ↔ ∀ f ∈ fs, FuncsOnLines (fieldsFunctions [f]) := by
  induction fs with
  | nil => simp [fieldsFunctions]
  | cons f fs ih =>
    cases f <;> simp [fieldsFunctions, ih, and_assoc]

@[simp] theorem funcsOnLines_blockFunctions {b : List Stmt} :
    FuncsOnLines (blockFunctions b) ↔ ∀ s ∈ b, FuncsOnLines (stmtFunctions s) := by
  induction b with
  | nil => simp [blockFunctions]
  | cons s b ih => simp [blockFunctions, ih]

/-- A function moved to a line from one still has its functions on such lines. -/
theorem funcsOnLines_withLine {fb : FuncBody} {l : Nat} (h : FuncsOnLines (bodyFunctions fb))
    (hl : 1 ≤ l) : FuncsOnLines (bodyFunctions (fb.withLine l)) := by
  rw [bodyFunctions_eq] at h ⊢
  exact funcsOnLines_cons.2 ⟨hl, (funcsOnLines_cons.1 h).2⟩

theorem funcsOnLines_exprWithLine {e : Expr} {l : Nat} (h : FuncsOnLines (exprFunctions e))
    (hl : 1 ≤ l) : FuncsOnLines (exprFunctions (e.withLine l)) := by
  cases e with
  | func b => exact funcsOnLines_withLine h hl
  | _ => exact h

namespace Parse

variable {α β : Type} (ts : Array Lexeme)

/-! ### What a parser yields -/

/-- Every value `x` returns when it succeeds on the tokens `ts` satisfies `Q`. -/
def Yields (x : Parse α) (Q : α → Prop) : Prop :=
  ∀ pos r pos', (x.run ts).run pos = .ok (r, pos') → Q r

variable {ts}

theorem yields_pure {a : α} {Q : α → Prop} (h : Q a) : Yields ts (pure a) Q := by
  intro pos r pos' hr
  cases hr
  exact h

theorem yields_bind {x : Parse α} {f : α → Parse β} {P : α → Prop} {Q : β → Prop}
    (hx : Yields ts x P) (hf : ∀ a, P a → Yields ts (f a) Q) : Yields ts (x >>= f) Q := by
  intro pos r pos' hr
  simp only [ReaderT.run_bind, StateT.run_bind] at hr
  cases hx' : (x.run ts).run pos with
  | error e =>
    rw [hx'] at hr
    cases hr
  | ok p =>
    rw [hx'] at hr
    exact hf p.1 (hx pos p.1 p.2 hx') p.2 r pos' hr

theorem yields_throw {e : SyntaxFault} {Q : α → Prop} : Yields ts (throw e) Q := by
  intro pos r pos' hr
  cases hr

theorem yields_true (x : Parse α) : Yields ts x fun _ ↦ True :=
  fun _ _ _ _ ↦ True.intro

theorem yields_ite {c : Prop} [Decidable c] {x y : Parse α} {Q : α → Prop} (hx : Yields ts x Q)
    (hy : Yields ts y Q) : Yields ts (if c then x else y) Q := by
  split
  · exact hx
  · exact hy

theorem yields_read : Yields ts read (· = ts) := by
  intro pos r pos' hr
  cases hr
  rfl

theorem yields_peek (hts : TokensLined ts) :
    Yields ts peek fun t ↦ t.kind ≠ .eof → 1 ≤ t.line := by
  unfold peek
  refine yields_bind yields_read fun ts' hts' ↦ ?_
  subst hts'
  refine yields_bind (yields_true _) fun pos _ ↦ ?_
  split
  · rename_i t ht
    exact yields_pure (hts _ (Array.mem_of_getElem? ht))
  · exact yields_throw
  · exact yields_pure fun hk ↦ absurd rfl hk

theorem yields_failHere {msg : String} {Q : α → Prop} : Yields ts (failHere msg) Q := by
  unfold failHere
  exact yields_bind (yields_true _) fun _ _ ↦ yields_throw

theorem yields_tooDeep {Q : α → Prop} : Yields ts tooDeep Q := yields_failHere

theorem yields_expect (hts : TokensLined ts) {k : TokenKind} (hk : k ≠ .eof) :
    Yields ts (expect k) fun t ↦ 1 ≤ t.line := by
  unfold expect
  refine yields_bind (yields_peek hts) fun t ht ↦ ?_
  split
  · rename_i hkind
    exact yields_bind (yields_true _) fun _ _ ↦ yields_pure (ht (hkind ▸ hk))
  · exact yields_failHere

/-! ### The parsing functions -/

/-- What each parsing function gives with fuel `n`: syntax whose functions start on lines from
one, given such syntax to extend. -/
structure ParsesLined (ts : Array Lexeme) (n : Nat) : Prop where
  subexpr : ∀ limit, Yields ts (subexpr n limit) fun e ↦ FuncsOnLines (exprFunctions e)
  binaryTail : ∀ limit e, FuncsOnLines (exprFunctions e) →
    Yields ts (binaryTail n limit e) fun e ↦ FuncsOnLines (exprFunctions e)
  simpleExpr : Yields ts (simpleExpr n) fun e ↦ FuncsOnLines (exprFunctions e)
  primaryExpr : Yields ts (primaryExpr n) fun p ↦ FuncsOnLines (exprFunctions p.1)
  suffixedExpr : Yields ts (suffixedExpr n) fun p ↦ FuncsOnLines (exprFunctions p.1)
  suffixes : ∀ e paren, FuncsOnLines (exprFunctions e) →
    Yields ts (suffixes n e paren) fun p ↦ FuncsOnLines (exprFunctions p.1)
  args : Yields ts (args n) fun es ↦ ∀ e ∈ es, FuncsOnLines (exprFunctions e)
  exprList : Yields ts (exprList n) fun es ↦ ∀ e ∈ es, FuncsOnLines (exprFunctions e)
  exprListTail : ∀ acc, (∀ e ∈ acc, FuncsOnLines (exprFunctions e)) →
    Yields ts (exprListTail n acc) fun es ↦ ∀ e ∈ es, FuncsOnLines (exprFunctions e)
  tableCons : Yields ts (tableCons n) fun e ↦ FuncsOnLines (exprFunctions e)
  fieldList : ∀ acc, (∀ f ∈ acc, FuncsOnLines (fieldsFunctions [f])) →
    Yields ts (fieldList n acc) fun fs ↦ ∀ f ∈ fs, FuncsOnLines (fieldsFunctions [f])
  field : Yields ts (field n) fun f ↦ FuncsOnLines (fieldsFunctions [f])
  funcBody : Yields ts (funcBody n) fun fb ↦ FuncsOnLines (bodyFunctions fb)
  block : Yields ts (block n) fun b ↦ ∀ s ∈ b, FuncsOnLines (stmtFunctions s)
  statements : ∀ acc, (∀ s ∈ acc, FuncsOnLines (stmtFunctions s)) →
    Yields ts (statements n acc) fun b ↦ ∀ s ∈ b, FuncsOnLines (stmtFunctions s)
  elseParts : Yields ts (elseParts n) fun p ↦ ∀ s ∈ p.1, FuncsOnLines (stmtFunctions s)
  funcTarget : ∀ e, FuncsOnLines (exprFunctions e) →
    Yields ts (funcTarget n e) fun e ↦ FuncsOnLines (exprFunctions e)
  targetsTail : ∀ acc, (∀ e ∈ acc, FuncsOnLines (exprFunctions e)) →
    Yields ts (targetsTail n acc) fun es ↦ ∀ e ∈ es, FuncsOnLines (exprFunctions e)
  statement : Yields ts (statement n) fun s ↦ FuncsOnLines (stmtFunctions s)

theorem parsesLined_zero : ParsesLined ts 0 where
  subexpr _ := by unfold subexpr; exact yields_tooDeep
  binaryTail _ _ _ := by unfold binaryTail; exact yields_tooDeep
  simpleExpr := by unfold simpleExpr; exact yields_tooDeep
  primaryExpr := by unfold primaryExpr; exact yields_tooDeep
  suffixedExpr := by unfold suffixedExpr; exact yields_tooDeep
  suffixes _ _ _ := by unfold suffixes; exact yields_tooDeep
  args := by unfold args; exact yields_tooDeep
  exprList := by unfold exprList; exact yields_tooDeep
  exprListTail _ _ := by unfold exprListTail; exact yields_tooDeep
  tableCons := by unfold tableCons; exact yields_tooDeep
  fieldList _ _ := by unfold fieldList; exact yields_tooDeep
  field := by unfold field; exact yields_tooDeep
  funcBody := by unfold funcBody; exact yields_tooDeep
  block := by unfold block; exact yields_tooDeep
  statements _ _ := by unfold statements; exact yields_tooDeep
  elseParts := by unfold elseParts; exact yields_tooDeep
  funcTarget _ _ := by unfold funcTarget; exact yields_tooDeep
  targetsTail _ _ := by unfold targetsTail; exact yields_tooDeep
  statement := by unfold statement; exact yields_tooDeep

/-- Statements read so far and one more. -/
theorem stmtsOnLines_cons {s : Stmt} {acc : List Stmt} (hs : FuncsOnLines (stmtFunctions s))
    (hacc : ∀ x ∈ acc, FuncsOnLines (stmtFunctions x)) :
    ∀ x ∈ (s :: acc).reverse, FuncsOnLines (stmtFunctions x) :=
  fun x hx ↦ (List.forall_mem_cons (p := fun x ↦ FuncsOnLines (stmtFunctions x))).2 ⟨hs, hacc⟩ x
    (List.mem_reverse.1 hx)

/-! ### One more unit of fuel -/

section Step

variable {n : Nat} (hts : TokensLined ts) (ih : ParsesLined ts n)
include ih

theorem subexpr_step (limit : Nat) :
    Yields ts (subexpr (n + 1) limit) fun e ↦ FuncsOnLines (exprFunctions e) := by
  unfold subexpr
  refine yields_bind (yields_true _) fun t _ ↦ ?_
  dsimp only
  split
  · refine yields_bind (yields_true _) fun _ _ ↦ ?_
    refine yields_bind (ih.subexpr _) fun _ h ↦ ?_
    exact yields_bind (yields_pure h) fun e he ↦ ih.binaryTail limit e he
  · exact yields_bind ih.simpleExpr fun e he ↦ ih.binaryTail limit e he

theorem binaryTail_step (limit : Nat) (e : Expr) (he : FuncsOnLines (exprFunctions e)) :
    Yields ts (binaryTail (n + 1) limit e) fun e ↦ FuncsOnLines (exprFunctions e) := by
  unfold binaryTail
  refine yields_bind (yields_true _) fun t _ ↦ ?_
  split
  · split
    · refine yields_bind (yields_true _) fun _ _ ↦ ?_
      refine yields_bind (ih.subexpr _) fun rhs hr ↦ ih.binaryTail _ _ ?_
      simp [exprFunctions, he, hr]
    · exact yields_pure he
  · exact yields_pure he

include hts in
theorem simpleExpr_step :
    Yields ts (simpleExpr (n + 1)) fun e ↦ FuncsOnLines (exprFunctions e) := by
  unfold simpleExpr
  refine yields_bind (yields_peek hts) fun t ht ↦ ?_
  split
  case h_1 | h_2 | h_3 | h_4 | h_5 | h_6 =>
    exact yields_bind (yields_true _) fun _ _ ↦ yields_pure funcsOnLines_nil
  case h_7 hk =>
    refine yields_bind (yields_true _) fun _ _ ↦ yields_bind ih.funcBody fun body hb ↦ ?_
    exact yields_pure (funcsOnLines_withLine hb (ht (by simp [hk])))
  case h_8 => exact ih.tableCons
  case h_9 => exact yields_bind ih.suffixedExpr fun p hp ↦ yields_pure hp

include hts in
theorem primaryExpr_step :
    Yields ts (primaryExpr (n + 1)) fun p ↦ FuncsOnLines (exprFunctions p.1) := by
  unfold primaryExpr
  refine yields_bind (yields_peek hts) fun t ht ↦ ?_
  split
  case h_1 => exact yields_bind (yields_true _) fun _ _ ↦ yields_pure funcsOnLines_nil
  case h_2 hk =>
    refine yields_bind (yields_true _) fun _ _ ↦ yields_bind (ih.subexpr 0) fun inner hi ↦ ?_
    refine yields_bind (yields_true _) fun _ _ ↦ yields_pure ?_
    -- a parenthesised call is marked so; anything else is moved to the parenthesis
    dsimp only
    split
    · exact hi
    · exact hi
    · exact funcsOnLines_nil
    · exact funcsOnLines_exprWithLine hi (ht (by simp [hk]))
  case h_3 => exact yields_failHere

theorem suffixedExpr_step :
    Yields ts (suffixedExpr (n + 1)) fun p ↦ FuncsOnLines (exprFunctions p.1) := by
  unfold suffixedExpr
  exact yields_bind ih.primaryExpr fun p hp ↦ ih.suffixes p.1 p.2 hp

theorem suffixes_step (e : Expr) (paren : Bool) (he : FuncsOnLines (exprFunctions e)) :
    Yields ts (suffixes (n + 1) e paren) fun p ↦ FuncsOnLines (exprFunctions p.1) := by
  unfold suffixes
  refine yields_bind (yields_true _) fun t _ ↦ ?_
  split
  case h_1 =>
    refine yields_bind (yields_true _) fun _ _ ↦ yields_bind (yields_true _) fun _ _ ↦ ?_
    exact ih.suffixes _ _ (funcsOnLines_append.2 ⟨he, funcsOnLines_nil⟩)
  case h_2 =>
    refine yields_bind (yields_true _) fun _ _ ↦ yields_bind (ih.subexpr 0) fun k hk ↦ ?_
    exact yields_bind (yields_true _) fun _ _ ↦ ih.suffixes _ _ (funcsOnLines_append.2 ⟨he, hk⟩)
  case h_3 =>
    refine yields_bind (yields_true _) fun _ _ ↦ yields_bind (yields_true _) fun _ _ ↦ ?_
    exact yields_bind ih.args fun a ha ↦
      ih.suffixes _ _ (funcsOnLines_append.2 ⟨he, funcsOnLines_exprsFunctions.2 ha⟩)
  case h_4 | h_5 | h_6 =>
    exact yields_bind ih.args fun a ha ↦
      ih.suffixes _ _ (funcsOnLines_append.2 ⟨he, funcsOnLines_exprsFunctions.2 ha⟩)
  case h_7 => exact yields_pure he

theorem args_step :
    Yields ts (args (n + 1)) fun es ↦ ∀ e ∈ es, FuncsOnLines (exprFunctions e) := by
  unfold args
  refine yields_bind (yields_true _) fun t _ ↦ ?_
  split
  case h_1 =>
    refine yields_bind (yields_true _) fun _ _ ↦ yields_bind (yields_true _) fun _ _ ↦ ?_
    refine yields_ite ?_ ?_
    · exact yields_bind (yields_true _) fun _ _ ↦ yields_pure fun _ h ↦ absurd h List.not_mem_nil
    · exact yields_bind ih.exprList fun es hes ↦
        yields_bind (yields_true _) fun _ _ ↦ yields_pure hes
  case h_2 =>
    refine yields_bind ih.tableCons fun tbl ht ↦ yields_pure ?_
    simpa using ht
  case h_3 =>
    refine yields_bind (yields_true _) fun _ _ ↦ yields_pure ?_
    simp [exprFunctions]
  case h_4 => exact yields_failHere

theorem exprList_step :
    Yields ts (exprList (n + 1)) fun es ↦ ∀ e ∈ es, FuncsOnLines (exprFunctions e) := by
  unfold exprList
  refine yields_bind (ih.subexpr 0) fun e he ↦ ih.exprListTail [e] ?_
  simpa using he

theorem exprListTail_step (acc : List Expr) (hacc : ∀ e ∈ acc, FuncsOnLines (exprFunctions e)) :
    Yields ts (exprListTail (n + 1) acc) fun es ↦ ∀ e ∈ es, FuncsOnLines (exprFunctions e) := by
  unfold exprListTail
  refine yields_bind (yields_true _) fun _ _ ↦ yields_ite ?_ ?_
  · refine yields_bind (yields_true _) fun _ _ ↦ yields_bind (ih.subexpr 0) fun e he ↦ ?_
    exact ih.exprListTail _ (List.forall_mem_cons.2 ⟨he, hacc⟩)
  · exact yields_pure fun x hx ↦ hacc x (List.mem_reverse.1 hx)

theorem tableCons_step :
    Yields ts (tableCons (n + 1)) fun e ↦ FuncsOnLines (exprFunctions e) := by
  unfold tableCons
  refine yields_bind (yields_true _) fun _ _ ↦ yields_bind (ih.fieldList [] ?_) fun fs hfs ↦ ?_
  · exact fun _ h ↦ absurd h List.not_mem_nil
  · exact yields_pure (funcsOnLines_fieldsFunctions.2 hfs)

theorem fieldList_step (acc : List Field)
    (hacc : ∀ f ∈ acc, FuncsOnLines (fieldsFunctions [f])) :
    Yields ts (fieldList (n + 1) acc) fun fs ↦ ∀ f ∈ fs, FuncsOnLines (fieldsFunctions [f]) := by
  unfold fieldList
  refine yields_bind (yields_true _) fun t _ ↦ yields_ite ?_ ?_
  · exact yields_bind (yields_true _) fun _ _ ↦
      yields_pure fun f hf ↦ hacc f (List.mem_reverse.1 hf)
  · refine yields_bind ih.field fun f hf ↦ yields_bind (yields_true _) fun _ _ ↦ ?_
    -- the field joins those read, before a separator or the closing brace
    have hcons : ∀ x ∈ f :: acc, FuncsOnLines (fieldsFunctions [x]) :=
      List.forall_mem_cons.2 ⟨hf, hacc⟩
    refine yields_ite ?_ ?_
    · exact yields_bind (yields_true _) fun _ _ ↦ ih.fieldList _ hcons
    · exact yields_bind (yields_true _) fun _ _ ↦
        yields_pure fun x hx ↦ hcons x (List.mem_reverse.1 hx)

theorem field_step : Yields ts (field (n + 1)) fun f ↦ FuncsOnLines (fieldsFunctions [f]) := by
  unfold field
  refine yields_bind (yields_true _) fun t _ ↦ ?_
  split
  case h_1 =>
    refine yields_bind (yields_true _) fun _ _ ↦ yields_ite ?_ ?_
    · refine yields_bind (yields_true _) fun _ _ ↦ yields_bind (yields_true _) fun _ _ ↦ ?_
      refine yields_bind (ih.subexpr 0) fun v hv ↦ yields_pure ?_
      simpa [fieldsFunctions, exprFunctions] using hv
    · refine yields_bind (ih.subexpr 0) fun v hv ↦ yields_pure ?_
      simpa [fieldsFunctions] using hv
  case h_2 =>
    refine yields_bind (yields_true _) fun _ _ ↦ yields_bind (ih.subexpr 0) fun k hk ↦ ?_
    refine yields_bind (yields_true _) fun _ _ ↦ yields_bind (yields_true _) fun _ _ ↦ ?_
    refine yields_bind (ih.subexpr 0) fun v hv ↦ yields_pure ?_
    simp [fieldsFunctions, hk, hv]
  case h_3 =>
    refine yields_bind (ih.subexpr 0) fun v hv ↦ yields_pure ?_
    simpa [fieldsFunctions] using hv

include hts in
theorem funcBody_step : Yields ts (funcBody (n + 1)) fun fb ↦ FuncsOnLines (bodyFunctions fb) := by
  unfold funcBody
  refine yields_bind (yields_expect hts (by decide)) fun open_ hopen ↦ ?_
  refine yields_bind (yields_true _) fun _ _ ↦ yields_bind ih.block fun body hb ↦ ?_
  refine yields_bind (yields_true _) fun _ _ ↦ yields_pure ?_
  simpa [bodyFunctions, FuncBody.line] using ⟨hopen, hb⟩

theorem block_step : Yields ts (block (n + 1)) fun b ↦ ∀ s ∈ b, FuncsOnLines (stmtFunctions s) := by
  unfold block
  exact ih.statements [] fun _ h ↦ absurd h List.not_mem_nil

theorem statements_step (acc : List Stmt) (hacc : ∀ s ∈ acc, FuncsOnLines (stmtFunctions s)) :
    Yields ts (statements (n + 1) acc) fun b ↦ ∀ s ∈ b, FuncsOnLines (stmtFunctions s) := by
  unfold statements
  refine yields_bind (yields_true _) fun t _ ↦ ?_
  split
  -- `return` and `break` end the block, an optional semicolon after them
  case h_1 =>
    refine yields_bind (yields_true _) fun _ _ ↦ ?_
    dsimp only
    refine yields_bind (yields_true _) fun _ _ ↦ yields_ite
      (yields_bind ih.exprList fun vs hvs ↦ ?_)
      (yields_bind (yields_pure (Q := fun vs : List Expr ↦ ∀ e ∈ vs, FuncsOnLines (exprFunctions e))
        fun _ h ↦ absurd h List.not_mem_nil) fun vs hvs ↦ ?_)
    all_goals
      have hs := stmtsOnLines_cons (s := .ret vs t.line) (funcsOnLines_exprsFunctions.2 hvs) hacc
      exact yields_bind (yields_true _) fun _ _ ↦
        yields_ite (yields_bind (yields_true _) fun _ _ ↦ yields_pure hs) (yields_pure hs)
  case h_2 =>
    refine yields_bind (yields_true _) fun _ _ ↦ ?_
    dsimp only
    refine yields_bind (yields_true _) fun _ _ ↦ yields_ite
      (yields_bind (yields_true _) fun _ _ ↦ yields_pure (stmtsOnLines_cons funcsOnLines_nil hacc))
      (yields_pure (stmtsOnLines_cons funcsOnLines_nil hacc))
  case h_3 => exact yields_bind (yields_true _) fun _ _ ↦ ih.statements acc hacc
  case h_4 =>
    refine yields_ite (yields_pure fun x hx ↦ hacc x (List.mem_reverse.1 hx)) ?_
    exact yields_bind ih.statement fun s hs ↦ ih.statements _ (List.forall_mem_cons.2 ⟨hs, hacc⟩)

theorem elseParts_step :
    Yields ts (elseParts (n + 1)) fun p ↦ ∀ s ∈ p.1, FuncsOnLines (stmtFunctions s) := by
  unfold elseParts
  refine yields_bind (yields_true _) fun t _ ↦ ?_
  split
  case h_1 =>
    refine yields_bind (yields_true _) fun _ _ ↦ yields_bind (ih.subexpr 0) fun c hc ↦ ?_
    refine yields_bind (yields_true _) fun _ _ ↦ yields_bind ih.block fun b hb ↦ ?_
    refine yields_bind ih.elseParts fun p hp ↦ yields_pure ?_
    intro s hs
    rcases List.mem_singleton.1 hs with rfl
    simp only [stmtFunctions, funcsOnLines_append, funcsOnLines_blockFunctions]
    exact ⟨⟨hc, hb⟩, hp⟩
  case h_2 =>
    refine yields_bind (yields_true _) fun _ _ ↦ yields_bind ih.block fun b hb ↦ ?_
    exact yields_bind (yields_true _) fun _ _ ↦ yields_pure hb
  case h_3 =>
    exact yields_bind (yields_true _) fun _ _ ↦ yields_pure fun _ h ↦ absurd h List.not_mem_nil

theorem funcTarget_step (e : Expr) (he : FuncsOnLines (exprFunctions e)) :
    Yields ts (funcTarget (n + 1) e) fun e ↦ FuncsOnLines (exprFunctions e) := by
  unfold funcTarget
  refine yields_bind (yields_true _) fun _ _ ↦ yields_ite ?_ (yields_pure he)
  refine yields_bind (yields_true _) fun _ _ ↦ yields_bind (yields_true _) fun _ _ ↦ ?_
  exact ih.funcTarget _ (funcsOnLines_append.2 ⟨he, funcsOnLines_nil⟩)

theorem targetsTail_step (acc : List Expr) (hacc : ∀ e ∈ acc, FuncsOnLines (exprFunctions e)) :
    Yields ts (targetsTail (n + 1) acc) fun es ↦ ∀ e ∈ es, FuncsOnLines (exprFunctions e) := by
  unfold targetsTail
  refine yields_bind (yields_true _) fun _ _ ↦ yields_ite ?_ ?_
  · refine yields_bind (yields_true _) fun _ _ ↦ yields_bind ih.suffixedExpr fun p hp ↦ ?_
    exact yields_ite (ih.targetsTail _ (List.forall_mem_cons.2 ⟨hp, hacc⟩)) yields_failHere
  · exact yields_pure fun x hx ↦ hacc x (List.mem_reverse.1 hx)

/-- The rest of a numeric loop once its step is read. -/
theorem numericFor_yields {v : String} {a b : Expr} {st : Option Expr} {line : Nat}
    (ha : FuncsOnLines (exprFunctions a)) (hb : FuncsOnLines (exprFunctions b))
    (hst : ∀ y, st = some y → FuncsOnLines (exprFunctions y)) :
    Yields ts (do
      let _ ← expect .kwDo
      let body ← block n
      let close ← expect .kwEnd
      pure (Stmt.numericFor v a b st body line close.line))
      fun s ↦ FuncsOnLines (stmtFunctions s) := by
  refine yields_bind (yields_true _) fun _ _ ↦ yields_bind ih.block fun body hbody ↦ ?_
  refine yields_bind (yields_true _) fun _ _ ↦ yields_pure ?_
  -- with a step, its functions come between the limit's and the body's
  cases st with
  | none =>
    simp only [stmtFunctions, funcsOnLines_append, funcsOnLines_blockFunctions]
    exact ⟨⟨⟨ha, hb⟩, funcsOnLines_nil⟩, hbody⟩
  | some x =>
    simp only [stmtFunctions, funcsOnLines_append, funcsOnLines_blockFunctions]
    exact ⟨⟨⟨ha, hb⟩, hst x rfl⟩, hbody⟩

theorem statement_step :
    Yields ts (statement (n + 1)) fun s ↦ FuncsOnLines (stmtFunctions s) := by
  unfold statement
  refine yields_bind (yields_true _) fun t _ ↦ ?_
  split
  case h_1 =>
    refine yields_bind (yields_true _) fun _ _ ↦ yields_bind ih.block fun b hb ↦ ?_
    exact yields_bind (yields_true _) fun _ _ ↦ yields_pure (funcsOnLines_blockFunctions.2 hb)
  case h_2 =>
    refine yields_bind (yields_true _) fun _ _ ↦ yields_bind (ih.subexpr 0) fun c hc ↦ ?_
    refine yields_bind (yields_true _) fun _ _ ↦ yields_bind ih.block fun b hb ↦ ?_
    exact yields_bind (yields_true _) fun _ _ ↦
      yields_pure (funcsOnLines_append.2 ⟨hc, funcsOnLines_blockFunctions.2 hb⟩)
  case h_3 =>
    refine yields_bind (yields_true _) fun _ _ ↦ yields_bind ih.block fun b hb ↦ ?_
    refine yields_bind (yields_true _) fun _ _ ↦ yields_bind (ih.subexpr 0) fun c hc ↦ ?_
    exact yields_pure (funcsOnLines_append.2 ⟨funcsOnLines_blockFunctions.2 hb, hc⟩)
  case h_4 =>
    refine yields_bind (yields_true _) fun _ _ ↦ yields_bind (ih.subexpr 0) fun c hc ↦ ?_
    refine yields_bind (yields_true _) fun _ _ ↦ yields_bind ih.block fun b hb ↦ ?_
    refine yields_bind ih.elseParts fun p hp ↦ yields_pure ?_
    simp only [stmtFunctions, funcsOnLines_append, funcsOnLines_blockFunctions]
    exact ⟨⟨hc, hb⟩, hp⟩
  case h_5 =>
    refine yields_bind (yields_true _) fun _ _ ↦ yields_bind (yields_true _) fun _ _ ↦ ?_
    refine yields_bind (yields_true _) fun _ _ ↦ yields_ite ?_ ?_
    · -- a numeric loop, with or without a step
      refine yields_bind (yields_true _) fun _ _ ↦ yields_bind (ih.subexpr 0) fun a ha ↦ ?_
      refine yields_bind (yields_true _) fun _ _ ↦ yields_bind (ih.subexpr 0) fun b hb ↦ ?_
      refine yields_bind (yields_true _) fun _ _ ↦ ?_
      dsimp only
      -- the step, when there is one, is read before the body
      refine yields_ite ?_ ?_
      · refine yields_bind (yields_true _) fun _ _ ↦ yields_bind (ih.subexpr 0) fun x hx ↦ ?_
        refine yields_bind (yields_pure
          (Q := fun st : Option Expr ↦ ∀ y, st = some y → FuncsOnLines (exprFunctions y))
          fun y hy ↦ Option.some.inj hy ▸ hx) fun st hst ↦ ?_
        exact numericFor_yields ih ha hb hst
      · refine yields_bind (yields_pure
          (Q := fun st : Option Expr ↦ ∀ y, st = some y → FuncsOnLines (exprFunctions y))
          fun y hy ↦ absurd hy (Option.some_ne_none y).symm) fun st hst ↦ ?_
        exact numericFor_yields ih ha hb hst
    · refine yields_bind (yields_true _) fun _ _ ↦ yields_bind (yields_true _) fun _ _ ↦ ?_
      refine yields_bind ih.exprList fun es hes ↦ yields_bind (yields_true _) fun _ _ ↦ ?_
      refine yields_bind ih.block fun body hbody ↦ yields_bind (yields_true _) fun _ _ ↦ ?_
      exact yields_pure (funcsOnLines_append.2
        ⟨funcsOnLines_exprsFunctions.2 hes, funcsOnLines_blockFunctions.2 hbody⟩)
  case h_6 =>
    refine yields_bind (yields_true _) fun _ _ ↦ yields_bind (yields_true _) fun _ _ ↦ ?_
    refine yields_bind (ih.funcTarget _ funcsOnLines_nil) fun _ _ ↦ ?_
    refine yields_bind (yields_true _) fun _ _ ↦ yields_ite ?_ ?_
    · refine yields_bind (yields_true _) fun _ _ ↦ yields_bind (yields_true _) fun _ _ ↦ ?_
      exact yields_bind ih.funcBody fun _ hb ↦ yields_pure hb
    · exact yields_bind ih.funcBody fun _ hb ↦ yields_pure hb
  case h_7 =>
    refine yields_bind (yields_true _) fun _ _ ↦ yields_bind (yields_true _) fun _ _ ↦ ?_
    refine yields_ite ?_ ?_
    · refine yields_bind (yields_true _) fun _ _ ↦ yields_bind (yields_true _) fun _ _ ↦ ?_
      refine yields_bind ih.funcBody fun body hb ↦ yields_pure ?_
      simpa [stmtFunctions, exprsFunctions, exprFunctions] using hb
    · refine yields_bind (yields_true _) fun _ _ ↦ yields_bind (yields_true _) fun _ _ ↦ ?_
      refine yields_bind (yields_true _) fun _ _ ↦ yields_ite ?_ (yields_pure funcsOnLines_nil)
      refine yields_bind (yields_true _) fun _ _ ↦ yields_bind ih.exprList fun es hes ↦ ?_
      exact yields_pure (funcsOnLines_exprsFunctions.2 hes)
  case h_8 =>
    refine yields_bind (yields_true _) fun _ _ ↦ yields_bind (yields_true _) fun _ _ ↦ ?_
    exact yields_bind (yields_true _) fun _ _ ↦ yields_pure funcsOnLines_nil
  case h_9 =>
    refine yields_bind (yields_true _) fun _ _ ↦ yields_bind (yields_true _) fun _ _ ↦ ?_
    exact yields_pure funcsOnLines_nil
  case h_10 =>
    -- an assignment or a call, after the expression it starts with
    refine yields_bind ih.suffixedExpr fun p hp ↦ yields_bind (yields_true _) fun _ _ ↦ ?_
    refine yields_ite (yields_ite ?_ yields_failHere) (yields_ite (yields_pure hp) yields_failHere)
    refine yields_bind (ih.targetsTail [p.1] ?_) fun targets htargets ↦ ?_
    · intro x hx
      cases List.mem_singleton.1 hx
      exact hp
    refine yields_bind (yields_true _) fun _ _ ↦ yields_bind ih.exprList fun vs hvs ↦ ?_
    exact yields_pure (funcsOnLines_append.2
      ⟨funcsOnLines_exprsFunctions.2 htargets, funcsOnLines_exprsFunctions.2 hvs⟩)

end Step

theorem parsesLined (hts : TokensLined ts) : ∀ n, ParsesLined ts n
  | 0 => parsesLined_zero
  | n + 1 =>
    have ih := parsesLined hts n
    { subexpr := subexpr_step ih
      binaryTail := binaryTail_step ih
      simpleExpr := simpleExpr_step hts ih
      primaryExpr := primaryExpr_step hts ih
      suffixedExpr := suffixedExpr_step ih
      suffixes := suffixes_step ih
      args := args_step ih
      exprList := exprList_step ih
      exprListTail := exprListTail_step ih
      tableCons := tableCons_step ih
      fieldList := fieldList_step ih
      field := field_step ih
      funcBody := funcBody_step hts ih
      block := block_step ih
      statements := statements_step ih
      elseParts := elseParts_step ih
      funcTarget := funcTarget_step ih
      targetsTail := targetsTail_step ih
      statement := statement_step ih }

end Parse

/-- **Every function of a parsed chunk starts on a line from one**, so none takes the main
chunk's line zero. -/
theorem parseChunk_funcsOnLines {src : ByteArray} {chunk : List Stmt}
    (h : parseChunk src = .ok chunk) : FuncsOnLines (blockFunctions chunk) := by
  unfold parseChunk at h
  dsimp only at h
  split at h
  · rename_i b pos hrun
    cases h
    have hp := Parse.parsesLined (tokenize_lined src) (16 * ((tokenize src).size + 4))
    -- the block is read first, then the end of the input
    have hchunk : Parse.Yields (tokenize src) (do
        let b ← Parse.block (16 * ((tokenize src).size + 4))
        let _ ← Parse.expect .eof
        pure b) fun b ↦ ∀ s ∈ b, FuncsOnLines (stmtFunctions s) :=
      Parse.yields_bind hp.block fun b hb ↦
        Parse.yields_bind (Parse.yields_true _) fun _ _ ↦ Parse.yields_pure hb
    exact funcsOnLines_blockFunctions.2 (hchunk 0 _ pos hrun)
  · cases h

end LuaDebugger.Lua
