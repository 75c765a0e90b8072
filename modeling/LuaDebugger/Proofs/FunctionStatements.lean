import LuaDebugger.Proofs.ScopeListing
import LuaDebugger.Proofs.FunctionLines
import Mathlib.Data.List.Sort
import Mathlib.Tactic.ITauto
/-!
# The statements of each function

The instrumenter keeps the statement lines of each function apart, a function being named by
the lines it spans (`FuncBody.key`) and the main chunk by `(0, 0)`; a frame shows the list of
its function. `statementsIn_lists_direct_statements` says what the lists hold, for every
source that parses: the main chunk's list is the statement lines where a statement outside
every function starts, a function's list is those where a statement directly in its body
starts (merged with any function spanning the same lines), each list ascending, all lying in
order within the statement lines and together making them up.

The lines a statement of a block starts on are `blockLines`: the statement's own line, then
those of the blocks nested in it, but not those of its functions, which have their own lists.
Labels and `goto` are no such lines: the walk that collects the lines passes them by
(`goto_line_left_out_of_main`).

The walk (`factsStmts`) threads one record through the whole tree, switching the current
scope on entering a function. `Collects` says what a walk adds to the record: the lines of
the current scope, and, for each function it meets, the function's key and the lines of its
body under that key. Walks compose (`Collects.trans`), and the walk over every kind of syntax
collects what its tree holds (`collects_block`), by induction over the tree. That functions
never take the main chunk's key rests on their lines starting from one
(`parseChunk_funcsOnLines`).
-/

namespace LuaDebugger

open Lua

/-- The scope a function's statements are kept under: its first line, and its last line, or
the first when the parser recorded none. -/
def Lua.FuncBody.key : FuncBody → ScopeKey
  | .mk _ _ _ line lastLine => ⟨line, if lastLine = 0 then line else lastLine⟩

/-! ### The statement lines of a block -/

mutual

/-- The lines where the statements of a block begin, with those of the blocks nested in its
statements but not those of its functions: every statement but labels and `goto`. -/
def blockLines : List Stmt → List Nat
  | [] => []
  | s :: rest => stmtLines s ++ blockLines rest

/-- The line where a statement begins, then those of the statements nested in it. An
assignment names at least one target: one without, which no chunk parses to, is no
statement. -/
def stmtLines : Stmt → List Nat
  | .assign [] _ _ => []
  | .assign (_ :: _) _ l => [l]
  | .localAssign _ _ l => [l]
  | .callStmt _ l => [l]
  | .doBlock b l _ => l :: blockLines b
  | .whileLoop _ b l _ => l :: blockLines b
  | .repeatLoop b _ l _ => l :: blockLines b
  | .ifThen _ t e l _ => l :: (blockLines t ++ blockLines e)
  | .numericFor _ _ _ _ b l _ => l :: blockLines b
  | .genericFor _ _ b l _ => l :: blockLines b
  | .funcDef _ _ l => [l]
  | .methodDef _ _ _ l => [l]
  | .ret _ l => [l]
  | .brk l => [l]
  | .label .. => []
  | .goto .. => []

end

/-! ### What a walk collects -/

theorem factsFunc_eq (f : LineFacts) (fb : FuncBody) :
    factsFunc f fb = factsStmts fb.key { f with scopes := f.scopes.push fb.key } fb.body := by
  cases fb
  rfl

/-- `f'` is `f` with what a walk in the scope `cur` collects: the statement lines `lines` of
`cur` and the functions `funcs`, each function owning the lines of its body. -/
structure Collects (cur : ScopeKey) (f f' : LineFacts) (lines : List Nat)
    (funcs : List FuncBody) : Prop where
  owners : ∀ k l, (k, l) ∈ f'.owners.toList ↔ (k, l) ∈ f.owners.toList ∨ (k = cur ∧ l ∈ lines) ∨
    ∃ fb ∈ funcs, fb.key = k ∧ l ∈ blockLines fb.body
  scopes : ∀ k, k ∈ f'.scopes.toList ↔ k ∈ f.scopes.toList ∨ ∃ fb ∈ funcs, fb.key = k
  leads : ∀ l, (∃ w, (l, w) ∈ f'.leads.toList) ↔ (∃ w, (l, w) ∈ f.leads.toList) ∨ l ∈ lines ∨
    ∃ fb ∈ funcs, l ∈ blockLines fb.body

namespace Collects

variable {cur : ScopeKey} {f f₁ f₂ : LineFacts} {L L₁ L₂ : List Nat} {F F₁ F₂ : List FuncBody}

theorem refl (cur : ScopeKey) (f : LineFacts) : Collects cur f f [] [] :=
  ⟨fun _ _ ↦ by simp, fun _ ↦ by simp, fun _ ↦ by simp⟩

theorem trans (h₁ : Collects cur f f₁ L₁ F₁) (h₂ : Collects cur f₁ f₂ L₂ F₂) :
    Collects cur f f₂ (L₁ ++ L₂) (F₁ ++ F₂) := by
  refine ⟨fun k l ↦ ?_, fun k ↦ ?_, fun l ↦ ?_⟩
  · rw [h₂.owners, h₁.owners]
    simp only [List.mem_append, or_and_right, exists_or]
    itauto
  · rw [h₂.scopes, h₁.scopes]
    simp only [List.mem_append, or_and_right, exists_or]
    itauto
  · rw [h₂.leads, h₁.leads]
    simp only [List.mem_append, or_and_right, exists_or]
    itauto

/-- The same collection, told with lists of the same members. -/
theorem congr (h : Collects cur f f₁ L F) {L' : List Nat} {F' : List FuncBody}
    (hL : ∀ l, l ∈ L ↔ l ∈ L') (hF : ∀ fb, fb ∈ F ↔ fb ∈ F') : Collects cur f f₁ L' F' := by
  refine ⟨fun k l ↦ ?_, fun k ↦ ?_, fun l ↦ ?_⟩
  · rw [h.owners, hL]
    simp only [hF]
  · rw [h.scopes]
    simp only [hF]
  · rw [h.leads, hL]
    simp only [hF]

theorem add (cur : ScopeKey) (f : LineFacts) (l : Nat) (w : String) :
    Collects cur f (f.add cur l w) [l] [] := by
  refine ⟨fun k l' ↦ ?_, fun k ↦ ?_, fun l' ↦ ?_⟩
  · simp [LineFacts.add]
  · simp [LineFacts.add]
  · simp [LineFacts.add, exists_or]

/-- A function's walk: its body is walked in the function's own scope, which it records. -/
theorem func (fb : FuncBody)
    (h : ∀ g, Collects fb.key g (factsStmts fb.key g fb.body) (blockLines fb.body)
      (blockFunctions fb.body)) :
    Collects cur f (factsFunc f fb) [] (bodyFunctions fb) := by
  have h' := h { f with scopes := f.scopes.push fb.key }
  rw [factsFunc_eq, bodyFunctions_eq]
  refine ⟨fun k l ↦ ?_, fun k ↦ ?_, fun l ↦ ?_⟩
  · rw [h'.owners, @eq_comm _ k fb.key]
    simp only [List.mem_cons, List.not_mem_nil, and_false, false_or, exists_eq_or_imp]
  · rw [h'.scopes]
    simp only [Array.toList_push, List.mem_append, List.mem_cons, List.not_mem_nil, or_false,
      exists_eq_or_imp, or_assoc, @eq_comm _ k fb.key]
  · rw [h'.leads]
    simp only [List.mem_cons, List.not_mem_nil, false_or, exists_eq_or_imp]

end Collects

/-! ### The walk collects the statements and functions of the tree -/

mutual

theorem collects_expr (cur : ScopeKey) (f : LineFacts) :
    ∀ e, Collects cur f (factsExpr cur f e) [] (exprFunctions e)
  | .func b => by
    rw [factsExpr, exprFunctions]
    exact collects_func cur f b
  | .call fn a _ _ => by
    rw [factsExpr, exprFunctions]
    exact (collects_expr cur f fn).trans (collects_exprs cur _ a)
  | .method r _ a _ _ => by
    rw [factsExpr, exprFunctions]
    exact (collects_expr cur f r).trans (collects_exprs cur _ a)
  | .index o k _ => by
    rw [factsExpr, exprFunctions]
    exact (collects_expr cur f o).trans (collects_expr cur _ k)
  | .table fs _ => by
    rw [factsExpr, exprFunctions]
    exact collects_fields cur f fs
  | .binop _ a b _ => by
    rw [factsExpr, exprFunctions]
    exact (collects_expr cur f a).trans (collects_expr cur _ b)
  | .unop _ a _ => by
    rw [factsExpr, exprFunctions]
    exact collects_expr cur f a
  | .nil _ | .tru _ | .fls _ | .number .. | .str .. | .vararg .. | .name .. =>
    Collects.refl cur f
termination_by structural x => x

theorem collects_exprs (cur : ScopeKey) (f : LineFacts) :
    ∀ es, Collects cur f (factsExprs cur f es) [] (exprsFunctions es)
  | [] => by
    rw [factsExprs, exprsFunctions]
    exact Collects.refl cur f
  | e :: rest => by
    rw [factsExprs, exprsFunctions]
    exact (collects_expr cur f e).trans (collects_exprs cur _ rest)
termination_by structural x => x

theorem collects_fields (cur : ScopeKey) (f : LineFacts) :
    ∀ fs, Collects cur f (factsFields cur f fs) [] (fieldsFunctions fs)
  | [] => by
    rw [factsFields, fieldsFunctions]
    exact Collects.refl cur f
  | .positional v :: rest => by
    rw [factsFields, fieldsFunctions]
    exact (collects_expr cur f v).trans (collects_fields cur _ rest)
  | .keyed k v :: rest => by
    rw [factsFields, fieldsFunctions]
    exact ((collects_expr cur f k).trans (collects_expr cur _ v)).trans
      (collects_fields cur _ rest)
termination_by structural x => x

theorem collects_func (cur : ScopeKey) (f : LineFacts) :
    ∀ fb, Collects cur f (factsFunc f fb) [] (bodyFunctions fb)
  | .mk _ _ body _ _ => Collects.func _ fun g ↦ collects_block _ g body
termination_by structural x => x

theorem collects_block (cur : ScopeKey) (f : LineFacts) :
    ∀ b, Collects cur f (factsStmts cur f b) (blockLines b) (blockFunctions b)
  | [] => by
    rw [factsStmts, blockLines, blockFunctions]
    exact Collects.refl cur f
  | s :: rest => by
    rw [factsStmts, blockLines, blockFunctions]
    exact (collects_stmt cur f s).trans (collects_block cur _ rest)
termination_by structural x => x

theorem collects_stmt (cur : ScopeKey) (f : LineFacts) :
    ∀ s, Collects cur f (factsStmt cur f s) (stmtLines s) (stmtFunctions s)
  | .assign [] vs _ => by
    exact (collects_exprs cur f []).trans (collects_exprs cur _ vs)
  | .assign (t :: ts) vs l => by
    exact ((Collects.add cur f l _).trans (collects_exprs cur _ (t :: ts))).trans
      (collects_exprs cur _ vs)
  | .localAssign _ vs l => by
    exact (Collects.add cur f l _).trans (collects_exprs cur _ vs)
  | .callStmt e l => by
    exact (Collects.add cur f l _).trans (collects_expr cur _ e)
  | .doBlock b l _ => by
    exact (Collects.add cur f l _).trans (collects_block cur _ b)
  | .whileLoop c b l _ => by
    exact ((Collects.add cur f l _).trans (collects_expr cur _ c)).trans (collects_block cur _ b)
  | .repeatLoop b c l _ => by
    exact (((Collects.add cur f l _).trans (collects_block cur _ b)).trans
      (collects_expr cur _ c)).congr (by simp [stmtLines]) (by simp [stmtFunctions])
  | .ifThen c t e l _ => by
    exact ((((Collects.add cur f l _).trans (collects_expr cur _ c)).trans
      (collects_block cur _ t)).trans (collects_block cur _ e)).congr (by simp [stmtLines]) (by simp [stmtFunctions])
  | .numericFor _ a b none body l _ => by
    exact ((((Collects.add cur f l _).trans (collects_expr cur _ a)).trans
      (collects_expr cur _ b)).trans (collects_block cur _ body)).congr (by simp [stmtLines]) (by simp [stmtFunctions])
  | .numericFor _ a b (some st) body l _ => by
    exact (((((Collects.add cur f l _).trans (collects_expr cur _ a)).trans
      (collects_expr cur _ b)).trans (collects_expr cur _ st)).trans
      (collects_block cur _ body)).congr (by simp [stmtLines]) (by simp [stmtFunctions])
  | .genericFor _ es body l _ => by
    exact ((Collects.add cur f l _).trans (collects_exprs cur _ es)).trans
      (collects_block cur _ body)
  | .funcDef _ body l => by
    exact (Collects.add cur f l _).trans (collects_func cur _ body)
  | .methodDef _ _ body l => by
    exact (Collects.add cur f l _).trans (collects_func cur _ body)
  | .ret vs l => by
    exact (Collects.add cur f l _).trans (collects_exprs cur _ vs)
  | .brk l => by
    exact Collects.add cur f l _
  | .label .. | .goto .. => by
    exact Collects.refl cur f
termination_by structural x => x

end

/-! ### Sorted keys and lines -/

theorem mem_insertKey {k y : ScopeKey} {l : List ScopeKey} :
    y ∈ insertKey k l ↔ y = k ∨ y ∈ l := by
  induction l with
  | nil => simp [insertKey]
  | cons z zs ih =>
    unfold insertKey
    split
    · simp
    · split
      · rename_i h
        subst h
        simp
      · simp only [List.mem_cons, ih]
        tauto

theorem mem_foldl_insertKey {y : ScopeKey} (ks acc : List ScopeKey) :
    y ∈ ks.foldl (fun acc k ↦ insertKey k acc) acc ↔ y ∈ acc ∨ y ∈ ks := by
  induction ks generalizing acc with
  | nil => simp
  | cons k ks ih =>
    rw [List.foldl_cons, ih, mem_insertKey, List.mem_cons]
    tauto

theorem mem_foldl_insertSorted' {β : Type} (f : β → Nat) (xs : List β) (acc : List Nat) {y : Nat} :
    y ∈ xs.foldl (fun acc x ↦ insertSorted (f x) acc) acc ↔ y ∈ acc ∨ ∃ x ∈ xs, f x = y := by
  induction xs generalizing acc with
  | nil => simp
  | cons x xs ih =>
    rw [List.foldl_cons, ih, mem_insertSorted]
    simp only [List.mem_cons, exists_eq_or_imp]
    tauto

/-- Looking a key up among entries computed from their keys finds the entry of that key. -/
theorem find?_map_key {β : Type} (F : ScopeKey → β) (ks : List ScopeKey) (key : ScopeKey) :
    (ks.map fun k ↦ (k, F k)).find? (fun x ↦ x.1 = key) =
      if key ∈ ks then some (key, F key) else none := by
  induction ks with
  | nil => simp
  | cons k ks ih =>
    rw [List.map_cons, List.find?_cons]
    by_cases hk : k = key
    · subst hk
      simp
    · simp only [hk, decide_false, ih, List.mem_cons, Ne.symm hk, false_or]

/-! ### What the walk over a chunk collects -/

section Walk

variable (chunk : List Stmt)

theorem owners_walk {k : ScopeKey} {l : Nat} :
    (k, l) ∈ (factsStmts .main {} chunk).owners.toList ↔ (k = .main ∧ l ∈ blockLines chunk) ∨
      ∃ fb ∈ blockFunctions chunk, fb.key = k ∧ l ∈ blockLines fb.body := by
  rw [(collects_block .main {} chunk).owners]
  simp

theorem scopes_walk {k : ScopeKey} :
    k ∈ (factsStmts .main {} chunk).scopes.toList ↔ ∃ fb ∈ blockFunctions chunk, fb.key = k := by
  rw [(collects_block .main {} chunk).scopes]
  simp

theorem leads_walk {l : Nat} :
    (∃ w, (l, w) ∈ (factsStmts .main {} chunk).leads.toList) ↔ l ∈ blockLines chunk ∨
      ∃ fb ∈ blockFunctions chunk, l ∈ blockLines fb.body := by
  rw [(collects_block .main {} chunk).leads]
  simp

end Walk

/-- A function starting on a line from one is not the main chunk. -/
theorem FuncBody.key_ne_main {fb : FuncBody} (h : 1 ≤ fb.line) : fb.key ≠ .main := by
  cases fb
  intro hk
  simp only [FuncBody.key, FuncBody.line, ScopeKey.main, ScopeKey.mk.injEq] at hk h
  omega

/-! ### The lists of an instrumented program -/

/-- The statement lines of a function, as the program lists them. -/
theorem statementsIn_of_scopes {p : Program} {keys : List ScopeKey} {G : ScopeKey → List Nat}
    (hs : p.scopes = keys.map fun k ↦ (k, G k)) {key : ScopeKey} (hkey : key ∈ keys)
    (first last : Nat) (hfirst : key = if first = 0 then .main else ⟨first, last⟩) :
    p.statementsIn first last = (G key).map fun l ↦ ⟨p.id, l⟩ := by
  unfold Program.statementsIn
  dsimp only
  rw [hs, ← hfirst, find?_map_key, if_pos hkey]

/-- What the instrumenter keeps of the walk over a chunk: the statement lines are lines where
the walk found a statement, ascending, and each key of a function or of the main chunk gets
the statement lines the walk gave it. -/
theorem instrument_shape {cwd : String} {index : Nat} {path : String} {src : ByteArray}
    {p : Program} {chunk : List Stmt} (hp : Program.instrument cwd index path src = .ok p)
    (hc : parseChunk src = .ok chunk) :
    (∀ l ∈ p.statements, ∃ w, (l, w) ∈ (factsStmts .main {} chunk).leads.toList) ∧
      p.statements.Pairwise (· < ·) ∧
      p.scopes = (((factsStmts .main {} chunk).scopes.toList ++
          (factsStmts .main {} chunk).owners.toList.map (·.1)).foldl
            (fun acc k ↦ insertKey k acc) [.main]).map fun k ↦
        (k, ((factsStmts .main {} chunk).owners.toList.filter
          fun x ↦ x.1 = k ∧ p.statements.contains x.2).foldl (fun acc x ↦ insertSorted x.2 acc) []) := by
  unfold Program.instrument at hp
  rw [hc] at hp
  dsimp only [bind, Except.bind, pure, Except.pure] at hp
  obtain rfl := Except.ok.inj hp
  refine ⟨fun l hl ↦ ?_, ((foldl_insertSorted _ []).2 List.Pairwise.nil).filter _, rfl⟩
  have hl := (List.mem_filter.1 hl).1
  simpa using (foldl_insertSorted _ []).1 l |>.1 hl

/-- The scope lists of an instrumented program: one for the main chunk and one for each key of a
function, each the ascending statement lines the walk gave that key. -/
theorem instrument_scopes {cwd : String} {index : Nat} {path : String} {src : ByteArray}
    {p : Program} {chunk : List Stmt} (hp : Program.instrument cwd index path src = .ok p)
    (hc : parseChunk src = .ok chunk) :
    ∃ keys : List ScopeKey, ∃ G : ScopeKey → List Nat, p.scopes = keys.map (fun k ↦ (k, G k)) ∧
      (∀ k, k ∈ keys ↔ k = .main ∨ ∃ fb ∈ blockFunctions chunk, fb.key = k) ∧
      (∀ k l, l ∈ G k ↔ (k, l) ∈ (factsStmts .main {} chunk).owners.toList ∧ l ∈ p.statements) ∧
      ∀ k, (G k).Pairwise (· < ·) := by
  obtain ⟨-, -, hs⟩ := instrument_shape hp hc
  refine ⟨_, _, hs, fun k ↦ ?_, fun k l ↦ ?_, fun k ↦ pairwise_foldl_insertSorted _ _ List.Pairwise.nil⟩
  · -- every owner is the main chunk or a function the walk recorded
    rw [mem_foldl_insertKey, List.mem_singleton, List.mem_append, scopes_walk, List.mem_map]
    constructor
    · rintro (h | h | ⟨⟨k', l⟩, hkl, rfl⟩)
      · exact Or.inl h
      · exact Or.inr h
      · rcases (owners_walk chunk).1 hkl with ⟨rfl, -⟩ | ⟨fb, hfb, hk, -⟩
        · exact Or.inl rfl
        · exact Or.inr ⟨fb, hfb, hk⟩
    · rintro (h | h)
      · exact Or.inl h
      · exact Or.inr (Or.inl h)
  · rw [mem_foldl_insertSorted']
    simp only [List.not_mem_nil, List.mem_filter, decide_eq_true_eq, List.contains_iff_mem,
      false_or]
    constructor
    · rintro ⟨⟨k', l'⟩, ⟨hx, rfl, hl⟩, rfl⟩
      exact ⟨hx, hl⟩
    · rintro ⟨hx, hl⟩
      exact ⟨(k, l), ⟨hx, rfl, hl⟩, rfl⟩

/-- A function's key names it among those of its program: the lines of its start and its end, or
of its start alone when the parser recorded no end. -/
theorem statementsIn_key {p : Program} {keys : List ScopeKey} {G : ScopeKey → List Nat}
    (hs : p.scopes = keys.map fun k ↦ (k, G k)) {fb : FuncBody} (hkey : fb.key ∈ keys)
    (hline : 1 ≤ fb.line) :
    p.statementsIn fb.line (if fb.lastLine = 0 then fb.line else fb.lastLine) =
      (G fb.key).map fun l ↦ ⟨p.id, l⟩ := by
  refine statementsIn_of_scopes hs hkey _ _ ?_
  rw [if_neg (Nat.one_le_iff_ne_zero.1 hline)]
  cases fb
  rfl

/-- **Each function's statement list is the statements written directly in it.** For a source
that parses: the main chunk's list holds, ascending, the statement lines where a statement of
the main chunk outside every function starts; a function's list, looked up by the lines it
spans, holds those where a statement directly in its body starts, merged with those of any
function spanning the same lines; every list lies in order within the statement lines, and
together they are all of them. Labels and `goto` are statements the walk does not record, so
their lines count only as lines of the statements around them. -/
theorem statementsIn_lists_direct_statements (cwd : String) (index : Nat) (path : String) (src : ByteArray) :
    match Program.instrument cwd index path src with
    | .error f => parseChunk src = .error f
    | .ok p => ∃ chunk, parseChunk src = .ok chunk ∧
      (∀ last, ∃ ls : List Nat,
        p.statementsIn 0 last = ls.map (fun l ↦ ⟨p.id, l⟩) ∧ ls.Pairwise (· < ·) ∧
        ∀ l, l ∈ ls ↔ l ∈ p.statements ∧ l ∈ blockLines chunk) ∧
      (∀ fb ∈ blockFunctions chunk, 1 ≤ fb.line ∧ ∃ ls : List Nat,
        p.statementsIn fb.line (if fb.lastLine = 0 then fb.line else fb.lastLine) =
          ls.map (fun l ↦ ⟨p.id, l⟩) ∧ ls.Pairwise (· < ·) ∧
        ∀ l, l ∈ ls ↔ l ∈ p.statements ∧
          ∃ fb' ∈ blockFunctions chunk, fb'.key = fb.key ∧ l ∈ blockLines fb'.body) ∧
      (∀ k ls, (k, ls) ∈ p.scopes → ls.Sublist p.statements) ∧
      (∀ l, l ∈ p.statements ↔ ∃ k ls, (k, ls) ∈ p.scopes ∧ l ∈ ls) := by
  cases hc : parseChunk src with
  | error f =>
    have h : Program.instrument cwd index path src = .error f := by
      unfold Program.instrument
      rw [hc]
      rfl
    rw [h]
  | ok chunk =>
    cases hp : Program.instrument cwd index path src with
    | error f =>
      unfold Program.instrument at hp
      rw [hc] at hp
      cases hp
    | ok p =>
      obtain ⟨hlead, hsorted, -⟩ := instrument_shape hp hc
      obtain ⟨keys, G, hs, hkeys, hG, hGsorted⟩ := instrument_scopes hp hc
      have hlines := parseChunk_funcsOnLines hc
      refine ⟨chunk, rfl, fun last ↦ ?_, fun fb hfb ↦ ?_, fun k ls hkls ↦ ?_, fun l ↦ ?_⟩
      · -- the main chunk: no function takes its key
        refine ⟨G .main, statementsIn_of_scopes hs ((hkeys _).2 (Or.inl rfl)) 0 last rfl,
          hGsorted _, fun l ↦ ?_⟩
        rw [hG, owners_walk]
        constructor
        · rintro ⟨⟨-, hl⟩ | ⟨fb, hfb, hk, -⟩, hs⟩
          · exact ⟨hs, hl⟩
          · exact absurd hk (FuncBody.key_ne_main (hlines fb hfb))
        · rintro ⟨hs, hl⟩
          exact ⟨Or.inl ⟨rfl, hl⟩, hs⟩
      · -- a function: its key is its own, not the main chunk's
        have hline := hlines fb hfb
        refine ⟨hline, G fb.key, statementsIn_key hs ((hkeys _).2 (Or.inr ⟨fb, hfb, rfl⟩)) hline,
          hGsorted _, fun l ↦ ?_⟩
        rw [hG, owners_walk]
        constructor
        · rintro ⟨⟨hk, -⟩ | hf, hs⟩
          · exact absurd hk (FuncBody.key_ne_main hline)
          · exact ⟨hs, hf⟩
        · rintro ⟨hs, hf⟩
          exact ⟨Or.inr hf, hs⟩
      · -- a list is ascending and within the ascending statement lines
        obtain ⟨k', -, hk'⟩ := List.mem_map.1 (hs ▸ hkls)
        cases hk'
        refine List.sublist_of_subperm_of_pairwise
          (List.subperm_of_subset (hGsorted k).nodup fun l hl ↦ ((hG k l).1 hl).2) (hGsorted k) hsorted
      · constructor
        · -- a statement line lies in the list of the main chunk or of a function it is in
          intro hl
          have hk : ∃ k, k ∈ keys ∧ (k, l) ∈ (factsStmts .main {} chunk).owners.toList := by
            rcases (leads_walk chunk).1 (hlead l hl) with h | ⟨fb, hfb, h⟩
            · exact ⟨.main, (hkeys _).2 (Or.inl rfl), (owners_walk chunk).2 (Or.inl ⟨rfl, h⟩)⟩
            · exact ⟨fb.key, (hkeys _).2 (Or.inr ⟨fb, hfb, rfl⟩),
                (owners_walk chunk).2 (Or.inr ⟨fb, hfb, rfl, h⟩)⟩
          obtain ⟨k, hk, hkl⟩ := hk
          exact ⟨k, G k, hs ▸ List.mem_map.2 ⟨k, hk, rfl⟩, (hG k l).2 ⟨hkl, hl⟩⟩
        · rintro ⟨k, ls, hkls, hl⟩
          obtain ⟨k', -, hk'⟩ := List.mem_map.1 (hs ▸ hkls)
          cases hk'
          exact ((hG k l).1 hl).2

/-- In `local f = function()\n  return 1 end goto skip\n::skip::\nprint(f())\n` the main chunk has
a `goto` starting on line 2, where the hook goes, for the `return` of `f` starts there too; but
the main chunk's list is lines 1 and 4 only. -/
theorem goto_line_left_out_of_main :
    (match Program.instrument "/" 0 "/tmp/p.lua"
        "local f = function()\n  return 1 end goto skip\n::skip::\nprint(f())\n".toUTF8 with
      | .ok p =>
        (match parseChunk
            "local f = function()\n  return 1 end goto skip\n::skip::\nprint(f())\n".toUTF8 with
          | .ok chunk => chunk.any fun s ↦ match s with
            | .goto _ l => l == 2
            | _ => false
          | .error _ => false) &&
        p.statements == [1, 2, 4] && (p.statementsIn 0 0).map (·.line) == [1, 4]
      | .error _ => false) = true := by
  decide +kernel

end LuaDebugger
