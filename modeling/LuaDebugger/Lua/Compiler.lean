import LuaDebugger.Lua.Syntax
import LuaDebugger.Lua.Code
import LuaDebugger.Lua.Arith
/-!
# Compiling a chunk

`compileChunk` turns the statements of a chunk into the `Proto` of a variadic function
without parameters. Names resolve statically: a name declared by an enclosing `local`,
parameter or loop of the same function is a slot, one of an enclosing function an upvalue
(the variable is then kept in a cell), and any other name a field of the environment.

The rules the debugger can observe are kept exactly:

* a variable comes into scope after the statement that declares it, except that
  `local function f` and `local f = function … end` declare `f` before the function, so
  the function sees itself;
* loops keep their state in hidden variables whose names start with `(`, declared before
  the expressions that initialise them;
* a variadic function other than a chunk has the local `arg` after its parameters;
* evaluation goes left to right: in an assignment the tables and keys on the left first,
  then the values, and the stores in the order of the targets; a comparison `a > b`
  evaluates `a` then `b` and compares `b < a`;
* a chain `a .. b .. c` is one concatenation of all its operands;
* arithmetic on numerals alone, and the negation of a numeral, is computed here, and a
  function keeps one constant for each value: the two zeros are equal, so whichever of
  `0` and `-0` the function writes first stands for both.
-/

namespace LuaDebugger.Lua

/-- A chunk the compiler refuses. -/
structure CompileFault where
  line : Nat
  message : String
  deriving Inhabited, Repr

/-- A block of statements being compiled. -/
structure Scope where
  /-- Variables declared in the block, the latest first: name, slot and index in
  `FuncState.locals`. -/
  vars : List (String × Nat × Nat) := []
  /-- Whether `break` leaves this block. -/
  loop : Bool := false
  /-- Jumps of `break` to the end of the loop. -/
  breaks : List Nat := []
  /-- Labels of the block: name, the instruction they stand before, and the slots of the
  variables in scope there. -/
  labels : List (String × Nat × Nat) := []
  /-- Jumps of `goto` not yet resolved: name, instruction, line, and the slots of the
  variables in scope at the jump, or at the start of the innermost block it has left. -/
  gotos : List (String × Nat × Nat × Nat) := []
  deriving Inhabited

/-- A function being compiled. -/
structure FuncState where
  code : Array Instr := #[]
  lines : Array Nat := #[]
  protos : Array Proto := #[]
  /-- Open blocks, the innermost first. -/
  scopes : List Scope := [{}]
  locals : Array LocalInfo := #[]
  /-- Whether a nested function captures each local. -/
  captured : Array Bool := #[]
  upvalues : Array (String × Capture) := #[]
  /-- Slots of the variables in scope. -/
  active : Nat := 0
  /-- Slots set aside above them. -/
  scratch : Nat := 0
  maxSlots : Nat := 0
  variadic : Bool := false
  usesVararg : Bool := false
  /-- Instructions that create variables, with the locals they create. -/
  creates : List (Nat × List Nat) := []
  /-- The line of the end of the function, where an unresolvable `goto` is reported. -/
  lastLine : Nat := 0
  /-- The zero among the function's constants, once one is written. -/
  zero : Option Float := none
  deriving Inhabited

/-- How a name resolves. -/
inductive Resolved where
  | slot (i : Nat)
  | upvalue (i : Nat)
  | global

/-- The state of the compiler: the functions being compiled, the innermost first. -/
structure Compiler where
  funcs : List FuncState := [{}]
  source : String := ""

/-- The compiler's monad. -/
abbrev CompileM := StateT Compiler (Except CompileFault)

namespace FuncState

/-- The slot and index of the innermost variable in scope named `n`. -/
def findLocal (f : FuncState) (n : String) : Option (Nat × Nat) :=
  f.scopes.findSome? fun s ↦ s.vars.findSome? fun (m, slot, id) ↦
    if m = n then some (slot, id) else none

/-- The index of the upvalue named `n`. -/
def findUpvalue (f : FuncState) (n : String) : Option Nat :=
  f.upvalues.findIdx? (·.1 = n)

end FuncState

/-- Resolves `n` in a chain of functions, the innermost first, registering upvalues and
marking captured variables along the way. -/
def resolveIn : List FuncState → String → List FuncState × Resolved
  | [], _ => ([], .global)
  | f :: rest, n =>
    match f.findLocal n with
    | some (slot, _) => (f :: rest, .slot slot)
    | none =>
      match f.findUpvalue n with
      | some i => (f :: rest, .upvalue i)
      | none =>
        match rest with
        | [] => (f :: rest, .global)
        | g :: more =>
          match g.findLocal n with
          | some (slot, id) =>
            let g := { g with captured := g.captured.set! id true }
            ({ f with upvalues := f.upvalues.push (n, .slot slot) } :: g :: more,
              .upvalue f.upvalues.size)
          | none =>
            let (rest', r) := resolveIn (g :: more) n
            match r with
            | .global => (f :: rest', .global)
            | .upvalue j =>
              ({ f with upvalues := f.upvalues.push (n, .upvalue j) } :: rest',
                .upvalue f.upvalues.size)
            | .slot _ => (f :: rest', .global)

namespace Compile

/-- Fails with a message at a line. -/
def fault (line : Nat) (msg : String) : CompileM α := throw ⟨line, msg⟩

/-- The innermost function. -/
def cur : CompileM FuncState := do
  match (← get).funcs with
  | f :: _ => pure f
  | [] => pure {}

/-- Changes the innermost function. -/
def modifyCur (g : FuncState → FuncState) : CompileM Unit :=
  modify fun c ↦ match c.funcs with
    | f :: rest => { c with funcs := g f :: rest }
    | [] => c

/-- Appends an instruction reported at `line` and returns its position. -/
def emit (i : Instr) (line : Nat) : CompileM Nat := do
  let f ← cur
  modifyCur fun f ↦ { f with code := f.code.push i, lines := f.lines.push line }
  pure f.code.size

/-- Appends an instruction. -/
def emit_ (i : Instr) (line : Nat) : CompileM Unit := do
  let _ ← emit i line

/-- The position of the next instruction. -/
def here : CompileM Nat := do pure (← cur).code.size

/-- Pushes a number constant. A zero is the first zero the function wrote, whatever its
sign: the function keeps one constant per value, and `0` equals `-0`. -/
def pushConstant (v : Float) (line : Nat) : CompileM Unit := do
  let v ← if v == 0 then
      match (← cur).zero with
      | some z => pure z
      | none => do
        modifyCur fun f ↦ { f with zero := some v }
        pure v
    else pure v
  emit_ (.pushNum v) line

/-- Points the jump at `pc` to `target`. -/
def patch (pc target : Nat) : CompileM Unit :=
  modifyCur fun f ↦
    let i := match f.code[pc]? with
      | some (.jump _) => Instr.jump target
      | some (.jumpIfFalse _) => .jumpIfFalse target
      | some (.andJump _) => .andJump target
      | some (.orJump _) => .orJump target
      | some (.forPrep b _) => .forPrep b target
      | some i => i
      | none => .jump target
    { f with code := f.code.set! pc i }

/-- Declares a variable in the innermost block and returns its slot and index. -/
def declare (n : String) : CompileM (Nat × Nat) := do
  let f ← cur
  let slot := f.active
  let id := f.locals.size
  modifyCur fun f ↦
    { f with
      locals := f.locals.push ⟨n, slot, f.code.size, 0, 0⟩
      captured := f.captured.push false
      scopes := match f.scopes with
        | s :: rest => { s with vars := (n, slot, id) :: s.vars } :: rest
        | [] => [{ vars := [(n, slot, id)] }]
      active := f.active + 1
      maxSlots := max f.maxSlots (f.active + 1 + f.scratch) }
  pure (slot, id)

/-- Declares a variable and returns its slot only. -/
def declareSlot (n : String) : CompileM Nat := do pure (← declare n).1

/-- Records that the instruction at `pc` creates the given locals. -/
def creates (pc : Nat) (ids : List Nat) : CompileM Unit :=
  modifyCur fun f ↦ { f with creates := (pc, ids) :: f.creates }

/-- Sets a slot aside above the variables in scope. -/
def allocScratch : CompileM Nat := do
  let f ← cur
  modifyCur fun f ↦
    { f with
      scratch := f.scratch + 1
      maxSlots := max f.maxSlots (f.active + f.scratch + 1) }
  pure (f.active + f.scratch)

/-- Releases `n` slots set aside. -/
def freeScratch (n : Nat) : CompileM Unit :=
  modifyCur fun f ↦ { f with scratch := f.scratch - n }

/-- Opens a block. -/
def enterScope (loop : Bool) : CompileM Unit :=
  modifyCur fun f ↦ { f with scopes := { loop := loop } :: f.scopes }

/-- Resolves the pending jumps of `goto` of a block against its labels; returns those that
stay pending. A jump to a label where more variables are in scope than at the jump enters
the scope of the first of them, and is refused. -/
def resolveGotos (s : Scope) : CompileM (List (String × Nat × Nat × Nat)) := do
  let mut pending := []
  for (n, pc, line, active) in s.gotos do
    match s.labels.find? (·.1 = n) with
    | some (_, target, labelActive) =>
      if labelActive > active then
        let name := (s.vars.find? (·.2.1 = active)).map (·.1) |>.getD "?"
        fault (← cur).lastLine ("<goto " ++ n ++ "> at line " ++ toString line ++
          " jumps into the scope of local '" ++ name ++ "'")
      patch pc target
    | none => pending := pending ++ [(n, pc, line, active)]
  pure pending

/-- Closes the innermost block: its variables go out of scope after the last instruction
so far, and that end is listed on the variables at their slots' positions; its pending
jumps of `goto` move to the block around it. Returns the block. -/
def leaveScope : CompileM Scope := do
  let f ← cur
  match f.scopes with
  | [] => pure {}
  | s :: rest =>
    let pending ← resolveGotos s
    let endPc := f.code.size - 1
    let f ← cur
    let locals := s.vars.foldl (fun ls (_, slot, id) ↦
      (ls.modify id fun l ↦ { l with endPc := endPc }).modify slot
        fun l ↦ { l with listedEnd := endPc }) f.locals
    let outer := f.active - s.vars.length
    let pending := pending.map fun (n, pc, line, active) ↦ (n, pc, line, min active outer)
    let rest := match rest with
      | p :: more => { p with gotos := p.gotos ++ pending } :: more
      | [] => []
    modifyCur fun f ↦
      { f with
        scopes := rest
        locals := locals
        active := outer }
    if rest.isEmpty then
      match pending with
      | (n, _, line, _) :: _ =>
        fault f.lastLine ("no visible label '" ++ n ++ "' for <goto> at line " ++ toString line)
      | [] => pure ()
    pure s

/-- Places a label before the next instruction; `atEnd` tells that it ends its block. -/
def label (nm : String) (atEnd : Bool) : CompileM Unit := do
  let pc ← here
  modifyCur fun f ↦ { f with scopes := match f.scopes with
    | sc :: rest =>
      let active := if atEnd then f.active - sc.vars.length else f.active
      { sc with labels := (nm, pc, active) :: sc.labels } :: rest
    | [] => [] }

/-- Resolves a name. -/
def resolve (n : String) : CompileM Resolved := do
  let c ← get
  let (fs, r) := resolveIn c.funcs n
  set { c with funcs := fs }
  pure r

/-- The name a call site gives the function it calls: a name, a field with a string key,
else `?`. -/
def callName : Expr → String
  | .name n _ => n
  | .index _ (.str s _) _ => String.fromUTF8? s |>.getD "?"
  | _ => "?"

/-- Whether an expression may leave several values: an unparenthesised call or `...`. -/
def isMulti : Expr → Bool
  | .call _ _ single _ => !single
  | .method _ _ _ single _ => !single
  | .vararg single _ => !single
  | _ => false

/-- The binary64 value of a numeral, NaN when it does not read. -/
def numeral (text : ByteArray) : Float := (parseNumber? text).getD (0.0 / 0.0)

/-- The arithmetic operator a binary operator stands for, if any. -/
def arithOf : BinOp → Option ArithOp
  | .add => some .add
  | .sub => some .sub
  | .mul => some .mul
  | .div => some .div
  | .mod => some .mod
  | .pow => some .pow
  | _ => none

/-- The value of an expression made of numerals by arithmetic and negation alone, which is
computed when the chunk is compiled. -/
def constantValue : Expr → Option Float
  | .number t _ => some (numeral t)
  | .unop .neg a _ => (constantValue a).map (- ·)
  | .binop op a b _ => do
    let k ← arithOf op
    let x ← constantValue a
    let y ← constantValue b
    pure (k.apply x y)
  | _ => none

/-- The operands of a chain of concatenations, following right operands. -/
def concatOperands : Expr → List Expr
  | .binop .concat a b _ => a :: concatOperands b
  | e => [e]

/-- Whether the last of a list of expressions may leave several values. -/
def lastIsMulti (es : List Expr) : Bool := (es.getLast?.map isMulti).getD false

/-- Refuses a chunk nested deeper than the compiler's budget. -/
def deep (line : Nat) : CompileM α := fault line "chunk has too many syntax levels"

/-- Adds instructions that turn one value into `want` values. -/
def adjust (want : Want) (line : Nat) : CompileM Unit :=
  match want with
  | some 0 => emit_ (.pop 1) line
  | some (n + 2) => emit_ (.pushNil (n + 1)) line
  | _ => pure ()

/-- Compiles `...` leaving `want` values. -/
def vararg (l : Nat) (want : Want) : CompileM Unit := do
  if !(← cur).variadic then fault l "cannot use '...' outside a vararg function"
  modifyCur fun f ↦ { f with usesVararg := true }
  emit_ (.vararg want) l

/-- The instruction of an arithmetic or comparison operator. -/
def operatorInstr : BinOp → Instr
  | .add => .arith .add
  | .sub => .arith .sub
  | .mul => .arith .mul
  | .div => .arith .div
  | .mod => .arith .mod
  | .pow => .arith .pow
  | .eq => .compare .eq false false
  | .ne => .compare .eq true false
  | .lt => .compare .lt false false
  | .le => .compare .le false false
  | .gt => .compare .lt false true
  | .ge => .compare .le false true
  | _ => .pop 0

/-- Compiles the assignment of the value on top of the stack to a name. -/
def store (target : Expr) : CompileM Unit :=
  match target with
  | .name n l => do
    match ← resolve n with
    | .slot i => emit_ (.setSlot i) l
    | .upvalue i => emit_ (.setUpvalue i) l
    | .global => emit_ (.setGlobal n.toUTF8) l
  | e => emit_ (.pop 1) e.line

/-- Stores values set aside into their targets: an indexing target with its table and key
set aside too. -/
def storeAll : List (Expr × Option (Nat × Nat) × Nat) → CompileM Unit
  | [] => pure ()
  | (target, parts, v) :: rest => do
    match parts with
    | some (so, sk) =>
      emit_ (.getSlot so) target.line
      emit_ (.getSlot sk) target.line
      emit_ (.getSlot v) target.line
      emit_ .setIndex target.line
    | none =>
      emit_ (.getSlot v) target.line
      store target
    storeAll rest

/-- Declares variables in order and returns their indices. -/
def declareIds : List String → CompileM (List Nat)
  | [] => pure []
  | n :: ns => do
    let (_, id) ← declare n
    let ids ← declareIds ns
    pure (id :: ids)

/-- Records a `break` in the innermost loop. -/
def addBreak (j : Nat) : List Scope → Option (List Scope)
  | [] => none
  | s :: rest =>
    if s.loop then some ({ s with breaks := j :: s.breaks } :: rest)
    else (addBreak j rest).map (s :: ·)

/-- The prototype of a compiled function: the instructions that create captured
variables are marked to give them cells. -/
def finish (f : FuncState) (params : Nat) (variadic nested : Bool) (source : String)
    (line lastLine : Nat) : Proto :=
  let isCaptured (id : Nat) : Bool := f.captured.getD id false
  let code := f.creates.foldl (fun code (pc, ids) ↦
    match code[pc]? with
    | some (.initSlot s _) => code.set! pc (.initSlot s (ids.any isCaptured))
    | some (.forLoop b t _) => code.set! pc (.forLoop b t (ids.any isCaptured))
    | some (.forCall b _) => code.set! pc (.forCall b (ids.map isCaptured))
    | _ => code) f.code
  let hasArg := variadic ∧ nested
  let firstIds := List.range (params + (if hasArg then 1 else 0))
  { code := code
    lines := f.lines
    protos := f.protos
    params := params
    variadic := variadic
    argTable := hasArg ∧ !f.usesVararg
    hasArg := hasArg
    boxedParams := firstIds.filter isCaptured
    slots := f.maxSlots
    upvalueNames := f.upvalues.map (·.1)
    captures := f.upvalues.map (·.2)
    locals := f.locals
    source := source
    lineDefined := line
    lastLineDefined := lastLine }

/-- What a call does with its results: leaves `want` of them, or returns them all. -/
inductive CallMode where
  | leave (want : Want)
  | tail

/-- The one-byte floating form `eeeeexxx` of a count: a count below 8 stands as it is, a
larger one as the mantissa `1xxx` and the exponent `eeeee` of `1xxx · 2^(eeeee - 1)`, the
mantissa rounded up so that the form never reads as less than the count. -/
def floatingByte (n : Nat) : Nat :=
  go n n 0
where
  /-- Halves `x`, rounding up, until it is below 16, counting the halvings in `e`; `fuel`
  bounds the halvings, and `n` of them are more than a count `n` needs. -/
  go : Nat → Nat → Nat → Nat
    | fuel + 1, x, e => if 16 ≤ x then go fuel ((x + 1) / 2) (e + 1) else finish x e
    | 0, x, e => finish x e
  /-- The form of the mantissa `x` below 16 and the exponent `e`. -/
  finish (x e : Nat) : Nat := if x < 8 then x else (e + 1) * 8 + (x - 8)

/-- The number of positional fields of a constructor that give one value each: all of them
but a last one that may give many. -/
def positionalCount (fields : List Field) : Nat :=
  let single := fields.filter fun
    | .positional _ => true
    | .keyed _ _ => false
  match fields.getLast? with
  | some (.positional v) => if isMulti v then single.length - 1 else single.length
  | _ => single.length

mutual

/-- Compiles an expression leaving `want` values. -/
def expr : Nat → Expr → Want → CompileM Unit
  | 0, e, _ => deep e.line
  | n + 1, e, want =>
    match e with
    | .nil l => do emit_ (.pushNil 1) l; adjust want l
    | .tru l => do emit_ (.pushBool true) l; adjust want l
    | .fls l => do emit_ (.pushBool false) l; adjust want l
    | .number t l => do pushConstant (numeral t) l; adjust want l
    | .str s l => do emit_ (.pushStr s) l; adjust want l
    | .vararg single l =>
      if single then do vararg l (some 1); adjust want l else vararg l want
    | .func b => do function n b false; adjust want b.line
    | .name nm l => do
      match ← resolve nm with
      | .slot i => emit_ (.getSlot i) l
      | .upvalue i => emit_ (.getUpvalue i) l
      | .global => emit_ (.getGlobal nm.toUTF8) l
      adjust want l
    | .index o k l => do
      expr n o (some 1)
      expr n k (some 1)
      emit_ .index l
      adjust want l
    | .call f args single l => call n f args single l (.leave want)
    | .method r m args single l => methodCall n r m args single l (.leave want)
    | .binop op a b l => do
      match constantValue e with
      | some v => pushConstant v l
      | none => binop n op a b l
      adjust want l
    | .unop op a l =>
      match constantValue e with
      | some v => do pushConstant v l; adjust want l
      | none => do
        expr n a (some 1)
        match op with
        | .neg => emit_ .neg l
        | .not => emit_ .not l
        | .len => emit_ .len l
        adjust want l
    | .table fields l => do table n fields l; adjust want l

/-- Compiles expressions leaving one value each, the last leaving all of its values when it
may leave several. -/
def argList : Nat → List Expr → CompileM Unit
  | 0, _ => deep 0
  | _ + 1, [] => pure ()
  | n + 1, [e] => expr n e (if isMulti e then none else some 1)
  | n + 1, e :: es => do
    expr n e (some 1)
    argList n es

/-- Compiles expressions leaving one value each. -/
def exprList : Nat → List Expr → CompileM Unit
  | 0, _ => deep 0
  | _ + 1, [] => pure ()
  | n + 1, e :: es => do
    expr n e (some 1)
    exprList n es

/-- Compiles a list of expressions adjusted to exactly `k` values; expressions beyond them
are evaluated and dropped. -/
def exprsN : Nat → List Expr → Nat → Nat → CompileM Unit
  | 0, _, _, l => deep l
  | _ + 1, [], k, l => if k > 0 then emit_ (.pushNil k) l else pure ()
  | n + 1, [e], k, _ => expr n e (some k)
  | n + 1, e :: rest, k, l => do
    if k = 0 then
      expr n e (some 0)
      exprsN n rest 0 l
    else
      expr n e (some 1)
      exprsN n rest (k - 1) l

/-- Compiles a call of `f`. -/
def call : Nat → Expr → List Expr → Bool → Nat → CallMode → CompileM Unit
  | 0, _, _, _, l, _ => deep l
  | n + 1, f, args, single, l, mode => do
    let multi := lastIsMulti args
    if multi then emit_ .mark l
    expr n f (some 1)
    argList n args
    let name := callName f
    match mode with
    | .leave want =>
      let want := if single ∧ want.isNone then some 1 else want
      if multi then emit_ (.callAll want name) l else emit_ (.call args.length want name) l
    | .tail =>
      if multi then emit_ (.tailCallAll name) l else emit_ (.tailCall args.length name) l

/-- Compiles a method call `r:m(args)`. -/
def methodCall : Nat → Expr → String → List Expr → Bool → Nat → CallMode → CompileM Unit
  | 0, _, _, _, _, l, _ => deep l
  | n + 1, r, m, args, single, l, mode => do
    let multi := lastIsMulti args
    if multi then emit_ .mark l
    expr n r (some 1)
    emit_ (.method m.toUTF8) l
    argList n args
    match mode with
    | .leave want =>
      let want := if single ∧ want.isNone then some 1 else want
      if multi then emit_ (.callAll want m) l else emit_ (.call (args.length + 1) want m) l
    | .tail =>
      if multi then emit_ (.tailCallAll m) l else emit_ (.tailCall (args.length + 1) m) l

/-- Compiles a binary operation. -/
def binop : Nat → BinOp → Expr → Expr → Nat → CompileM Unit
  | 0, _, _, _, l => deep l
  | n + 1, op, a, b, l =>
    match op with
    | .and => do
      expr n a (some 1)
      let j ← emit (.andJump 0) l
      expr n b (some 1)
      patch j (← here)
    | .or => do
      expr n a (some 1)
      let j ← emit (.orJump 0) l
      expr n b (some 1)
      patch j (← here)
    | .concat => do
      let ops := a :: concatOperands b
      exprList n ops
      emit_ (.concat ops.length) l
    | _ => do
      expr n a (some 1)
      expr n b (some 1)
      emit_ (operatorInstr op) l

/-- Compiles a table constructor: positional values are gathered and stored fifty at a
time, keyed fields are stored as they come. The new table reserves as many array slots as
the one-byte floating form of its count of single positional values reads as a plain number
(see `floatingByte`): three for `{3, 2, 1}`, but 31 for sixty values. -/
def table : Nat → List Field → Nat → CompileM Unit
  | 0, _, l => deep l
  | n + 1, fields, l => do
    emit_ (.newTable (floatingByte (positionalCount fields))) l
    let t ← allocScratch
    emit_ (.initSlot t false) l
    fieldList n t fields 0 0 l
    emit_ (.getSlot t) l
    freeScratch 1

/-- Compiles the fields of a constructor whose table is in slot `t`; `stored` positional
values are in the table and `pending` more wait on the stack. -/
def fieldList : Nat → Nat → List Field → Nat → Nat → Nat → CompileM Unit
  | 0, _, _, _, _, l => deep l
  | _ + 1, t, [], stored, pending, l =>
    if pending > 0 then emit_ (.setList t (stored + 1) pending) l else pure ()
  | n + 1, t, .positional v :: rest, stored, pending, l => do
    if rest.isEmpty ∧ isMulti v then
      if pending > 0 then emit_ (.setList t (stored + 1) pending) v.line
      emit_ .mark v.line
      expr n v none
      emit_ (.setListAll t (stored + pending + 1)) v.line
    else
      expr n v (some 1)
      if pending + 1 = 50 then
        emit_ (.setList t (stored + 1) 50) v.line
        fieldList n t rest (stored + 50) 0 l
      else fieldList n t rest stored (pending + 1) l
  | n + 1, t, .keyed k v :: rest, stored, pending, l => do
    emit_ (.getSlot t) l
    expr n k (some 1)
    expr n v (some 1)
    emit_ .setIndex l
    fieldList n t rest stored pending l

/-- Compiles a function and leaves it on the stack; `method` adds the parameter `self`. -/
def function : Nat → FuncBody → Bool → CompileM Unit
  | 0, b, _ => deep b.line
  | n + 1, .mk params variadic body line lastLine, method => do
    modify fun c ↦ { c with funcs := { variadic := variadic, lastLine := lastLine } :: c.funcs }
    if method then discard (declare "self")
    discard (declareIds params)
    if variadic then discard (declare "arg")
    block n body
    emit_ (.ret 0) lastLine
    discard leaveScope
    let f ← cur
    let p := finish f (params.length + (if method then 1 else 0)) variadic true (← get).source
      line lastLine
    modify fun c ↦ { c with funcs := c.funcs.drop 1 }
    modifyCur fun g ↦ { g with protos := g.protos.push p }
    emit_ (.closure ((← cur).protos.size - 1)) line

/-- Compiles statements. A label that only labels follow ends its block, and the variables
of the block are out of scope there. -/
def block : Nat → List Stmt → CompileM Unit
  | 0, _ => deep 0
  | _ + 1, [] => pure ()
  | n + 1, .label nm _ :: ss => do
    label nm (ss.all Stmt.isLabel)
    block n ss
  | n + 1, s :: ss => do
    stmt n s
    block n ss

/-- Compiles statements in a block of their own. -/
def inScope : Nat → List Stmt → Bool → CompileM Scope
  | 0, _, _ => deep 0
  | n + 1, ss, loop => do
    enterScope loop
    block n ss
    leaveScope

/-- Compiles a condition that jumps when false; returns the jumps to patch. A constant
true condition tests nothing and a constant false one always jumps. -/
def cond : Nat → Expr → CompileM (List Nat)
  | 0, e => deep e.line
  | n + 1, e =>
    match e with
    | .tru _ | .number .. | .str .. => pure []
    | .fls l | .nil l => do pure [← emit (.jump 0) l]
    | _ => do
      expr n e (some 1)
      pure [← emit (.jumpIfFalse 0) e.line]

/-- Sets aside the table and key of each indexing target. -/
def targetParts : Nat → List Expr → CompileM (List (Option (Nat × Nat)))
  | 0, _ => deep 0
  | _ + 1, [] => pure []
  | n + 1, .index o k _ :: rest => do
    expr n o (some 1)
    let so ← allocScratch
    emit_ (.initSlot so false) o.line
    expr n k (some 1)
    let sk ← allocScratch
    emit_ (.initSlot sk false) k.line
    let more ← targetParts n rest
    pure (some (so, sk) :: more)
  | n + 1, _ :: rest => do
    let more ← targetParts n rest
    pure (none :: more)

/-- Compiles an assignment of several values: tables and keys of the targets go aside
first, then the values, then the stores in the order of the targets. -/
def assignMany : Nat → List Expr → List Expr → Nat → CompileM Unit
  | 0, _, _, l => deep l
  | n + 1, targets, values, l => do
    let parts ← targetParts n targets
    exprsN n values targets.length l
    let mut slots : List Nat := []
    for _ in targets do
      let s ← allocScratch
      slots := slots ++ [s]
    for s in slots.reverse do
      emit_ (.initSlot s false) l
    storeAll (targets.zip (parts.zip slots))
    freeScratch (slots.length + parts.foldl (fun c p ↦ c + (if p.isSome then 2 else 0)) 0)

/-- Compiles a statement. -/
def stmt : Nat → Stmt → CompileM Unit
  | 0, s => deep s.line
  | n + 1, s =>
    match s with
    | .assign targets values l =>
      match targets, values with
      | [.index o k tl], [v] => do
        expr n o (some 1)
        expr n k (some 1)
        expr n v (some 1)
        emit_ .setIndex tl
      | [t], [v] => do
        expr n v (some 1)
        store t
      | _, _ => assignMany n targets values l
    | .callStmt e _ => expr n e (some 0)
    | .doBlock body _ _ => discard (inScope n body false)
    | .whileLoop c body l _ => do
      let top ← here
      let exits ← cond n c
      enterScope true
      block n body
      emit_ (.jump top) l
      let sc ← leaveScope
      let out ← here
      for j in exits ++ sc.breaks do patch j out
    | .repeatLoop body c _ _ => do
      let top ← here
      enterScope true
      block n body
      let exits ← cond n c
      let sc ← leaveScope
      for j in exits do patch j top
      let out ← here
      for j in sc.breaks do patch j out
    | .ifThen c thenPart elsePart l _ => do
      let exits ← cond n c
      discard (inScope n thenPart false)
      if elsePart.isEmpty then
        let out ← here
        for j in exits do patch j out
      else
        let skip ← emit (.jump 0) l
        let other ← here
        for j in exits do patch j other
        discard (inScope n elsePart false)
        patch skip (← here)
    | .numericFor v start limit step body l _ => do
      enterScope true
      let base ← declareSlot "(for index)"
      expr n start (some 1)
      emit_ (.initSlot base false) l
      discard (declare "(for limit)")
      expr n limit (some 1)
      emit_ (.initSlot (base + 1) false) l
      discard (declare "(for step)")
      match step with
      | some st => expr n st (some 1)
      | none => emit_ (.pushNum 1) start.line
      emit_ (.initSlot (base + 2) false) l
      let prep ← emit (.forPrep base 0) l
      let (_, id) ← declare v
      let body0 ← here
      discard (inScope n body false)
      let sc ← leaveScope
      patch prep (← here)
      let pc ← emit (.forLoop base body0 false) l
      creates pc [id]
      let out ← here
      for j in sc.breaks do patch j out
    | .genericFor names es body l _ => do
      enterScope true
      let base ← declareSlot "(for generator)"
      discard (declare "(for state)")
      discard (declare "(for control)")
      exprsN n es 3 l
      emit_ (.initSlot (base + 2) false) l
      emit_ (.initSlot (base + 1) false) l
      emit_ (.initSlot base false) l
      let j ← emit (.jump 0) l
      let ids ← declareIds names
      let body0 ← here
      discard (inScope n body false)
      let sc ← leaveScope
      patch j (← here)
      let pc ← emit (.forCall base (names.map fun _ ↦ false)) l
      creates pc ids
      emit_ (.forNext base body0) l
      let out ← here
      for j in sc.breaks do patch j out
    | .funcDef target body _ => do
      match target with
      | .index o k tl =>
        expr n o (some 1)
        expr n k (some 1)
        function n body false
        emit_ .setIndex tl
      | t =>
        function n body false
        store t
    | .methodDef recv m body _ => do
      expr n recv (some 1)
      emit_ (.pushStr m.toUTF8) body.line
      function n body true
      emit_ .setIndex body.line
    | .localAssign names values l =>
      match names, values with
      | [nm], [.func b] => do
        let (slot, id) ← declare nm
        emit_ (.pushNil 1) l
        let pc ← emit (.initSlot slot false) l
        creates pc [id]
        function n b false
        emit_ (.setSlot slot) b.line
      | _, _ => do
        exprsN n values names.length l
        let base := (← cur).active
        let mut pcs : List Nat := []
        for i in (List.range names.length).reverse do
          pcs := pcs ++ [← emit (.initSlot (base + i) false) l]
        let ids ← declareIds names
        for (pc, id) in pcs.zip ids.reverse do creates pc [id]
    | .ret values l =>
      match values with
      | [.call f args false cl] => call n f args false cl .tail
      | [.method r m args false cl] => methodCall n r m args false cl .tail
      | _ =>
        if lastIsMulti values then do
          emit_ .mark l
          argList n values
          emit_ .retAll l
        else do
          exprList n values
          emit_ (.ret values.length) l
    | .brk l => do
      let j ← emit (.jump 0) l
      match addBreak j (← cur).scopes with
      | some ss => modifyCur fun f ↦ { f with scopes := ss }
      | none => fault l "no loop to break"
    | .label nm _ => label nm false
    | .goto nm l => do
      let j ← emit (.jump 0) l
      match (← cur).scopes.findSome? (fun sc ↦ (sc.labels.find? (·.1 = nm)).map (·.2.1)) with
      | some target => patch j target
      | none => modifyCur fun f ↦ { f with scopes := match f.scopes with
          | sc :: rest => { sc with gotos := (nm, j, l, f.active) :: sc.gotos } :: rest
          | [] => [] }

end

end Compile

mutual

/-- The number of nodes of an expression. -/
def Expr.size : Expr → Nat
  | .func b => 1 + b.size
  | .index o k _ => 1 + o.size + k.size
  | .call f args _ _ => 1 + f.size + Expr.listSize args
  | .method r _ args _ _ => 1 + r.size + Expr.listSize args
  | .binop _ a b _ => 1 + a.size + b.size
  | .unop _ a _ => 1 + a.size
  | .table fs _ => 1 + Field.listSize fs
  | _ => 1

/-- The number of nodes of a list of expressions. -/
def Expr.listSize : List Expr → Nat
  | [] => 1
  | e :: es => 1 + e.size + Expr.listSize es

/-- The number of nodes of a list of fields. -/
def Field.listSize : List Field → Nat
  | [] => 1
  | .positional v :: fs => 1 + v.size + Field.listSize fs
  | .keyed k v :: fs => 1 + k.size + v.size + Field.listSize fs

/-- The number of nodes of a function. -/
def FuncBody.size : FuncBody → Nat
  | .mk _ _ body _ _ => 1 + Stmt.listSize body

/-- The number of nodes of a statement. -/
def Stmt.size : Stmt → Nat
  | .assign ts vs _ => 1 + Expr.listSize ts + Expr.listSize vs
  | .callStmt e _ => 1 + e.size
  | .doBlock b _ _ => 1 + Stmt.listSize b
  | .whileLoop c b _ _ => 1 + c.size + Stmt.listSize b
  | .repeatLoop b c _ _ => 1 + c.size + Stmt.listSize b
  | .ifThen c t e _ _ => 1 + c.size + Stmt.listSize t + Stmt.listSize e
  | .numericFor _ a b c body _ _ =>
    1 + a.size + b.size + (match c with | some c => c.size | none => 1) + Stmt.listSize body
  | .genericFor _ es b _ _ => 1 + Expr.listSize es + Stmt.listSize b
  | .funcDef t b _ => 1 + t.size + b.size
  | .methodDef r _ b _ => 1 + r.size + b.size
  | .localAssign _ vs _ => 1 + Expr.listSize vs
  | .ret vs _ => 1 + Expr.listSize vs
  | _ => 1

/-- The number of nodes of a list of statements. -/
def Stmt.listSize : List Stmt → Nat
  | [] => 1
  | s :: ss => 1 + s.size + Stmt.listSize ss

end

/-- Compiles the statements of a chunk named `source`. The compiler's recursion is bounded
by four steps per node of the chunk, which is more than any path through it takes. -/
def compileChunk (source : String) (body : List Stmt) : Except CompileFault Proto :=
  let run : CompileM Proto := do
    let lastLine := match body.getLast? with
      | some s => s.lastLine + 1
      | none => 0
    Compile.modifyCur fun f ↦ { f with variadic := true, lastLine := lastLine }
    Compile.block (4 * Stmt.listSize body + 64) body
    Compile.emit_ (.ret 0) 0
    let _ ← Compile.leaveScope
    let f ← Compile.cur
    pure (Compile.finish f 0 true false source 0 0)
  (run.run { source := source }).map (·.1)

/-- The text of a refusal: `compile error near line(<line>) <source>: <message>`. -/
def CompileFault.render (e : CompileFault) (source : String) : String :=
  "compile error near line(" ++ toString e.line ++ ") " ++ source ++ ": " ++ e.message

end LuaDebugger.Lua
