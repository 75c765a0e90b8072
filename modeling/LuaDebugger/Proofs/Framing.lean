import Mathlib
import LuaDebugger.Protocol.Replay
import LuaDebugger.Proofs.Instrumentation
/-!
# Reading replies back line by line

A reply is written line by line: every `Reply.line` appends a text and a line feed. A client
reads it back the way the server reads requests, cutting the text at line feeds
(`Reply.readBack`). This module says exactly what comes back.

* `Reply.readBack_of_framed`: a reply written with the lines `ls` reads back as each of
  them cut at its own line feeds; `flatMap_splitBytes_eq_self` says that this gives `ls`
  again exactly when no line holds a line feed.
* `Datum.lf_not_mem_toJson?`: the JSON text of a datum never holds a line feed, since every
  line feed inside a string is escaped. A JSON line always comes back whole.
* `Dispatcher.replies_read_back_at_line_feeds`: for every engine state, the variable listing
  reads back as its receipt, the opening line, each variable's line cut at its line feeds,
  and the closing line, or as an error frame around the engine's message cut the same way,
  so the variables come back one per line exactly when none of their lines holds a line
  feed; an evaluation reads back as exactly one body line, the JSON text of its first result;
  the value of a variable reads back as one JSON line, and its failure as the error text cut
  at its line feeds; a stepping command reads back as its receipt and opening line, with an
  error frame when it fails. Each handler has its own lemma (`listVariables_readBack`,
  `evaluate_readBack`, `evaluateVariable_readBack`, `run_readBack`).

The texts of variables and of errors are the program's own data, written raw, so a value or
a message with a line feed breaks the one-line-per-item framing, and a line of it may even
read back as a delimiter.
-/

namespace LuaDebugger

namespace Text

/-! ### Lines of bytes -/

/-- Splitting lines that each end in the separator gives the pieces of each line, and an
empty piece after the last separator. -/
theorem splitOn_flatMap_append_sep {α : Type} [BEq α] [LawfulBEq α] (a : α)
    (ls : List (List α)) :
    (ls.flatMap fun l ↦ l ++ [a]).splitOn a = ls.flatMap (·.splitOn a) ++ [[]] := by
  induction ls with
  | nil => rfl
  | cons l ls ih =>
    rw [List.flatMap_cons, List.append_assoc, List.singleton_append,
      List.splitOn_append_cons_self, ih, List.flatMap_cons, List.append_assoc]

/-- A split has one piece more than the list has separators. -/
theorem length_splitOn {α : Type} [BEq α] [LawfulBEq α] (a : α) (l : List α) :
    (l.splitOn a).length = l.count a + 1 := by
  induction l with
  | nil => rfl
  | cons x xs ih =>
    rw [List.splitOn_cons_eq_if_modifyHead, List.count_cons]
    by_cases hx : x = a <;> simp [hx, ih]

/-- A byte string is determined by its bytes. -/
theorem data_toList_injective : Function.Injective fun b : ByteArray ↦ b.data.toList := by
  rintro ⟨a⟩ ⟨b⟩ h
  exact congrArg ByteArray.mk (Array.toList_inj.1 h)

/-- Joining with nothing between is concatenation. -/
theorem data_joinBytes_empty (bs : List ByteArray) :
    (joinBytes .empty bs).data.toList = (bs.map (·.data.toList)).flatten := by
  fun_induction joinBytes .empty bs with
  | case1 => rfl
  | case2 b => simp
  | case3 b rest _ ih => simp [ih]

/-- A line without a line feed reads back as itself. -/
theorem splitBytes_of_not_mem {l : ByteArray} (h : (10 : UInt8) ∉ l.data.toList) :
    splitBytes 10 l = [l] := by
  apply List.map_injective_iff.2 data_toList_injective
  rw [data_splitBytes, List.splitOn_eq_singleton h]
  rfl

/-- A line reads back as one piece more than it has line feeds. -/
theorem length_splitBytes (l : ByteArray) :
    (splitBytes 10 l).length = l.data.toList.count 10 + 1 := by
  rw [← List.length_map (f := (·.data.toList)), data_splitBytes, length_splitOn]

theorem length_flatMap_splitBytes (ls : List ByteArray) :
    (ls.flatMap (splitBytes 10)).length = ls.length + (ls.map (·.data.toList.count 10)).sum := by
  induction ls with
  | nil => rfl
  | cons l ls ih =>
    rw [List.flatMap_cons, List.length_append, length_splitBytes, ih]
    simp only [List.length_cons, List.map_cons, List.sum_cons]
    omega

/-- **Lines come back as written exactly when none holds a line feed.** -/
theorem flatMap_splitBytes_eq_self (ls : List ByteArray) :
    ls.flatMap (splitBytes 10) = ls ↔ ∀ l ∈ ls, (10 : UInt8) ∉ l.data.toList := by
  constructor
  · intro h l hl
    -- a line feed anywhere would make more pieces than lines
    have hsum := congrArg List.length h
    rw [length_flatMap_splitBytes] at hsum
    have hzero : (ls.map (·.data.toList.count 10)).sum = 0 := by omega
    rw [List.sum_eq_zero_iff_forall_eq_nat] at hzero
    exact List.count_eq_zero.1 (hzero _ (List.mem_map_of_mem hl))
  · intro h
    rw [List.flatMap_congr fun l hl ↦ splitBytes_of_not_mem (h l hl)]
    exact List.flatMap_singleton' ls

/-! ### Line feeds in encoded text -/

theorem lf_eq_ofNat (n : Nat) : (10 : UInt8) = UInt8.ofNat n ↔ n % 256 = 10 := by
  rw [← UInt8.toNat_inj, UInt8.toNat_ofNat]
  simp
  omega

/-- Only the line feed is encoded with a line-feed byte: every byte of a longer encoding has
its high bit set. -/
theorem lf_mem_utf8EncodeChar {c : Char} :
    (10 : UInt8) ∈ String.utf8EncodeChar c ↔ c = '\n' := by
  have hc : c = '\n' ↔ c.val.toNat = 10 := by
    rw [Char.ext_iff, ← UInt32.toNat_inj]
    rfl
  rw [hc]
  unfold String.utf8EncodeChar
  dsimp only
  split
  · simp only [List.mem_singleton, lf_eq_ofNat]
    omega
  · split
    · simp only [List.mem_cons, List.mem_nil_iff, or_false, lf_eq_ofNat]
      omega
    · split
      · simp only [List.mem_cons, List.mem_nil_iff, or_false, lf_eq_ofNat]
        omega
      · simp only [List.mem_cons, List.mem_nil_iff, or_false, lf_eq_ofNat]
        omega

/-- The bytes of a text hold a line feed exactly when the text does. -/
theorem lf_mem_toUTF8 {s : String} :
    (10 : UInt8) ∈ s.toUTF8.data.toList ↔ '\n' ∈ s.toList := by
  rw [String.toUTF8_eq_toByteArray, ← String.utf8Encode_toList, List.utf8Encode,
    List.toList_data_toByteArray, List.mem_flatMap]
  simp [lf_mem_utf8EncodeChar]

/-- A decimal digit is no line feed. -/
theorem lf_not_mem_toDigits (n : Nat) : '\n' ∉ Nat.toDigits 10 n := fun h ↦
  absurd (Nat.isDigit_of_mem_toDigits (by decide) (by decide) h) (by decide)

theorem lf_not_mem_natRepr (n : Nat) : '\n' ∉ (toString n).toList := by
  show '\n' ∉ n.repr.toList
  rw [Nat.toList_repr]
  exact lf_not_mem_toDigits n

theorem lf_not_mem_intRepr (n : Int) : '\n' ∉ (toString n).toList := by
  show '\n' ∉ n.repr.toList
  cases n with
  | ofNat m => exact lf_not_mem_natRepr m
  | negSucc m =>
    rw [Int.repr, String.toList_append, List.mem_append, not_or]
    exact ⟨by decide, lf_not_mem_natRepr (m + 1)⟩

/-- The hexadecimal code of a control character has no line feed. -/
theorem lf_not_mem_hexPadded : ∀ n < 0x20, '\n' ∉ (hexPadded 2 n).toList := by
  decide

end Text

/-! ### JSON text is one line -/

namespace Decimal

theorem lf_not_mem_zeros (n : Nat) : '\n' ∉ (zeros n).toList := by
  simp [zeros, List.mem_replicate]

theorem lf_not_mem_positional (d : Dec) : '\n' ∉ d.positional.toList := by
  have hds := Text.lf_not_mem_toDigits d.digits
  unfold Dec.positional digitsOf
  dsimp only
  split
  · simp [String.toList_append, hds, lf_not_mem_zeros]
  · split
    · simp only [String.toList_append, String.toList_ofList, List.mem_append, not_or]
      exact ⟨⟨fun h ↦ hds (List.mem_of_mem_take h), by decide⟩,
        fun h ↦ hds (List.mem_of_mem_drop h)⟩
    · simp [String.toList_append, hds, lf_not_mem_zeros]

theorem lf_not_mem_scientific (d : Dec) (k : Nat) : '\n' ∉ (d.scientific k).toList := by
  have hds := Text.lf_not_mem_toDigits d.digits
  have hexp := Text.lf_not_mem_toDigits d.leadingExp.natAbs
  unfold Dec.scientific digitsOf at *
  simp only [String.toList_append, List.mem_append, not_or]
  refine ⟨⟨⟨?_, by decide⟩, by split <;> decide⟩, lf_not_mem_zeros _,
    by simpa using hexp⟩
  -- the mantissa is the digits, with a point after the first
  split
  next c hc =>
    rw [hc] at hds
    simpa using hds
  next c rest _ hc =>
    rw [hc] at hds
    simpa [String.toList_append] using hds
  next => decide

/-- A float in the interchange format has no line feed. -/
theorem lf_not_mem_render (x : Float) : '\n' ∉ (FloatFormat.interchange.render x).toList := by
  unfold FloatFormat.render
  dsimp only
  split
  · split
    · decide
    · split <;> decide
  · split
    · split <;> decide
    · simp only [String.toList_append, List.mem_append, not_or]
      refine ⟨by split <;> decide, ?_⟩
      split
      · exact lf_not_mem_positional _
      · exact lf_not_mem_scientific _ _

end Decimal

namespace Json

theorem lf_not_mem_escapeChar (c : Char) : '\n' ∉ (escapeChar c).toList := by
  unfold escapeChar
  split
  case h_10 _ _ _ _ _ hlf _ _ _ _ =>
    split
    · rw [String.toList_append, List.mem_append, not_or]
      exact ⟨by decide, Text.lf_not_mem_hexPadded _ ‹_›⟩
    · -- any other character stands for itself, and it is no line feed
      rw [String.toList_singleton, List.mem_singleton]
      intro h
      exact hlf (h ▸ rfl)
  all_goals decide

/-- A byte string written as a JSON string has no line feed: a line feed inside it is
escaped. -/
theorem lf_not_mem_quoteBytes (b : ByteArray) : '\n' ∉ (quoteBytes b).toList := by
  -- the pieces are appended one by one to an accumulator without line feeds
  have hfold : ∀ (f : Text.Piece → String), (∀ p, '\n' ∉ (f p).toList) →
      ∀ (ps : List Text.Piece) (acc : String), '\n' ∉ acc.toList →
        '\n' ∉ (ps.foldl (fun acc p ↦ acc ++ f p) acc).toList := by
    intro f hf ps
    induction ps with
    | nil => exact fun _ h ↦ h
    | cons p ps ih =>
      intro acc hacc
      apply ih
      rw [String.toList_append, List.mem_append, not_or]
      exact ⟨hacc, hf p⟩
  rw [quoteBytes, String.toList_append, String.toList_append, List.mem_append, List.mem_append,
    not_or, not_or]
  refine ⟨⟨by decide, hfold _ (fun p ↦ ?_) _ _ (by decide)⟩, by decide⟩
  -- each piece is an escaped character or the replacement character
  cases p with
  | char c => exact lf_not_mem_escapeChar c
  | stray _ => exact (by decide : '\n' ∉ "�".toList)

theorem lf_not_mem_quote (s : String) : '\n' ∉ (quote s).toList := lf_not_mem_quoteBytes _

end Json

namespace Datum

mutual

/-- **The JSON text of a datum is one line**: every line feed of a string in it is escaped,
and numbers, literals and punctuation hold none. -/
theorem lf_not_mem_toJson? : ∀ {d : Datum} {s : String}, d.toJson? = some s → '\n' ∉ s.toList
  | .null, _, h => by cases h; decide
  | .bool b, _, h => by cases h; cases b <;> decide
  | .int n, _, h | .int64 n, _, h => by cases h; exact Text.lf_not_mem_intRepr n
  | .uint64 n, _, h => by cases h; exact Text.lf_not_mem_natRepr n
  | .float x, _, h => by
    simp only [toJson?] at h
    split at h
    · cases h
    · cases h; exact Decimal.lf_not_mem_render x
  | .duration ns, _, h => by cases h; exact Text.lf_not_mem_intRepr ns
  | .text t, _, h => by cases h; exact Json.lf_not_mem_quote t
  | .bytes b, _, h => by cases h; exact Json.lf_not_mem_quoteBytes b
  | .list xs, _, h => by
    obtain ⟨body, hb, rfl⟩ := Option.map_eq_some_iff.1 h
    have := lf_not_mem_listJson? hb
    simp only [String.toList_append, List.mem_append, not_or]
    exact ⟨⟨by decide, this⟩, by decide⟩
  | .map kvs, _, h => by
    obtain ⟨body, hb, rfl⟩ := Option.map_eq_some_iff.1 h
    have := lf_not_mem_entriesJson? hb
    simp only [String.toList_append, List.mem_append, not_or]
    exact ⟨⟨by decide, this⟩, by decide⟩
  | .localDate _, _, h | .localTime _, _, h | .localDateTime _ _, _, h
  | .instant _ _ _ _, _, h => by
    cases h; exact Json.lf_not_mem_quote _

theorem lf_not_mem_listJson? : ∀ {xs : List Datum} {s : String}, listJson? xs = some s →
    '\n' ∉ s.toList
  | [], _, h => by cases h; decide
  | [x], _, h => lf_not_mem_toJson? h
  | x :: y :: rest, s, h => by
    simp only [listJson?, Option.bind_eq_bind, Option.bind_eq_some_iff, Option.pure_def,
      Option.some.injEq] at h
    obtain ⟨a, ha, b, hb, rfl⟩ := h
    simp only [String.toList_append, List.mem_append, not_or]
    exact ⟨⟨lf_not_mem_toJson? ha, by decide⟩, lf_not_mem_listJson? hb⟩

theorem lf_not_mem_entriesJson? : ∀ {kvs : List (String × Datum)} {s : String},
    entriesJson? kvs = some s → '\n' ∉ s.toList
  | [], _, h => by cases h; decide
  | [(k, v)], _, h => by
    obtain ⟨a, ha, rfl⟩ := Option.map_eq_some_iff.1 h
    simp only [String.toList_append, List.mem_append, not_or]
    exact ⟨⟨Json.lf_not_mem_quote k, by decide⟩, lf_not_mem_toJson? ha⟩
  | (k, v) :: kv :: rest, s, h => by
    simp only [entriesJson?, Option.bind_eq_bind, Option.bind_eq_some_iff, Option.pure_def,
      Option.some.injEq] at h
    obtain ⟨a, ha, b, hb, rfl⟩ := h
    simp only [String.toList_append, List.mem_append, not_or]
    exact ⟨⟨⟨⟨Json.lf_not_mem_quote k, by decide⟩, lf_not_mem_toJson? ha⟩, by decide⟩,
      lf_not_mem_entriesJson? hb⟩

end

/-- The line a reply shows for a datum, its JSON text or `null`, holds no line feed. -/
theorem lf_not_mem_jsonOrNull (d : Datum) : (10 : UInt8) ∉ d.jsonOrNull.toUTF8.data.toList := by
  rw [Text.lf_mem_toUTF8, jsonOrNull]
  cases h : d.toJson? with
  | none => decide
  | some s => exact lf_not_mem_toJson? h

end Datum

/-! ### Replies -/

namespace Reply

/-- The lines of a reply as a client reads them back with the protocol's own framing: the
pieces of its text between line feeds, without the empty piece after the last one. -/
def readBack (r : Reply) : List ByteArray := (Text.splitBytes 10 r.sent).dropLast

/-- A reply whose text is the lines `ls`, each followed by a line feed. -/
def Framed (r : Reply) (ls : List ByteArray) : Prop :=
  r.sent.data.toList = ls.flatMap fun l ↦ l.data.toList ++ [10]

variable {r : Reply} {ls : List ByteArray}

theorem sent_data (r : Reply) :
    r.sent.data.toList = (r.flushed.map (·.data.toList)).flatten ++ r.text.data.toList := by
  simp [sent, Text.data_joinBytes_empty]

theorem framed_new (early : Bool) : ({ early := early } : Reply).Framed [] := by
  simp [Framed, sent_data]

theorem Framed.line (h : r.Framed ls) (b : ByteArray) : (r.line b).Framed (ls ++ [b]) := by
  have hnl : ("\n".toUTF8).data.toList = [10] := by decide
  simp only [Framed, sent_data, Reply.line, ByteArray.toList_data_append, hnl] at h ⊢
  rw [← List.append_assoc, ← List.append_assoc, h]
  simp

theorem Framed.lines (h : r.Framed ls) (bs : List ByteArray) :
    (bs.foldl Reply.line r).Framed (ls ++ bs) := by
  induction bs generalizing r ls with
  | nil => simpa using h
  | cons b bs ih => simpa using ih (h.line b)

theorem Framed.flush (h : r.Framed ls) : r.flush.Framed ls := by
  unfold Reply.flush
  split
  · simp only [Framed, sent_data] at h ⊢
    simpa using h
  · exact h

/-- **Reading a reply back.** A client reading a reply line by line gets the lines it was
written with, each cut at its own line feeds. -/
theorem readBack_of_framed (h : r.Framed ls) : r.readBack = ls.flatMap (Text.splitBytes 10) := by
  have hdata : (Text.splitBytes 10 r.sent).map (·.data.toList) =
      (ls.flatMap (Text.splitBytes 10) ++ [ByteArray.empty]).map (·.data.toList) := by
    have hflat : (ls.flatMap fun l ↦ l.data.toList ++ [10]) =
        (ls.map (·.data.toList)).flatMap (· ++ [10]) := by
      simp [List.flatMap_map]
    rw [Text.data_splitBytes, h, hflat, Text.splitOn_flatMap_append_sep, List.map_append,
      List.map_flatMap]
    simp [Text.data_splitBytes, List.flatMap_map]
  rw [readBack, (List.map_injective_iff.2 Text.data_toList_injective) hdata, List.dropLast_concat]

/-- The fixed lines of a request whose name is one line are one line each. -/
theorem lf_not_mem_fixed {name : ByteArray} (hname : (10 : UInt8) ∉ name.data.toList) :
    (10 : UInt8) ∉ (receiptLine name).data.toList ∧
      (10 : UInt8) ∉ (openingLine name).data.toList ∧
      (10 : UInt8) ∉ (closingLine name).data.toList ∧
      (10 : UInt8) ∉ (Dispatcher.variablesReceipt name).data.toList ∧
      (10 : UInt8) ∉ errorOpening.data.toList ∧ (10 : UInt8) ∉ errorClosing.data.toList := by
  simp only [receiptLine, openingLine, closingLine, Dispatcher.variablesReceipt, errorOpening,
    errorClosing, ByteArray.toList_data_append, List.mem_append, not_or]
  exact ⟨⟨⟨by decide, hname⟩, by decide⟩, ⟨⟨by decide, hname⟩, by decide⟩,
    ⟨⟨by decide, hname⟩, by decide⟩, ⟨⟨by decide, hname⟩, by decide⟩, by decide,
    by decide⟩

end Reply

namespace Dispatcher

variable {σ : Type} [DebugEngine σ]

theorem listVariables_reply (d : Dispatcher) (req : Request) (r : Reply) (s : σ) :
    ((d.listVariables req r).run s).1 =
      match (DebugEngine.localVariables.run s).1 with
      | .error e => (r.line (variablesReceipt req.name)).error e
      | .ok vs => (((vs.map Variable.listingLine).foldl Reply.line
          ((r.line (variablesReceipt req.name)).begin req.name)).end req.name) := by
  simp only [listVariables, bind, StateT.bind, StateT.run, List.foldl_map]
  rcases DebugEngine.localVariables s with ⟨_ | vs, s'⟩ <;> rfl

/-- The datum an evaluation shows: its first result, or its failure as text. -/
def evaluationResult : Except ByteArray (List Datum) → Datum
  | .error e => Datum.ofBytes e
  | .ok vs => vs.head?.getD .null

theorem evaluate_reply (d : Dispatcher) (req : Request) (r : Reply) (s : σ) :
    ((d.evaluate req r).run s).1 = (((r.ack req.name).begin req.name).lineText
      (evaluationResult (DebugEngine.executeLine req.rest |>.run s).1).jsonOrNull).end
        req.name := by
  simp only [evaluate, bind, StateT.bind, StateT.run]
  rcases DebugEngine.executeLine req.rest s with ⟨_ | vs, s'⟩ <;> rfl

theorem evaluateVariable_reply (req : Request) (r : Reply) (s : σ) :
    ((evaluateVariable req r).run s).1 =
      (match (DebugEngine.readVariable req.rest |>.run s).1 with
        | .error e => ((r.ack req.name).begin req.name).line e
        | .ok v => ((r.ack req.name).begin req.name).lineText v.jsonOrNull).end req.name := by
  simp only [evaluateVariable, bind, StateT.bind, StateT.run]
  rcases DebugEngine.readVariable req.rest s with ⟨_ | v, s'⟩ <;> rfl

theorem run_reply (d : Dispatcher) (c : Command) (req : Request) (r : Reply) (s : σ) :
    ((d.run c req r).run s).1 =
      match (DebugEngine.run c |>.run s).1 with
      | .error e => ((r.ack req.name).flush.begin req.name).error e
      | .ok () => (r.ack req.name).flush.begin req.name := by
  simp only [run, fail, note, bind, StateT.bind, StateT.run]
  rcases DebugEngine.run c s with ⟨_ | _, s'⟩ <;> rfl

section ReadBack

variable (d : Dispatcher) (req : Request) (s : σ) (early : Bool)
  (hname : (10 : UInt8) ∉ req.name.data.toList)
include hname

/-- The variable listing reads back as its receipt, the opening line, the line of each variable
cut at its line feeds and the closing line; or, when the engine fails, as an error frame around
the engine's message cut at its line feeds. -/
theorem listVariables_readBack :
    ((d.listVariables req { early := early }).run s).1.readBack =
      variablesReceipt req.name :: (match (DebugEngine.localVariables.run s).1 with
        | .ok vs => Reply.openingLine req.name ::
            vs.flatMap (Text.splitBytes 10 ·.listingLine) ++ [Reply.closingLine req.name]
        | .error e => Reply.errorOpening :: Text.splitBytes 10 e ++ [Reply.errorClosing]) := by
  obtain ⟨-, hopen, hclose, hvreceipt, herr, herrc⟩ := Reply.lf_not_mem_fixed hname
  have h0 := Reply.framed_new early
  rw [listVariables_reply]
  cases (DebugEngine.localVariables.run s).1 with
  | error e =>
    dsimp only [Reply.error]
    rw [Reply.readBack_of_framed ((((h0.line _).line _).line e).line _)]
    simp [Text.splitBytes_of_not_mem, hvreceipt, herr, herrc]
  | ok vs =>
    dsimp only [Reply.begin, Reply.end]
    rw [Reply.readBack_of_framed ((((h0.line _).line _).lines _).line _)]
    simp [Text.splitBytes_of_not_mem, hvreceipt, hopen, hclose, List.flatMap_map]

/-- An evaluation reads back as its receipt, the opening line, one body line and the closing
line: the body is JSON text, which holds no line feed. -/
theorem evaluate_readBack :
    ((d.evaluate req { early := early }).run s).1.readBack =
      [Reply.receiptLine req.name, Reply.openingLine req.name,
        (evaluationResult (DebugEngine.executeLine req.rest |>.run s).1).jsonOrNull.toUTF8,
        Reply.closingLine req.name] := by
  obtain ⟨hreceipt, hopen, hclose, -⟩ := Reply.lf_not_mem_fixed hname
  rw [evaluate_reply]
  dsimp only [Reply.ack, Reply.begin, Reply.lineText, Reply.end]
  rw [Reply.readBack_of_framed (((((Reply.framed_new early).line _).line _).line _).line _)]
  simp only [List.nil_append, List.cons_append, List.flatMap_cons, List.flatMap_nil,
    List.append_nil, Text.splitBytes_of_not_mem hreceipt, Text.splitBytes_of_not_mem hopen,
    Text.splitBytes_of_not_mem hclose, Text.splitBytes_of_not_mem (Datum.lf_not_mem_jsonOrNull _)]

/-- The value of a variable reads back as one JSON line between the block's lines, and a
failure to read it as the error text cut at its line feeds. -/
theorem evaluateVariable_readBack :
    ((evaluateVariable req { early := early }).run s).1.readBack =
      Reply.receiptLine req.name :: Reply.openingLine req.name ::
        (match (DebugEngine.readVariable req.rest |>.run s).1 with
          | .ok v => [v.jsonOrNull.toUTF8]
          | .error e => Text.splitBytes 10 e) ++ [Reply.closingLine req.name] := by
  obtain ⟨hreceipt, hopen, hclose, -⟩ := Reply.lf_not_mem_fixed hname
  have h0 := Reply.framed_new early
  rw [evaluateVariable_reply]
  cases (DebugEngine.readVariable req.rest |>.run s).1 with
  | error e =>
    dsimp only [Reply.ack, Reply.begin, Reply.end]
    rw [Reply.readBack_of_framed ((((h0.line _).line _).line e).line _)]
    simp [Text.splitBytes_of_not_mem, hreceipt, hopen, hclose]
  | ok v =>
    dsimp only [Reply.ack, Reply.begin, Reply.lineText, Reply.end]
    rw [Reply.readBack_of_framed ((((h0.line _).line _).line _).line _)]
    simp only [List.nil_append, List.cons_append, List.flatMap_cons, List.flatMap_nil,
      List.append_nil, Text.splitBytes_of_not_mem hreceipt, Text.splitBytes_of_not_mem hopen,
      Text.splitBytes_of_not_mem hclose,
      Text.splitBytes_of_not_mem (Datum.lf_not_mem_jsonOrNull _)]

/-- A stepping command reads back as its receipt and the opening line, handed over before the
program runs when the connection takes early parts; a failure adds an error frame around the
engine's message cut at its line feeds. -/
theorem run_readBack (c : Command) :
    ((d.run c req { early := early }).run s).1.readBack =
      Reply.receiptLine req.name :: Reply.openingLine req.name ::
        (match (DebugEngine.run c |>.run s).1 with
          | .ok () => []
          | .error e => Reply.errorOpening :: Text.splitBytes 10 e ++ [Reply.errorClosing]) := by
  obtain ⟨hreceipt, hopen, -, -, herr, herrc⟩ := Reply.lf_not_mem_fixed hname
  have h0 := ((Reply.framed_new early).line (Reply.receiptLine req.name)).flush
  rw [run_reply]
  cases (DebugEngine.run c |>.run s).1 with
  | error e =>
    dsimp only [Reply.ack, Reply.begin, Reply.error]
    rw [Reply.readBack_of_framed ((((h0.line _).line _).line e).line _)]
    simp [Text.splitBytes_of_not_mem, hreceipt, hopen, herr, herrc]
  | ok u =>
    dsimp only [Reply.ack, Reply.begin]
    rw [Reply.readBack_of_framed (h0.line _)]
    simp [Text.splitBytes_of_not_mem, hreceipt, hopen]

/-- The variables read back one per line, as the engine gave them, exactly when no line of
them holds a line feed. -/
theorem listVariables_readBack_eq_iff {vs : List Variable}
    (hvs : (DebugEngine.localVariables.run s).1 = .ok vs) :
    ((d.listVariables req { early := early }).run s).1.readBack =
        variablesReceipt req.name :: Reply.openingLine req.name ::
          vs.map Variable.listingLine ++ [Reply.closingLine req.name] ↔
      ∀ v ∈ vs, (10 : UInt8) ∉ v.listingLine.data.toList := by
  rw [listVariables_readBack d req s early hname, hvs]
  dsimp only
  simp only [List.cons_append, List.cons.injEq, true_and, List.append_left_inj]
  rw [← List.flatMap_map, Text.flatMap_splitBytes_eq_self, List.forall_mem_map]

end ReadBack

/-- **What a client reads back.** For every engine state, and a request whose name is one
line:

* the variable listing reads back as its receipt, the opening line, the line of each
  variable cut at its line feeds, and the closing line; or, when the engine fails, as an
  error frame around the engine's message cut at its line feeds;
* so the variables read back one per line, as the engine gave them, exactly when no line of
  them holds a line feed;
* an evaluation reads back as its receipt, the opening line, exactly one body line (the
  JSON text of its first result, or of its failure's text), and the closing line;
* the value of a variable reads back as one JSON line between the block's lines, and a
  failure to read it as the error text cut at its line feeds;
* a stepping command reads back as its receipt and the opening line, and a failure of it as an
  error frame around the engine's message cut at its line feeds. -/
theorem replies_read_back_at_line_feeds (d : Dispatcher) (req : Request) (s : σ)
    (early : Bool) (hname : (10 : UInt8) ∉ req.name.data.toList) :
    ((d.listVariables req { early := early }).run s).1.readBack =
        variablesReceipt req.name :: (match (DebugEngine.localVariables.run s).1 with
          | .ok vs => Reply.openingLine req.name ::
              vs.flatMap (Text.splitBytes 10 ·.listingLine) ++ [Reply.closingLine req.name]
          | .error e => Reply.errorOpening :: Text.splitBytes 10 e ++ [Reply.errorClosing]) ∧
    (∀ vs, (DebugEngine.localVariables.run s).1 = .ok vs →
      (((d.listVariables req { early := early }).run s).1.readBack =
          variablesReceipt req.name :: Reply.openingLine req.name ::
            vs.map Variable.listingLine ++ [Reply.closingLine req.name] ↔
        ∀ v ∈ vs, (10 : UInt8) ∉ v.listingLine.data.toList)) ∧
    ((d.evaluate req { early := early }).run s).1.readBack =
        [Reply.receiptLine req.name, Reply.openingLine req.name,
          (evaluationResult (DebugEngine.executeLine req.rest |>.run s).1).jsonOrNull.toUTF8,
          Reply.closingLine req.name] ∧
    ((evaluateVariable req { early := early }).run s).1.readBack =
        Reply.receiptLine req.name :: Reply.openingLine req.name ::
          (match (DebugEngine.readVariable req.rest |>.run s).1 with
            | .ok v => [v.jsonOrNull.toUTF8]
            | .error e => Text.splitBytes 10 e) ++ [Reply.closingLine req.name] ∧
    (∀ c, ((d.run c req { early := early }).run s).1.readBack =
        Reply.receiptLine req.name :: Reply.openingLine req.name ::
          (match (DebugEngine.run c |>.run s).1 with
            | .ok () => []
            | .error e => Reply.errorOpening :: Text.splitBytes 10 e ++ [Reply.errorClosing])) :=
  ⟨listVariables_readBack d req s early hname,
    fun _ hvs ↦ listVariables_readBack_eq_iff d req s early hname hvs,
    evaluate_readBack d req s early hname, evaluateVariable_readBack req s early hname,
    run_readBack d req s early hname⟩

/-- A variable whose text holds a line feed followed by the closing line of the listing: the
listing reads back with that closing line twice, the first time as if it were the end. -/
theorem variable_text_reads_back_as_closing_line :
    (10 : UInt8) ∉ "variaveis".toUTF8.data.toList ∧
      ((({} : Dispatcher).listVariables ⟨"variaveis".toUTF8, []⟩ { early := false }).run
        ({ vars := .ok [⟨"s".toUTF8, "string", "x\n--- fim-variaveis-resposta ---".toUTF8⟩] } :
          ReplayEngine)).1.readBack =
        ["Recebido comando 'variaveis'. Enviando variáveis do escopo atual".toUTF8,
          "--- variaveis-resposta ---".toUTF8, "s :: string :: x".toUTF8,
          "--- fim-variaveis-resposta ---".toUTF8, "--- fim-variaveis-resposta ---".toUTF8] := by
  have hname : (10 : UInt8) ∉ "variaveis".toUTF8.data.toList := by decide
  refine ⟨hname, ?_⟩
  rw [(replies_read_back_at_line_feeds {} ⟨"variaveis".toUTF8, []⟩ _ false hname).1]
  decide +kernel

end Dispatcher

end LuaDebugger
