import LuaDebugger.Lua.Lexer
import Mathlib.Tactic.SplitIfs
/-!
# Tokens start on lines from one

The scanner counts lines from one: it starts at line one, a line break moves it one line on,
and only the end of the input takes its position away. So every token of a chunk but its end
starts on a line from one (`tokenize_lined`), which is what keeps the functions of a
parsed chunk apart from the main chunk, whose key is line zero.

`Cursor.Lined` says the cursor's position, when it has one, is on such a line. Reading a byte
keeps it so and puts the byte on such a line (`next_lined`); every scanning loop only reads,
so each keeps it too, and `scan` gives each token the line of its first byte (`scan_lined`).
-/

namespace LuaDebugger.Lua

namespace Cursor

/-- Every position the cursor holds is on a line from one. -/
def Lined (c : Cursor) : Prop := ∀ p, c.pos = some p → 1 ≤ p.line

theorem lined_start (bs : List UInt8) : (start bs).Lined := by
  intro p hp
  cases hp
  exact Nat.le_refl 1

/-- Reading keeps the cursor on a line from one, and a byte read stands on such a line. -/
theorem next_lined {c : Cursor} (h : c.Lined) :
    c.next.2.Lined ∧ (c.next.1.isSome → 1 ≤ c.next.2.line) := by
  have hp : 1 ≤ (c.pos.getD ⟨1, 0⟩).line := by
    cases hc : c.pos with
    | none => exact Nat.le_refl 1
    | some p => exact h p hc
  unfold next
  split
  · refine ⟨fun p hp ↦ ?_, fun h ↦ ?_⟩
    · cases hp
    · simp at h
  · split
    · refine ⟨fun p hp ↦ ?_, fun _ ↦ ?_⟩
      · cases hp
        exact Nat.le_add_left 1 _
      · exact Nat.le_add_left 1 _
    · refine ⟨fun p hp ↦ ?_, fun _ ↦ hp⟩
      cases hp
      exact hp

end Cursor

open Cursor

variable {c : Cursor}

/-- A read, taken apart: the byte and a cursor still on a line from one. -/
theorem next_eq_lined (h : c.Lined) : ∃ ch c', c.next = (ch, c') ∧ c'.Lined :=
  ⟨_, _, rfl, (next_lined h).1⟩

theorem next_snd_lined (h : c.Lined) : c.next.2.Lined := (next_lined h).1

/-- The cursor of a successful read is the one the read ends at. -/
theorem lined_of_ok {ε α : Type} {r : α × Cursor} {a : α} {c' : Cursor}
    (hr : (Except.ok r : Except ε (α × Cursor)) = .ok (a, c')) (h : r.2.Lined) : c'.Lined := by
  rw [Except.ok.inj hr] at h
  exact h

theorem readWhile_lined (p : UInt8 → Bool) (fuel : Nat) (acc : List UInt8) (h : c.Lined) :
    (readWhile p fuel c acc).2.Lined := by
  induction fuel generalizing c acc with
  | zero => exact h
  | succ fuel ih =>
    unfold readWhile
    split
    · split
      · exact ih _ (next_snd_lined h)
      · exact h
    · exact h

theorem skipBlanks_lined (blank : UInt8 → Bool) (fuel : Nat) (h : c.Lined) :
    (skipBlanks blank fuel c).2.Lined ∧
      ((skipBlanks blank fuel c).1.isSome → 1 ≤ (skipBlanks blank fuel c).2.line) := by
  induction fuel generalizing c with
  | zero => exact next_lined h
  | succ fuel ih =>
    unfold skipBlanks
    have hn := next_lined h
    split
    · rename_i b c' hbc
      rw [hbc] at hn
      split
      · exact ih hn.1
      · exact hn
    · rename_i c' hbc
      rw [hbc] at hn
      exact hn

theorem decimalRun_lined {fuel : Nat} {first : UInt8} {acc : List UInt8} (h : c.Lined) :
    (decimalRun fuel c first acc).2.Lined :=
  readWhile_lined _ _ _ h

theorem countLevel_lined (fuel : Nat) (b : Option UInt8) (n : Nat) (h : c.Lined) :
    (countLevel fuel c b n).2.2.Lined := by
  induction fuel generalizing c b n with
  | zero => exact h
  | succ fuel ih =>
    unfold countLevel
    split
    · exact ih _ _ (next_snd_lined h)
    · exact h

theorem longBody_lined {level fuel : Nat} {first : Option UInt8} {acc acc' : List UInt8}
    {c' : Cursor} (h : c.Lined) (hr : longBody level fuel c first acc = .ok (acc', c')) :
    c'.Lined := by
  induction fuel generalizing c first acc with
  | zero => cases hr
  | succ fuel ih =>
    unfold longBody at hr
    split at hr
    · cases hr
    · -- a closing bracket, then the level of the bracket it closes
      obtain ⟨b, c1, hn, h1⟩ := next_eq_lined h
      have h2 := countLevel_lined fuel b 0 h1
      rcases hl : countLevel fuel c1 b 0 with ⟨n, b', c2⟩
      rw [hl] at h2
      rw [hn] at hr
      dsimp only at hr
      rw [hl] at hr
      dsimp only at hr
      split at hr
      · cases hr
        exact h2
      · exact ih h2 hr
    · exact ih (next_snd_lined h) hr

theorem quoted_lined {q : UInt8} {fuel : Nat} {acc acc' : List UInt8} {c' : Cursor}
    (h : c.Lined) (hr : quoted q fuel c acc = .ok (acc', c')) : c'.Lined := by
  induction fuel generalizing c acc with
  | zero => cases hr
  | succ fuel ih =>
    unfold quoted at hr
    obtain ⟨ch, c1, hn, h1⟩ := next_eq_lined h
    rw [hn] at hr
    dsimp only at hr
    rcases ch with - | b
    · cases hr
    · dsimp only at hr
      by_cases hq : b = q
      · rw [if_pos hq] at hr
        cases hr
        exact h1
      rw [if_neg hq] at hr
      by_cases hlf : b = 10
      · rw [if_pos hlf] at hr
        cases hr
      rw [if_neg hlf] at hr
      by_cases hbs : b = 92
      · -- an escape: the byte after the backslash, then maybe more digits
        rw [if_pos hbs] at hr
        obtain ⟨e, c2, hn2, h2⟩ := next_eq_lined h1
        rw [hn2] at hr
        dsimp only at hr
        rcases e with - | e
        · exact ih h2 hr
        · dsimp only at hr
          split at hr
          · exact ih h2 hr
          · split at hr
            · exact ih (readWhile_lined _ _ _ h2) hr
            · exact ih h2 hr
      · rw [if_neg hbs] at hr
        exact ih h1 hr

theorem longBracket_lined {fuel : Nat} {first : Option UInt8} {acc : List UInt8} {c' : Cursor}
    (h : c.Lined) (hr : longBracket fuel c first = .ok (acc, c')) : c'.Lined := by
  unfold longBracket at hr
  have h1 := countLevel_lined fuel first 0 h
  rcases hl : countLevel fuel c first 0 with ⟨level, b, c1⟩
  rw [hl] at hr h1
  dsimp only at hr h1
  split at hr
  · cases hr
  obtain ⟨b1, c2, hn, h2⟩ := next_eq_lined h1
  rw [hn] at hr
  dsimp only at hr
  -- a line break right after the opening is read and dropped
  have h3 : (if b1 = some 10 then c2.next else (b1, c2)).2.Lined := by
    split
    · exact next_snd_lined h2
    · exact h2
  rcases hb : (if b1 = some 10 then c2.next else (b1, c2)) with ⟨b2, c3⟩
  rw [hb] at hr h3
  dsimp only at hr h3
  split at hr
  · rename_i acc' c4 hbody
    cases hr
    exact longBody_lined h3 hbody
  · cases hr

theorem number_lined {fuel : Nat} {first : UInt8} {acc : List UInt8} {c' : Cursor}
    (h : c.Lined) (hr : number fuel c first = .ok (acc, c')) : c'.Lined := by
  unfold number at hr
  dsimp only at hr
  split at hr
  · -- a hexadecimal numeral
    obtain ⟨x, c1, hn, h1⟩ := next_eq_lined h
    rw [hn] at hr
    dsimp only at hr
    have h2 := readWhile_lined isHexByte fuel [x.getD (byteOf 'x'), first] h1
    rcases hw : readWhile isHexByte fuel c1 [x.getD (byteOf 'x'), first] with ⟨acc', c2⟩
    rw [hw] at hr h2
    dsimp only at hr
    split at hr
    · cases hr
    · cases hr
      exact h2
  · -- a decimal numeral: every cursor is read forward from c, through a dropped leading zero,
    -- the digits, a fraction and an exponent
    repeat' split at hr
    all_goals
      refine lined_of_ok hr ?_
      dsimp only
      apply_rules only [h, next_snd_lined, decimalRun_lined, readWhile_lined]

theorem comment_lined {fuel : Nat} {ch : Option UInt8} {c' : Cursor} (h : c.Lined)
    (hr : comment fuel c ch = .ok c') : c'.Lined := by
  unfold comment at hr
  dsimp only at hr
  repeat' split at hr
  -- a failed long bracket fails the comment; every other branch ends on a cursor read forward
  all_goals cases hr
  all_goals
    dsimp only at *
    solve_by_elim [next_snd_lined, readWhile_lined, longBracket_lined]

/-- A scan that, when it succeeds, leaves the cursor on a line from one and gives a token that
starts on such a line unless it ends the input. -/
def ScanLined (r : Except SyntaxFault (Token × Cursor)) : Prop :=
  ∀ t c', r = .ok (t, c') → c'.Lined ∧ (t.kind ≠ .eof → 1 ≤ t.line)

namespace ScanLined

theorem ite {P : Prop} [Decidable P] {a b : Except SyntaxFault (Token × Cursor)}
    (ha : ScanLined a) (hb : ScanLined b) : ScanLined (if P then a else b) := by
  split
  · exact ha
  · exact hb

theorem error (e : SyntaxFault) : ScanLined (.error e) := by
  intro t c' hr
  cases hr

theorem token {k : TokenKind} {acc : List UInt8} {l : Nat} (hc : c.Lined) (hl : 1 ≤ l) :
    ScanLined (.ok (tokenOf k acc l c, c)) := by
  intro t c' hr
  cases hr
  exact ⟨hc, fun _ ↦ hl⟩

/-- A token read by a helper that succeeds on a cursor on a line from one. -/
theorem read {r : Except SyntaxFault (List UInt8 × Cursor)} {k : TokenKind} {l : Nat}
    (hl : 1 ≤ l) : (∀ acc c, r = .ok (acc, c) → c.Lined) →
    ScanLined (match r with
      | .ok (acc, c) => .ok (tokenOf k acc l c, c)
      | .error e => .error e) := by
  intro hr
  split
  · exact token (hr _ _ rfl) hl
  · exact error _

/-- A scan that goes on after a helper that succeeds on a cursor on a line from one. -/
theorem after {r : Except SyntaxFault Cursor} {f : Cursor → Except SyntaxFault (Token × Cursor)} :
    (∀ c, r = .ok c → ScanLined (f c)) →
    ScanLined (match r with
      | .ok c => f c
      | .error e => .error e) := by
  intro hr
  split
  · exact hr _ rfl
  · exact error _

end ScanLined

theorem scan_lined (fuel : Nat) (h : c.Lined) : ScanLined (scan fuel c) := by
  induction fuel generalizing c with
  | zero =>
    intro t c' hr
    cases hr
    exact ⟨h, fun hk ↦ absurd rfl hk⟩
  | succ fuel ih =>
    unfold scan
    dsimp only
    -- the blanks before the token, line breaks included after a first one
    generalize hZ : (if (skipBlanks isSpaceOrTab fuel c).1 = some 10 then
        skipBlanks isBlankOrBreak fuel (skipBlanks isSpaceOrTab fuel c).2
      else ((skipBlanks isSpaceOrTab fuel c).1, (skipBlanks isSpaceOrTab fuel c).2)) = Z
    have hz : Z.2.Lined ∧ (Z.1.isSome → 1 ≤ Z.2.line) := by
      rw [← hZ]
      split
      · exact skipBlanks_lined _ _ (skipBlanks_lined _ _ h).1
      · exact skipBlanks_lined _ _ h
    obtain ⟨ch, cz⟩ := Z
    rcases ch with - | b
    · intro t c' hr
      cases hr
      exact ⟨hz.1, fun hk ↦ absurd rfl hk⟩
    · -- the token starts on the line of its first byte, and the scanner reads on from there;
      -- after a comment it scans again
      have hline : 1 ≤ cz.line := hz.2 rfl
      have hcz : cz.Lined := hz.1
      dsimp only
      refine ScanLined.ite (ScanLined.token (readWhile_lined _ _ _ hcz) hline) ?_
      have hnext := next_snd_lined hcz
      refine ScanLined.ite (ScanLined.read hline fun _ _ ↦ number_lined hcz) ?_
      -- a minus sign, or a comment after which the scan starts again
      refine ScanLined.ite (ScanLined.ite ?_ (ScanLined.token hcz hline)) ?_
      · exact ScanLined.after fun _ hc ↦ ih (comment_lined (next_snd_lined hnext) hc)
      refine ScanLined.ite (ScanLined.read hline fun _ _ ↦ quoted_lined hcz) ?_
      refine ScanLined.ite (ScanLined.ite (ScanLined.read hline fun _ _ ↦ longBracket_lined hnext)
        (ScanLined.token hcz hline)) ?_
      refine ScanLined.ite (ScanLined.ite (ScanLined.token hnext hline)
        (ScanLined.token hcz hline)) ?_
      refine ScanLined.ite (ScanLined.ite (ScanLined.token hnext hline) (ScanLined.error _)) ?_
      refine ScanLined.ite (ScanLined.ite (ScanLined.token hnext hline)
        (ScanLined.token hcz hline)) ?_
      refine ScanLined.ite (ScanLined.ite (ScanLined.token hnext hline)
        (ScanLined.token hcz hline)) ?_
      -- a number after a dot, a dot, `..` or `...`
      refine ScanLined.ite (ScanLined.ite (ScanLined.read hline fun _ _ ↦ number_lined hcz)
        (ScanLined.ite (ScanLined.ite (ScanLined.token (next_snd_lined hnext) hline)
          (ScanLined.token hnext hline)) (ScanLined.token hcz hline))) ?_
      refine ScanLined.ite (ScanLined.ite (ScanLined.token hnext hline)
        (ScanLined.token hcz hline)) ?_
      split
      · exact ScanLined.token hcz hline
      · exact ScanLined.error _

/-- A token that starts on a line from one unless it ends the input; a fault says nothing. -/
def Lexeme.Lined : Lexeme → Prop
  | .token t => t.kind ≠ .eof → 1 ≤ t.line
  | .fault _ => True

theorem tokenize_go_lined (fuel n : Nat) (acc : Array Lexeme) (hc : c.Lined)
    (hacc : ∀ l ∈ acc, l.Lined) : ∀ l ∈ tokenize.go fuel n c acc, l.Lined := by
  induction n generalizing c acc with
  | zero =>
    intro l hl
    rcases Array.mem_push.1 hl with hl | rfl
    · exact hacc l hl
    · exact fun hk ↦ absurd rfl hk
  | succ n ih =>
    unfold tokenize.go
    split
    · intro l hl
      rcases Array.mem_push.1 hl with hl | rfl
      · exact hacc l hl
      · trivial
    · rename_i t c' hs
      obtain ⟨hc', ht⟩ := scan_lined fuel hc t c' hs
      have hacc' : ∀ l ∈ acc.push (.token t), l.Lined := by
        intro l hl
        rcases Array.mem_push.1 hl with hl | rfl
        · exact hacc l hl
        · exact ht
      split
      · exact hacc'
      · exact ih (acc.push (.token t)) hc' hacc'

/-- Every token of the stream but its end starts on a line from one. -/
def TokensLined (ts : Array Lexeme) : Prop := ∀ l ∈ ts, l.Lined

/-- **Every token of a chunk but its end starts on a line from one.** -/
theorem tokenize_lined (src : ByteArray) : TokensLined (tokenize src) :=
  tokenize_go_lined _ _ #[] (lined_start _) fun _ h ↦ absurd h (Array.not_mem_empty _)

end LuaDebugger.Lua
