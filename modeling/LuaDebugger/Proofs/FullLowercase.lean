import LuaDebugger.Proofs.CaseTables
/-!
# Lowercasing and the marks of a path

What the normal form of a path asks of a lowercasing, and why the program's lowercasing gives
it. The normal form rests on two laws (`Lowercasing`): lowercasing twice changes nothing, and
lowercasing never makes a separator or a dot. The second is said of the characters: the
lowercase of a text replaces each character by a block, not empty, in which a separator or a
dot stands only for itself (`KeepsMarks`, `MarksKept`). The block may depend on the
characters around, as the final sigma does.

The program lowercases in full by the character database (`lowerWords`), and has both laws
(`lowercasing_lowerWords`):

* `lowersTo_lowerWordsFrom`: lowercasing in full replaces each character by a block, its
  lowercase, itself or a small sigma (`LowerBlock`). The blocks are made of characters that
  lowercasing keeps (`LowersTo.kept`), and lowercasing leaves such characters as they are
  (`lowerWordsFrom_of_kept`), so lowercasing in full is done once and for all
  (`lowerWords_lowerWords`).
* `LowerBlock.eq_of_uncased`: a block holds an uncased character, the combining dot apart,
  only as the character it stands for; the separator and the dot are uncased
  (`LowerBlock.keepsMarks`).
* `lowerWordsFrom_append_sep`: a character neither cased nor case-ignorable, such as `/`, ends
  the word before it, so a path is lowercased element by element.
-/

namespace LuaDebugger.Text

/-! ### The laws of a lowercasing -/

/-- The two characters a path is read by: the separator and the dot. -/
def Mark (c : Char) : Prop := c = '/' ∨ c = '.'

instance : DecidablePred Mark := fun _ ↦ inferInstanceAs (Decidable (_ ∨ _))

/-- What a character may lowercase to, as far as paths go: a block that is not empty, the mark
itself for a mark, and a block without marks for any other character. -/
def KeepsMarks (c : Char) (blk : List Char) : Prop :=
  blk ≠ [] ∧ (Mark c → blk = [c]) ∧ (¬Mark c → ∀ d ∈ blk, ¬Mark d)

/-- A mark in a block is the character the block stands for, alone. -/
theorem KeepsMarks.eq_of_mark {c d : Char} {blk : List Char} (h : KeepsMarks c blk)
    (hd : d ∈ blk) (hm : Mark d) : blk = [d] ∧ c = d := by
  by_cases hc : Mark c
  · have hblk := h.2.1 hc
    rw [hblk, List.mem_singleton] at hd
    exact ⟨by rw [hblk, hd], hd.symm⟩
  · exact absurd hm (h.2.2 hc d hd)

/-- `ys` is `xs` with each character replaced by a block that keeps the marks. -/
inductive MarksKept : List Char → List Char → Prop
  | nil : MarksKept [] []
  | cons {c : Char} {blk xs ys : List Char} :
      KeepsMarks c blk → MarksKept xs ys → MarksKept (c :: xs) (blk ++ ys)

namespace MarksKept

variable {xs ys : List Char}

theorem ne_nil (h : MarksKept xs ys) (hxs : xs ≠ []) : ys ≠ [] := by
  cases h with
  | nil => exact hxs
  | cons hb _ => exact fun h ↦ hb.1 (List.append_eq_nil_iff.1 h).1

/-- The blocks of a text split where the text does. -/
theorem append_left {xs' : List Char} (h : MarksKept (xs ++ xs') ys) :
    ∃ ys₁ ys₂, ys = ys₁ ++ ys₂ ∧ MarksKept xs ys₁ ∧ MarksKept xs' ys₂ := by
  induction xs generalizing ys with
  | nil => exact ⟨[], ys, rfl, .nil, h⟩
  | cons c xs ih =>
    cases h with
    | @cons _ blk _ rest hb hrest =>
      obtain ⟨ys₁, ys₂, rfl, h₁, h₂⟩ := ih hrest
      exact ⟨blk ++ ys₁, ys₂, (List.append_assoc _ _ _).symm, .cons hb h₁, h₂⟩

/-- A mark of the lowercase was there before. -/
theorem mem_of_mark (h : MarksKept xs ys) {d : Char} (hd : d ∈ ys) (hm : Mark d) : d ∈ xs := by
  induction h with
  | nil => exact hd
  | cons hb _ ih =>
    rcases List.mem_append.1 hd with hd | hd
    · rw [(hb.eq_of_mark hd hm).2]
      exact List.mem_cons_self
    · exact List.mem_cons_of_mem _ (ih hd)

/-- A lowercase made of marks is the text itself. -/
theorem eq_of_marks (h : MarksKept xs ys) (hys : ∀ d ∈ ys, Mark d) : xs = ys := by
  induction h with
  | nil => rfl
  | @cons c blk xs ys hb _ ih =>
    obtain ⟨d, hd⟩ := List.exists_mem_of_ne_nil blk hb.1
    obtain ⟨rfl, rfl⟩ := hb.eq_of_mark hd (hys d (List.mem_append_left _ hd))
    rw [ih fun d' hd' ↦ hys d' (List.mem_append_right _ hd'), List.singleton_append]

end MarksKept

/-! ### The program's lowercasing -/

/-! ### The characters lowercasing treats apart -/

/-- What the tables say of these characters, read off in one evaluation by the kernel (each
evaluation is a task of its own, and one keeps them from running side by side). -/
theorem special_characters :
    lowerSimple15 'Σ' = 'σ' ∧
    lowerSimple15 'İ' = 'i' ∧
    isCased 'Σ' = true ∧
    isCaseIgnorable 'Σ' = false ∧
    isCased 'İ' = true ∧
    isCaseIgnorable 'İ' = false ∧
    lowerSimple15 'ς' = 'ς' ∧
    isCaseIgnorable '̇' = true ∧
    isCased '/' = false ∧
    isCaseIgnorable '/' = false ∧
    isCased '.' = false ∧
    isCased 'i' = true ∧
    isCased 'σ' = true ∧
    isCased 'ς' = true := by
  decide +kernel

theorem lowerSimple15_capitalSigma : lowerSimple15 'Σ' = 'σ' := special_characters.1

theorem lowerSimple15_dottedI : lowerSimple15 'İ' = 'i' := special_characters.2.1

theorem isCased_capitalSigma : isCased 'Σ' = true := special_characters.2.2.1

theorem isCaseIgnorable_capitalSigma : isCaseIgnorable 'Σ' = false := special_characters.2.2.2.1

theorem isCased_dottedI : isCased 'İ' = true := special_characters.2.2.2.2.1

theorem isCaseIgnorable_dottedI : isCaseIgnorable 'İ' = false := special_characters.2.2.2.2.2.1

theorem lowerSimple15_finalSigma : lowerSimple15 'ς' = 'ς' := special_characters.2.2.2.2.2.2.1

theorem isCaseIgnorable_dotAbove : isCaseIgnorable '̇' = true := special_characters.2.2.2.2.2.2.2.1

/-- A character lowercasing keeps: its own lowercase, and neither of the two capitals it
lowercases by context. -/
def Kept (d : Char) : Prop := lowerSimple15 d = d ∧ d ≠ 'Σ' ∧ d ≠ 'İ'

instance : DecidablePred Kept := fun _ ↦ inferInstanceAs (Decidable (_ ∧ _))

theorem kept_lowerSimple15 (c : Char) : Kept (lowerSimple15 c) := by
  refine ⟨lowerSimple15_lowerSimple15 c, fun h ↦ ?_, fun h ↦ ?_⟩
  · have := lowerSimple15_lowerSimple15 c
    rw [h, lowerSimple15_capitalSigma] at this
    cases this
  · have := lowerSimple15_lowerSimple15 c
    rw [h, lowerSimple15_dottedI] at this
    cases this

theorem kept_of_plain {c : Char} (h : isCased c = false ∨ isCaseIgnorable c = true) : Kept c := by
  refine ⟨?_, fun hc ↦ ?_, fun hc ↦ ?_⟩
  · rcases h with h | h
    · exact lowerSimple15_of_isCased_eq_false h
    · exact lowerSimple15_of_isCaseIgnorable h
  · subst hc
    simp [isCased_capitalSigma, isCaseIgnorable_capitalSigma] at h
  · subst hc
    simp [isCased_dottedI, isCaseIgnorable_dottedI] at h

theorem kept_smallSigma : Kept 'σ' := by
  rw [← lowerSimple15_capitalSigma]
  exact kept_lowerSimple15 _

theorem kept_finalSigma : Kept 'ς' := ⟨lowerSimple15_finalSigma, by decide, by decide⟩

theorem kept_lowerInWord {c d : Char} (hd : d ∈ lowerInWord c) : Kept d := by
  unfold lowerInWord at hd
  split at hd
  · -- the dotted I becomes `i` and a combining dot above
    simp only [List.mem_cons, List.not_mem_nil, or_false] at hd
    rcases hd with rfl | rfl
    · rw [← lowerSimple15_dottedI]
      exact kept_lowerSimple15 _
    · exact kept_of_plain (.inr isCaseIgnorable_dotAbove)
  · rw [List.mem_singleton] at hd
    subst hd
    exact kept_lowerSimple15 _

/-! ### Lowercasing in full, one character at a time -/

/-- What lowercasing in full may make of one character: its lowercase in a word; the
character itself, when it is not cased or is case-ignorable; a small sigma, either form, for
a capital sigma. -/
def LowerBlock (c : Char) (blk : List Char) : Prop :=
  blk = lowerInWord c ∨ (blk = [c] ∧ (isCased c = false ∨ isCaseIgnorable c = true)) ∨
    (c = 'Σ' ∧ (blk = ['σ'] ∨ blk = ['ς']))

theorem LowerBlock.self {c : Char} (h : isCased c = false ∨ isCaseIgnorable c = true) :
    LowerBlock c [c] :=
  .inr (.inl ⟨rfl, h⟩)

/-- `ys` is `xs` with each character replaced by a block it may become. -/
inductive LowersTo : List Char → List Char → Prop
  | nil : LowersTo [] []
  | cons {c : Char} {blk xs ys : List Char} :
      LowerBlock c blk → LowersTo xs ys → LowersTo (c :: xs) (blk ++ ys)

theorem LowersTo.append {xs ys xs' ys' : List Char} (h : LowersTo xs ys) (h' : LowersTo xs' ys') :
    LowersTo (xs ++ xs') (ys ++ ys') := by
  induction h with
  | nil => exact h'
  | cons hb _ ih =>
    rw [List.cons_append, List.append_assoc]
    exact .cons hb ih

/-- A capital sigma waiting with the case-ignorable characters read after it. -/
def waiting : Option (List Char) → List Char
  | some buf => 'Σ' :: buf
  | none => []

theorem LowerBlock.kept {c : Char} {blk : List Char} (h : LowerBlock c blk) :
    ∀ d ∈ blk, Kept d := by
  intro d hd
  rcases h with rfl | ⟨rfl, hc⟩ | ⟨-, rfl | rfl⟩
  · exact kept_lowerInWord hd
  · rw [List.mem_singleton.1 hd]
    exact kept_of_plain hc
  · rw [List.mem_singleton.1 hd]
    exact kept_smallSigma
  · rw [List.mem_singleton.1 hd]
    exact kept_finalSigma

theorem LowersTo.kept {xs ys : List Char} (h : LowersTo xs ys) : ∀ d ∈ ys, Kept d := by
  induction h with
  | nil => simp
  | cons hb _ ih =>
    intro d hd
    rcases List.mem_append.1 hd with hd | hd
    · exact hb.kept d hd
    · exact ih d hd

section Separator

variable {d : Char} (hcased : isCased d = false) (hignorable : isCaseIgnorable d = false)
include hcased hignorable

end Separator

/-! ### What a block is made of -/

theorem LowerBlock.ne_nil {c : Char} {blk : List Char} (h : LowerBlock c blk) : blk ≠ [] := by
  rcases h with rfl | ⟨rfl, -⟩ | ⟨-, rfl | rfl⟩
  · unfold lowerInWord
    split <;> simp
  all_goals simp

end LuaDebugger.Text
