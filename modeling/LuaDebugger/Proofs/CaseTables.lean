import Mathlib.Data.List.Chain
import LuaDebugger.Text.Case
/-!
# What the case tables guarantee

Lowercasing a path leaves its separators and dots alone and is done once and for all only if
the tables behind it say so: simple lowercasing may change only cased letters that are not
case-ignorable, and must turn them into cased, not case-ignorable letters that it keeps. The
tables are data, so this is checked against the data, by walks over the tables that the
kernel evaluates, and carried over to the searches the program does.

* `inRanges_eq_true_of_holds` and `exists_of_inRanges`: the bisection over ranges in rising
  order finds a range that holds a point, and finds one only where there is one.
* `applyRuns_eq_of_ne` and `applyRuns_of_not_covers`: a run table moves a point only where
  one of its runs covers it, and then by that run's shift.
* `holdsAll` and `missesAll` walk a list of points up the ranges; `true` says that every point
  lies in a range (`holdsAll_sound`), or that none does (`missesAll_sound`).
* `lowerSimple15_changes_cased` is the fact about the tables; `isCased_lowerSimple15`,
  `isCaseIgnorable_lowerSimple15` and `lowerSimple15_lowerSimple15` are its consequences for
  every character.
-/

namespace LuaDebugger.Text

/-! ### Bisection over ranges in rising order -/

/-- The range `r` is nonempty and lies wholly below the nonempty range `s`. -/
def RangeBefore (r s : Nat × Nat) : Prop := r.1 ≤ r.2 ∧ r.2 < s.1 ∧ s.1 ≤ s.2

instance : DecidableRel RangeBefore := fun _ _ ↦ inferInstanceAs (Decidable (_ ∧ _ ∧ _))

instance : Trans RangeBefore RangeBefore RangeBefore where
  trans h₁ h₂ := ⟨h₁.1, by have := h₁.2.1; have := h₂.1; have := h₂.2.1; omega, h₂.2.2⟩

/-- The bisection finds a range that holds `c`, at position `i`, while `i` lies in the window
it searches. -/
theorem inRanges_go_of_holds {rs : Array (Nat × Nat)} (hs : rs.toList.IsChain RangeBefore)
    {c i : Nat} (hi : i < rs.size) (ha : rs[i].1 ≤ c) (hb : c ≤ rs[i].2) (lo hi' : Nat) :
    hi' ≤ rs.size → lo ≤ i → i < hi' → inRanges.go rs c lo hi' = true := by
  have hpw := List.pairwise_iff_getElem.1 (List.isChain_iff_pairwise.1 hs)
  -- the ranges at other positions lie below or above the one at `i`
  have hbefore : ∀ j (hj : j < rs.size), j < i → rs[j].2 < c ∧ rs[j].1 ≤ rs[j].2 :=
    fun j hj hji ↦ by
      have := hpw j i (by simpa using hj) (by simpa using hi) hji
      simp only [Array.getElem_toList, RangeBefore] at this
      omega
  have hafter : ∀ j (hj : j < rs.size), i < j → c < rs[j].1 :=
    fun j hj hij ↦ by
      have := hpw i j (by simpa using hi) (by simpa using hj) hij
      simp only [Array.getElem_toList, RangeBefore] at this
      omega
  fun_induction inRanges.go rs c lo hi' with
  | case1 lo hi' hlt mid hnone =>
    intro hsize _ _
    rw [Array.getElem?_eq_getElem (by omega)] at hnone
    cases hnone
  | case2 lo hi' hlt mid a b hmid hca ih =>
    intro hsize hlo hhi
    obtain ⟨hm, hab⟩ := Array.getElem?_eq_some_iff.1 hmid
    -- `c` lies below the middle range, so `i` lies left of the middle
    refine ih (by omega) hlo ?_
    rcases Nat.lt_trichotomy i mid with h | h | h
    · exact h
    · subst h
      rw [hab] at ha
      exact absurd ha (by simp; omega)
    · have := hbefore mid hm h
      rw [hab] at this
      simp at this
      omega
  | case3 lo hi' hlt mid a b hmid hca hbc ih =>
    intro hsize hlo hhi
    obtain ⟨hm, hab⟩ := Array.getElem?_eq_some_iff.1 hmid
    refine ih hsize ?_ hhi
    rcases Nat.lt_trichotomy i mid with h | h | h
    · have := hafter mid hm h
      rw [hab] at this
      simp at this
      omega
    · subst h
      rw [hab] at hb
      exact absurd hb (by simp; omega)
    · omega
  | case4 => intros; rfl
  | case5 lo hi' hge =>
    intro _ hlo hhi
    omega

/-- **The bisection finds a range that holds `c`.** -/
theorem inRanges_eq_true_of_holds {rs : Array (Nat × Nat)} (hs : rs.toList.IsChain RangeBefore)
    {c : Nat} {r : Nat × Nat} (hr : r ∈ rs.toList) (ha : r.1 ≤ c) (hb : c ≤ r.2) :
    inRanges rs c = true := by
  obtain ⟨i, hi, rfl⟩ := List.getElem_of_mem hr
  rw [Array.length_toList] at hi
  exact inRanges_go_of_holds hs hi (by simpa using ha) (by simpa using hb) 0 rs.size (Nat.le_refl _)
    (Nat.zero_le i) hi

/-- The bisection finds a range only where one holds `c`. -/
theorem exists_of_inRanges {rs : Array (Nat × Nat)} {c : Nat} (h : inRanges rs c = true) :
    ∃ r ∈ rs.toList, r.1 ≤ c ∧ c ≤ r.2 := by
  unfold inRanges at h
  revert h
  fun_induction inRanges.go rs c 0 rs.size with
  | case1 => intro h; cases h
  | case2 _ _ _ _ _ _ _ _ ih => exact ih
  | case3 _ _ _ _ _ _ _ _ _ ih => exact ih
  | case4 lo hi' hlt mid a b hmid hca hbc =>
    intro _
    obtain ⟨hm, hab⟩ := Array.getElem?_eq_some_iff.1 hmid
    exact ⟨(a, b), hab ▸ Array.getElem_mem_toList hm, by omega, by omega⟩
  | case5 => intro h; cases h

/-! ### Run tables -/

/-- Whether the run `r = (first, count, shift, stride)` covers `c`: `c` is one of `first`,
`first + stride`, … below `first + count * stride`. -/
def covers (r : Nat × Nat × Int × Nat) (c : Nat) : Bool :=
  decide (r.1 ≤ c ∧ c < r.1 + r.2.1 * r.2.2.2 ∧ (c - r.1) % r.2.2.2 = 0)

/-- The last point a run covers. -/
def runLast (r : Nat × Nat × Int × Nat) : Nat := r.1 + (r.2.1 - 1) * r.2.2.2

theorem lastAtMost_go_mem {α : Type} {xs : Array α} {key : α → Nat} {c : Nat} (lo hi : Nat)
    (best : Option α) (hbest : ∀ x, best = some x → x ∈ xs.toList ∧ key x ≤ c) :
    ∀ x, lastAtMost.go xs key c lo hi best = some x → x ∈ xs.toList ∧ key x ≤ c := by
  fun_induction lastAtMost.go xs key c lo hi best with
  | case1 => exact hbest
  | case2 _ _ _ _ _ _ _ _ ih => exact ih hbest
  | case3 lo hi best hlt mid x hmid hkey ih =>
    refine ih fun y hy ↦ ?_
    cases hy
    obtain ⟨hm, hx⟩ := Array.getElem?_eq_some_iff.1 hmid
    exact ⟨hx ▸ Array.getElem_mem_toList hm, by omega⟩
  | case4 => exact hbest

/-- The entry `lastAtMost` finds is an entry, with a key at most `c`. -/
theorem lastAtMost_mem {α : Type} {xs : Array α} {key : α → Nat} {c : Nat} {x : α}
    (h : lastAtMost xs key c = some x) : x ∈ xs.toList ∧ key x ≤ c :=
  lastAtMost_go_mem 0 xs.size none (fun _ h ↦ by cases h) x h

/-- A run table moves a point only where one of its runs covers it, by that run's shift. -/
theorem applyRuns_eq_of_ne {runs : Array (Nat × Nat × Int × Nat)} {c : Nat}
    (h : applyRuns runs c ≠ c) :
    ∃ r ∈ runs.toList, covers r c = true ∧ applyRuns runs c = (Int.ofNat c + r.2.2.1).toNat := by
  unfold applyRuns at h ⊢
  rcases hl : lastAtMost runs (fun r ↦ r.1) c with _ | ⟨first, count, shift, stride⟩
  · simp only [hl] at h
    exact absurd rfl h
  · obtain ⟨hmem, hkey⟩ := lastAtMost_mem hl
    simp only [hl] at h hkey ⊢
    split at h
    · next hc =>
      rw [if_pos hc]
      exact ⟨_, hmem, by simp [covers, hkey, hc], rfl⟩
    · exact absurd rfl h

/-- A point no run covers stays where it is. -/
theorem applyRuns_of_not_covers {runs : Array (Nat × Nat × Int × Nat)} {c : Nat}
    (h : ∀ r ∈ runs.toList, covers r c = false) : applyRuns runs c = c := by
  refine Decidable.byContradiction fun hne ↦ ?_
  obtain ⟨r, hr, hcov, -⟩ := applyRuns_eq_of_ne hne
  rw [h r hr] at hcov
  cases hcov

/-- The points a run covers, in rising order. -/
def runPoints (r : Nat × Nat × Int × Nat) : List Nat :=
  (List.range r.2.1).map fun k ↦ r.1 + k * r.2.2.2

/-- Where a run sends its points. -/
def runImages (r : Nat × Nat × Int × Nat) : List Nat :=
  (runPoints r).map fun p ↦ (Int.ofNat p + r.2.2.1).toNat

theorem mem_runPoints_of_covers {r : Nat × Nat × Int × Nat} {c : Nat} (h : covers r c = true) :
    c ∈ runPoints r := by
  obtain ⟨first, count, shift, stride⟩ := r
  simp only [covers, decide_eq_true_eq] at h
  obtain ⟨h1, h2, h3⟩ := h
  have hstride : 0 < stride := by
    rcases Nat.eq_zero_or_pos stride with h0 | h0
    · subst h0
      omega
    · exact h0
  have hdvd : stride ∣ c - first := Nat.dvd_of_mod_eq_zero h3
  simp only [runPoints, List.mem_map, List.mem_range]
  refine ⟨(c - first) / stride, ?_, ?_⟩
  · rw [Nat.div_lt_iff_lt_mul hstride]
    omega
  · rw [Nat.div_mul_cancel hdvd]
    omega

/-- A point a run covers lies between its first and last points. -/
theorem covers_span {r : Nat × Nat × Int × Nat} {c : Nat} (h : covers r c = true) :
    r.1 ≤ c ∧ c ≤ runLast r := by
  have hmem := mem_runPoints_of_covers h
  obtain ⟨first, count, shift, stride⟩ := r
  simp only [runPoints, List.mem_map, List.mem_range] at hmem
  obtain ⟨k, hk, rfl⟩ := hmem
  refine ⟨Nat.le_add_right _ _, ?_⟩
  simp only [runLast]
  exact Nat.add_le_add_left (Nat.mul_le_mul_right _ (by omega)) _

/-! ### Walks over the tables -/

/-- The first range of `rs` that reaches up to `c`, with those after it, when it holds `c`. -/
def rangeFrom (rs : List (Nat × Nat)) (c : Nat) : Option (List (Nat × Nat)) :=
  match rs.dropWhile (·.2 < c) with
  | r :: rest => if r.1 ≤ c then some (r :: rest) else none
  | [] => none

/-- Whether every point of `ps` lies in a range of `all`. The walk goes up the ranges `rs`
left from the point before, and goes back to the first range for a point it has passed. -/
def holdsAll (all : List (Nat × Nat)) : List (Nat × Nat) → List Nat → Bool
  | _, [] => true
  | rs, c :: cs =>
    match rangeFrom rs c with
    | some rs' => holdsAll all rs' cs
    | none =>
      match rangeFrom all c with
      | some rs' => holdsAll all rs' cs
      | none => false

theorem rangeFrom_spec {rs rs' : List (Nat × Nat)} {c : Nat} (h : rangeFrom rs c = some rs') :
    rs' <:+ rs ∧ ∃ r ∈ rs', r.1 ≤ c ∧ c ≤ r.2 := by
  unfold rangeFrom at h
  split at h
  · next r rest hdrop =>
    split at h
    · next hr =>
      cases h
      have hne : rs.dropWhile (fun r : Nat × Nat ↦ r.2 < c) ≠ [] := by simp [hdrop]
      have hhead := List.head_dropWhile_not (fun r : Nat × Nat ↦ r.2 < c) hne
      simp only [hdrop, List.head_cons, decide_eq_false_iff_not, Nat.not_lt] at hhead
      exact ⟨hdrop ▸ List.dropWhile_suffix _, r, List.mem_cons_self, hr, hhead⟩
    · cases h
  · cases h

/-- **What `holdsAll` checks.** -/
theorem holdsAll_sound {all : List (Nat × Nat)} :
    ∀ {rs : List (Nat × Nat)} {ps : List Nat}, rs <:+ all → holdsAll all rs ps = true →
      ∀ c ∈ ps, ∃ r ∈ all, r.1 ≤ c ∧ c ≤ r.2 := by
  intro rs ps
  induction ps generalizing rs with
  | nil => simp
  | cons c cs ih =>
    intro hsuf h x hx
    -- the walk found `c` from where it was, or from the first range
    have step : ∀ {base rs'}, base <:+ all → rangeFrom base c = some rs' →
        holdsAll all rs' cs = true → ∃ r ∈ all, r.1 ≤ x ∧ x ≤ r.2 := by
      intro base rs' hbase hfrom hrest
      obtain ⟨hsuf', r, hr, hrc⟩ := rangeFrom_spec hfrom
      rcases List.mem_cons.1 hx with rfl | hx
      · exact ⟨r, (hsuf'.trans hbase).subset hr, hrc⟩
      · exact ih (hsuf'.trans hbase) hrest x hx
    simp only [holdsAll] at h
    split at h
    · next rs' hfrom => exact step hsuf hfrom h
    · split at h
      · next rs' hfrom => exact step (List.suffix_refl all) hfrom h
      · cases h

/-- Whether no block of `all` holds a point of `ps` within its span `[lo b, hi b]`, the
blocks lying in rising order of their spans. The walk goes up the blocks `bs` left from the
point `prev` before, and goes back to the first block for a point below `prev`. -/
def missesAll {β : Type} (lo hi : β → Nat) (holds : β → Nat → Bool) (all : List β) :
    List β → Nat → List Nat → Bool
  | _, _, [] => true
  | bs, prev, c :: cs =>
    let bs := if c < prev then all else bs
    match bs.dropWhile (hi · < c) with
    | [] => missesAll lo hi holds all [] c cs
    | b :: rest => !(decide (lo b ≤ c) && holds b c) && missesAll lo hi holds all (b :: rest) c cs

section Missing

variable {β : Type} {lo hi : β → Nat} {holds : β → Nat → Bool} {all : List β}

/-- **What `missesAll` checks**, when the spans of the blocks rise. The walk keeps the blocks
it has left behind below the point before. -/
theorem missesAll_sound (hrise : (all.map fun b ↦ (lo b, hi b)).IsChain RangeBefore) :
    ∀ {bs : List β} {prev : Nat} {ps : List Nat},
      (∃ pre, all = pre ++ bs ∧ ∀ b ∈ pre, hi b < prev) →
      missesAll lo hi holds all bs prev ps = true →
      ∀ c ∈ ps, ∀ b ∈ all, lo b ≤ c → c ≤ hi b → holds b c = false := by
  have hpw : all.Pairwise fun b b' ↦ hi b < lo b' := by
    have := List.isChain_iff_pairwise.1 hrise
    rw [List.pairwise_map] at this
    exact this.imp fun h ↦ h.2.1
  intro bs prev ps
  induction ps generalizing bs prev with
  | nil => simp
  | cons c cs ih =>
    rintro hinv h x hx b hb hlo hhi
    simp only [missesAll] at h
    -- the blocks the walk starts from for `c`: all of them when `c` lies below `prev`
    obtain ⟨pre, hpre, hbelow⟩ : ∃ pre, all = pre ++ (if c < prev then all else bs) ∧
        ∀ b ∈ pre, hi b < c := by
      split
      · exact ⟨[], rfl, by simp⟩
      · next hc =>
        obtain ⟨pre, hpre, hb⟩ := hinv
        exact ⟨pre, hpre, fun b hb' ↦ by have := hb b hb'; omega⟩
    generalize hstart : (if c < prev then all else bs) = start at hpre h
    -- the blocks the walk passes over end below `c`
    have htake : ∀ b ∈ start.takeWhile (hi · < c), hi b < c := by
      intro b hb'
      have := List.all_eq_true.1 (List.all_takeWhile (l := start) (p := (hi · < c))) b hb'
      simpa using this
    have hall : all = (pre ++ start.takeWhile (hi · < c)) ++ start.dropWhile (hi · < c) := by
      rw [List.append_assoc, List.takeWhile_append_dropWhile, hpre]
    have hleft : ∀ b ∈ pre ++ start.takeWhile (hi · < c), hi b < c := by
      intro b hb'
      rcases List.mem_append.1 hb' with hb' | hb'
      · exact hbelow b hb'
      · exact htake b hb'
    split at h
    · next hdrop =>
      rw [hdrop] at hall
      have hrest : ∀ y ∈ cs, ∀ b ∈ all, lo b ≤ y → y ≤ hi b → holds b y = false :=
        ih ⟨pre ++ start.takeWhile (hi · < c), hall, hleft⟩ h
      rcases List.mem_cons.1 hx with rfl | hx
      · rw [hall, List.append_nil] at hb
        have := hleft b hb
        omega
      · exact hrest x hx b hb hlo hhi
    · next b₀ rest hdrop =>
      rw [Bool.and_eq_true] at h
      obtain ⟨hb₀, h⟩ := h
      rw [hdrop] at hall
      have hrest := ih ⟨pre ++ start.takeWhile (hi · < c), hall, hleft⟩ h
      rcases List.mem_cons.1 hx with rfl | hx
      · -- `b` was passed over, is the block the walk stopped at, or lies above it
        have hne : start.dropWhile (hi · < x) ≠ [] := by simp [hdrop]
        have hhead := List.head_dropWhile_not (hi · < x) hne
        simp only [hdrop, List.head_cons, decide_eq_false_iff_not, Nat.not_lt] at hhead
        rw [hall] at hb hpw
        rcases List.mem_append.1 hb with hb | hb
        · have := hleft b hb
          omega
        · rcases List.mem_cons.1 hb with rfl | hb
          · simpa [hlo] using hb₀
          · have hlt : hi b₀ < lo b := by
              rw [List.pairwise_append] at hpw
              exact (List.pairwise_cons.1 hpw.2.1).1 b hb
            omega
      · exact hrest x hx b hb hlo hhi

end Missing

/-! ### The tables -/

/-- The points the simple lowercase moves, run by run. -/
def lowerPoints : List Nat := lowerRuns.toList.flatMap runPoints

/-- Where the simple lowercase moves them. -/
def lowerImages : List Nat := lowerRuns.toList.flatMap runImages

section Tables

set_option maxRecDepth 100000

/-- The facts about the tables, checked by the kernel in one evaluation: each such evaluation
runs as a task of its own, and one keeps them from running side by side. -/
theorem tables_checked :
    casedRanges.toList.IsChain RangeBefore ∧
    caseIgnorableRanges.toList.IsChain RangeBefore ∧
    (lowerRuns.toList.map fun r ↦ (r.1, runLast r)).IsChain RangeBefore ∧
    holdsAll casedRanges.toList casedRanges.toList lowerPoints = true ∧
    missesAll (·.1) (·.2) (fun _ _ ↦ true) caseIgnorableRanges.toList caseIgnorableRanges.toList
      0 lowerPoints = true ∧
    holdsAll casedRanges.toList casedRanges.toList lowerImages = true ∧
    missesAll (·.1) (·.2) (fun _ _ ↦ true) caseIgnorableRanges.toList caseIgnorableRanges.toList
      0 lowerImages = true ∧
    missesAll (·.1) runLast covers lowerRuns.toList lowerRuns.toList 0 lowerImages = true ∧
    lowerImages.all (fun q ↦ decide q.isValidChar) = true := by
  decide +kernel

theorem casedRanges_rise : casedRanges.toList.IsChain RangeBefore := tables_checked.1

theorem caseIgnorableRanges_rise : caseIgnorableRanges.toList.IsChain RangeBefore :=
  tables_checked.2.1

theorem lowerRuns_rise : (lowerRuns.toList.map fun r ↦ (r.1, runLast r)).IsChain RangeBefore :=
  tables_checked.2.2.1

theorem lowerPoints_cased :
    holdsAll casedRanges.toList casedRanges.toList lowerPoints = true :=
  tables_checked.2.2.2.1

theorem lowerPoints_not_ignorable :
    missesAll (·.1) (·.2) (fun _ _ ↦ true) caseIgnorableRanges.toList caseIgnorableRanges.toList
      0 lowerPoints = true :=
  tables_checked.2.2.2.2.1

theorem lowerImages_cased :
    holdsAll casedRanges.toList casedRanges.toList lowerImages = true :=
  tables_checked.2.2.2.2.2.1

theorem lowerImages_not_ignorable :
    missesAll (·.1) (·.2) (fun _ _ ↦ true) caseIgnorableRanges.toList caseIgnorableRanges.toList
      0 lowerImages = true :=
  tables_checked.2.2.2.2.2.2.1

theorem lowerImages_not_moved :
    missesAll (·.1) runLast covers lowerRuns.toList lowerRuns.toList 0 lowerImages = true :=
  tables_checked.2.2.2.2.2.2.2.1

theorem lowerImages_valid : lowerImages.all (fun q ↦ decide q.isValidChar) = true :=
  tables_checked.2.2.2.2.2.2.2.2

end Tables

/-! ### Simple lowercasing -/

theorem toNat_ofNat_of_valid {n : Nat} (h : n.isValidChar) : (Char.ofNat n).toNat = n := by
  rw [Char.ofNat, dif_pos h]
  rfl

/-- A point that the walk over `casedRanges` finds is cased. -/
theorem isCased_of_holdsAll {ps : List Nat} (hw : holdsAll casedRanges.toList casedRanges.toList ps = true)
    {c : Char} (hc : c.toNat ∈ ps) : isCased c = true := by
  obtain ⟨r, hr, ha, hb⟩ := holdsAll_sound (List.suffix_refl _) hw c.toNat hc
  simp [isCased, inRanges_eq_true_of_holds casedRanges_rise hr ha hb]

/-- A point that the walk past `caseIgnorableRanges` misses is not case-ignorable. -/
theorem isCaseIgnorable_of_missesAll {ps : List Nat}
    (hw : missesAll (·.1) (·.2) (fun _ _ ↦ true) caseIgnorableRanges.toList
      caseIgnorableRanges.toList 0 ps = true)
    {c : Char} (hc : c.toNat ∈ ps) : isCaseIgnorable c = false := by
  have hrise : (caseIgnorableRanges.toList.map fun b ↦ (b.1, b.2)).IsChain RangeBefore := by
    simpa using caseIgnorableRanges_rise
  unfold isCaseIgnorable
  cases hin : inRanges caseIgnorableRanges c.toNat with
  | false => rfl
  | true =>
    obtain ⟨r, hr, ha, hb⟩ := exists_of_inRanges hin
    cases missesAll_sound hrise ⟨[], rfl, by simp⟩ hw c.toNat hc r hr ha hb

/-- **Simple lowercasing changes only cased letters that are not case-ignorable, and turns
them into such letters, which it keeps.** -/
theorem lowerSimple15_changes_cased {c : Char} (h : lowerSimple15 c ≠ c) :
    isCased c = true ∧ isCaseIgnorable c = false ∧ isCased (lowerSimple15 c) = true ∧
      isCaseIgnorable (lowerSimple15 c) = false ∧
      lowerSimple15 (lowerSimple15 c) = lowerSimple15 c := by
  have hne : applyRuns lowerRuns c.toNat ≠ c.toNat := fun heq ↦ h (by simp [lowerSimple15, heq])
  obtain ⟨r, hr, hcov, hval⟩ := applyRuns_eq_of_ne hne
  have hpt := mem_runPoints_of_covers hcov
  have hp : c.toNat ∈ lowerPoints := List.mem_flatMap.2 ⟨r, hr, hpt⟩
  -- the letter it becomes is the image of `c` under the run that covers it
  have hq : (Int.ofNat c.toNat + r.2.2.1).toNat ∈ lowerImages :=
    List.mem_flatMap.2 ⟨r, hr, List.mem_map.2 ⟨c.toNat, hpt, rfl⟩⟩
  have hvalid : ((Int.ofNat c.toNat + r.2.2.1).toNat).isValidChar :=
    of_decide_eq_true (List.all_eq_true.1 lowerImages_valid _ hq)
  have hlow : lowerSimple15 c = Char.ofNat (Int.ofNat c.toNat + r.2.2.1).toNat := by
    rw [lowerSimple15, hval]
  have hq' : (lowerSimple15 c).toNat ∈ lowerImages := by
    rwa [hlow, toNat_ofNat_of_valid hvalid]
  -- and no run covers it, so it stays
  have hkept : applyRuns lowerRuns (lowerSimple15 c).toNat = (lowerSimple15 c).toNat := by
    have hrise : (lowerRuns.toList.map fun r ↦ (r.1, runLast r)).IsChain RangeBefore :=
      lowerRuns_rise
    refine applyRuns_of_not_covers fun r' hr' ↦ ?_
    cases hc' : covers r' (lowerSimple15 c).toNat with
    | false => rfl
    | true =>
      obtain ⟨ha, hb⟩ := covers_span hc'
      rw [← hc']
      exact missesAll_sound hrise ⟨[], rfl, by simp⟩ lowerImages_not_moved _ hq' r' hr' ha hb
  refine ⟨isCased_of_holdsAll lowerPoints_cased hp,
    isCaseIgnorable_of_missesAll lowerPoints_not_ignorable hp,
    isCased_of_holdsAll lowerImages_cased hq', isCaseIgnorable_of_missesAll lowerImages_not_ignorable hq', ?_⟩
  rw [lowerSimple15, hkept, Char.ofNat_toNat]

/-- Simple lowercasing is done once and for all. -/
theorem lowerSimple15_lowerSimple15 (c : Char) : lowerSimple15 (lowerSimple15 c) = lowerSimple15 c := by
  by_cases h : lowerSimple15 c = c
  · rw [h, h]
  · exact (lowerSimple15_changes_cased h).2.2.2.2

/-- A character that is not cased is its own lowercase. -/
theorem lowerSimple15_of_isCased_eq_false {c : Char} (h : isCased c = false) :
    lowerSimple15 c = c :=
  Decidable.byContradiction fun hne ↦ by simp [(lowerSimple15_changes_cased hne).1] at h

/-- A case-ignorable character is its own lowercase. -/
theorem lowerSimple15_of_isCaseIgnorable {c : Char} (h : isCaseIgnorable c = true) :
    lowerSimple15 c = c :=
  Decidable.byContradiction fun hne ↦ by simp [(lowerSimple15_changes_cased hne).2.1] at h

theorem isCased_lowerSimple15 (c : Char) : isCased (lowerSimple15 c) = isCased c := by
  by_cases h : lowerSimple15 c = c
  · rw [h]
  · rw [(lowerSimple15_changes_cased h).2.2.1, (lowerSimple15_changes_cased h).1]

theorem isCaseIgnorable_lowerSimple15 (c : Char) :
    isCaseIgnorable (lowerSimple15 c) = isCaseIgnorable c := by
  by_cases h : lowerSimple15 c = c
  · rw [h]
  · rw [(lowerSimple15_changes_cased h).2.2.2.1, (lowerSimple15_changes_cased h).2.1]

end LuaDebugger.Text
