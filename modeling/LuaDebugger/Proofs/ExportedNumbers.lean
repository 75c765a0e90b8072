import Mathlib.Algebra.Order.Field.Basic
import Mathlib.Tactic.Positivity
import Mathlib.Tactic.Linarith
import LuaDebugger.Proofs.DataConversion
import LuaDebugger.Protocol.Dispatcher
/-!
# Numbers in exported data

A number of the script reaches a client through `numberDatum`, read here on its exact binary
value (`exactValue`, from the sign, mantissa and exponent of its bits): an integer below
`2^53` in magnitude becomes that very integer, any other finite number stays itself, and NaN
and the infinities become their text (`NumberRule`). So the plain data of any value holds no
NaN or infinite float, and since JSON encoding fails only on those
(`toJson?_isSome_of_floats_finite`), every converted value has a JSON text. Main statement:
`exported_numbers_are_exact`.
-/

namespace LuaDebugger

/-! ### The exact value of a number -/

namespace Decimal

/-- The exact value of a finite binary64 number, read from its bits: its sign, its mantissa
with the hidden bit, and its power of two. -/
def exactValue (x : Float) : ℚ :=
  (if x.toBits >>> 63 = 1 then -1 else 1) *
    ((Binary.ofBits x.toBits).m * 2 ^ (Binary.ofBits x.toBits).q)

/-- The magnitude `integralValue?` takes is `m * 2^q` as a natural, when that is one. -/
theorem magnitude_eq_some_iff (m : ℕ) (q : ℤ) (k : ℕ) :
    (if q ≥ 0 then some (m * 2 ^ q.toNat)
      else if m % 2 ^ (-q).toNat = 0 then some (m / 2 ^ (-q).toNat) else none) = some k ↔
      (m : ℚ) * 2 ^ q = k := by
  split_ifs with hq hdiv
  · have hpow : (2 : ℚ) ^ q = ((2 ^ q.toNat : ℕ) : ℚ) := by
      rw [Nat.cast_pow, ← zpow_natCast, Int.toNat_of_nonneg hq]
      rfl
    rw [hpow, Option.some.injEq, ← Nat.cast_mul, Nat.cast_inj]
  -- a negative exponent divides by `2^j`, which gives a natural exactly when it divides `m`
  all_goals
    have hpow : (2 : ℚ) ^ q = ((2 ^ (-q).toNat : ℕ) : ℚ)⁻¹ := by
      rw [Nat.cast_pow, ← zpow_natCast, ← zpow_neg, Int.toNat_of_nonneg (by omega), neg_neg]
      rfl
    have hpos : (0 : ℚ) < ((2 ^ (-q).toNat : ℕ) : ℚ) := by positivity
    rw [hpow, ← div_eq_mul_inv, div_eq_iff hpos.ne', ← Nat.cast_mul, Nat.cast_inj]
  · rw [Option.some.injEq]
    constructor
    · rintro rfl
      exact (Nat.div_mul_cancel (Nat.dvd_of_mod_eq_zero hdiv)).symm
    · intro hk
      rw [hk, Nat.mul_div_cancel _ (Nat.two_pow_pos _)]
  · simp only [false_iff]
    rintro rfl
    exact hdiv (Nat.mul_mod_left _ _)

/-- **`integralValue?` reads the exact value**: it gives an integer exactly when the number is
finite and its value is that integer. -/
theorem integralValue?_eq_some_iff {x : Float} {n : ℤ} :
    integralValue? x = some n ↔ isFinite x ∧ exactValue x = n := by
  unfold integralValue? isFinite exactValue
  generalize x.toBits = bits
  by_cases he : ((bits >>> 52) &&& 0x7FF).toNat = 0x7FF
  · simp [he]
  rw [if_neg he]
  simp only [Option.map_eq_some_iff, Option.bind_eq_bind, Option.bind_eq_some_iff,
    Option.pure_def, Option.some.injEq, magnitude_eq_some_iff, he, bne_iff_ne, ne_eq,
    not_false_eq_true, true_and]
  generalize Binary.ofBits bits = b
  have hv : (0 : ℚ) ≤ b.m * 2 ^ b.q :=
    mul_nonneg (Nat.cast_nonneg _) (zpow_nonneg (by norm_num) _)
  generalize (b.m : ℚ) * 2 ^ b.q = v at hv ⊢
  -- the magnitude is a natural `k`, and the sign bit says whether the value is `k` or `-k`
  have hnat : ∀ n : ℤ, (∃ a : ℤ, (∃ k : ℕ, v = k ∧ (k : ℤ) = a) ∧ a = n) ↔ v = n := by
    intro n
    constructor
    · rintro ⟨a, ⟨k, rfl, rfl⟩, rfl⟩
      rfl
    · intro h
      have hn : 0 ≤ n := by exact_mod_cast (show (0 : ℚ) ≤ n by linarith)
      have hk : ((n.toNat : ℕ) : ℚ) = (n : ℚ) := by exact_mod_cast Int.toNat_of_nonneg hn
      exact ⟨n, ⟨n.toNat, h.trans hk.symm, Int.toNat_of_nonneg hn⟩, rfl⟩
  by_cases hs : bits >>> 63 = 1
  · simp only [hs, ↓reduceIte, neg_mul, one_mul, neg_eq_iff_eq_neg]
    exact_mod_cast hnat (-n)
  · simp only [hs, ↓reduceIte, one_mul]
    exact hnat n

end Decimal

namespace Lua.Machine

/-! ### The number rule -/

/-- The rule by which a number `x` becomes data, read on its exact value: a finite number
whose value is an integer below `2^53` in magnitude is that integer, any other finite number
is itself, and NaN and the infinities are their text. -/
inductive NumberRule (x : Float) : Datum → Prop
  | integer (n : ℤ) (hfin : Decimal.isFinite x) (hval : Decimal.exactValue x = n)
      (hsmall : n.natAbs < 2 ^ 53) : NumberRule x (.int64 n)
  | float (hfin : Decimal.isFinite x)
      (hbig : ∀ n : ℤ, Decimal.exactValue x = n → 2 ^ 53 ≤ n.natAbs) :
      NumberRule x (.float x)
  | text (hinf : Decimal.isFinite x = false) : NumberRule x (.text (numberText x))

theorem numberDatum_rule (x : Float) : NumberRule x (numberDatum x) := by
  unfold numberDatum
  split_ifs with hfin
  · cases hint : Decimal.integralValue? x with
    | some n =>
      have hval := (Decimal.integralValue?_eq_some_iff.1 hint).2
      simp only
      split_ifs with hsmall
      · exact .integer n hfin hval hsmall
      · refine .float hfin fun n' hn' ↦ ?_
        obtain rfl : n' = n := by exact_mod_cast hn'.symm.trans hval
        omega
    | none =>
      refine .float hfin fun n hn ↦ ?_
      rw [Decimal.integralValue?_eq_some_iff.2 ⟨hfin, hn⟩] at hint
      cases hint
  · exact .text (by simpa using hfin)

end Lua.Machine

/-! ### Numbers inside data, and JSON text -/

namespace Datum

/-- A datum that is a number of some kind. -/
def IsNumber : Datum → Prop
  | .int _ | .int64 _ | .uint64 _ | .float _ => True
  | _ => False

/-- `part` is the datum itself or stands inside one of its lists or maps. -/
inductive Occurs (part : Datum) : Datum → Prop
  | refl : Occurs part part
  | list {x : Datum} {xs : List Datum} (hx : x ∈ xs) (h : Occurs part x) : Occurs part (.list xs)
  | map {k : String} {x : Datum} {kvs : List (String × Datum)} (hx : (k, x) ∈ kvs)
      (h : Occurs part x) : Occurs part (.map kvs)

/-- Inside a datum that is neither a list nor a map stands only the datum itself. -/
theorem Occurs.eq_of_flat {part d : Datum} (h : Occurs part d) (hl : ∀ xs, d ≠ .list xs)
    (hm : ∀ kvs, d ≠ .map kvs) : part = d := by
  cases h with
  | refl => rfl
  | list => exact absurd rfl (hl _)
  | map => exact absurd rfl (hm _)

mutual

/-- **JSON encoding fails only on NaN and the infinities**: a datum whose floats are all
finite has a JSON text. -/
theorem toJson?_isSome_of_floats_finite :
    ∀ {d : Datum}, (∀ y, Occurs (.float y) d → Decimal.isFinite y) → (toJson? d).isSome
  | .null, _ | .bool _, _ | .int _, _ | .int64 _, _ | .uint64 _, _ | .duration _, _
  | .text _, _ | .bytes _, _ | .localDate _, _ | .localTime _, _ | .localDateTime _ _, _
  | .instant _ _ _ _, _ => rfl
  | .float y, h => by simp [toJson?, h y .refl]
  | .list xs, h => by
    simp only [toJson?, Option.isSome_map]
    exact listJson?_isSome_of_floats_finite fun y x hx hy ↦ h y (.list hx hy)
  | .map kvs, h => by
    simp only [toJson?, Option.isSome_map]
    exact entriesJson?_isSome_of_floats_finite fun y k x hx hy ↦ h y (.map hx hy)

theorem listJson?_isSome_of_floats_finite : ∀ {xs : List Datum},
    (∀ y x, x ∈ xs → Occurs (.float y) x → Decimal.isFinite y) → (listJson? xs).isSome
  | [], _ => rfl
  | [x], h => toJson?_isSome_of_floats_finite fun y hy ↦ h y x (List.mem_singleton_self x) hy
  | x :: x' :: rest, h => by
    have hx := toJson?_isSome_of_floats_finite fun y hy ↦ h y x List.mem_cons_self hy
    have hrest := @listJson?_isSome_of_floats_finite (x' :: rest)
      fun y z hz hy ↦ h y z (List.mem_cons_of_mem _ hz) hy
    obtain ⟨a, ha⟩ := Option.isSome_iff_exists.1 hx
    obtain ⟨b, hb⟩ := Option.isSome_iff_exists.1 hrest
    simp [listJson?, ha, hb]

theorem entriesJson?_isSome_of_floats_finite : ∀ {kvs : List (String × Datum)},
    (∀ y k x, (k, x) ∈ kvs → Occurs (.float y) x → Decimal.isFinite y) →
      (entriesJson? kvs).isSome
  | [], _ => rfl
  | [(k, x)], h => by
    simp only [entriesJson?, Option.isSome_map]
    exact toJson?_isSome_of_floats_finite fun y hy ↦ h y k x (List.mem_singleton_self _) hy
  | (k, x) :: kv :: rest, h => by
    have hx := toJson?_isSome_of_floats_finite fun y hy ↦ h y k x List.mem_cons_self hy
    have hrest := @entriesJson?_isSome_of_floats_finite (kv :: rest)
      fun y k' z hz hy ↦ h y k' z (List.mem_cons_of_mem _ hz) hy
    obtain ⟨a, ha⟩ := Option.isSome_iff_exists.1 hx
    obtain ⟨b, hb⟩ := Option.isSome_iff_exists.1 hrest
    simp [entriesJson?, ha, hb]

end

end Datum

namespace Lua.Machine

/-! ### Numbers in converted values -/

variable {m : Machine}

theorem numberDatum_flat (x : Float) :
    (∀ xs, numberDatum x ≠ .list xs) ∧ ∀ kvs, numberDatum x ≠ .map kvs := by
  have h := numberDatum_rule x
  generalize numberDatum x = d at h ⊢
  cases h <;> simp

theorem ofBytes_flat (s : ByteArray) :
    (∀ xs, Datum.ofBytes s ≠ .list xs) ∧ ∀ kvs, Datum.ofBytes s ≠ .map kvs := by
  unfold Datum.ofBytes
  split <;> simp

/-- Every number in a converted value came from a number of the script by the number rule. -/
theorem Converts.numbers {path : List Nat} {v : Value} {d : Datum} (h : Converts m path v d) :
    ∀ part, part.Occurs d → part.IsNumber → ∃ x, NumberRule x part := by
  induction h with
  | nil | bool | fn | thread | userdata | cut =>
    intro part hp hnum
    cases hp
    exact hnum.elim
  | number path x =>
    intro part hp _
    rw [hp.eq_of_flat (numberDatum_flat x).1 (numberDatum_flat x).2]
    exact ⟨x, numberDatum_rule x⟩
  | str path s =>
    intro part hp hnum
    rw [hp.eq_of_flat (ofBytes_flat s).1 (ofBytes_flat s).2] at hnum
    unfold Datum.ofBytes at hnum
    split at hnum <;> exact hnum.elim
  | list item _ _ _ ih =>
    intro part hp hnum
    cases hp with
    | refl => exact hnum.elim
    | list hx hpart =>
      obtain ⟨i, hi, rfl⟩ := List.mem_map.1 hx
      exact ih i (List.mem_range.1 hi) part hpart hnum
  | map value _ _ _ ih =>
    intro part hp hnum
    cases hp with
    | refl => exact hnum.elim
    | map hx hpart =>
      obtain ⟨b, -, hlast⟩ := mem_keyedEntries_iff.1 hx
      obtain ⟨e, he, hbe⟩ := List.mem_map.1 hlast.mem
      rw [← (Prod.mk.inj hbe).2] at hpart
      exact ih e he part hpart hnum

/-- **Numbers reach a client exactly, as JSON.** Every number in the plain data of a value
comes from a number of the script by the number rule, so an integer in it is the exact value
of a finite number and below `2^53` in magnitude, and a float in it is finite; hence the data
has a JSON text, and neither `json` nor a reply falls back to `null` for it. -/
theorem exported_numbers_are_exact (m : Machine) (v : Value) :
    (∀ x, NumberRule x (numberDatum x)) ∧
      (∀ part, part.Occurs (m.toDatum v) → part.IsNumber → ∃ x, NumberRule x part) ∧
      ∃ s, (m.toDatum v).toJson? = some s ∧ json (m.toDatum v) = s ∧
        (m.toDatum v).jsonOrNull = s := by
  have hnum := (converts_toDatum m v).numbers
  refine ⟨numberDatum_rule, hnum, ?_⟩
  have hfin : ∀ y, (Datum.float y).Occurs (m.toDatum v) → Decimal.isFinite y := by
    intro y hy
    obtain ⟨x, hx⟩ := hnum _ hy trivial
    cases hx with
    | float hfin => exact hfin
  obtain ⟨s, hs⟩ := Option.isSome_iff_exists.1 (Datum.toJson?_isSome_of_floats_finite hfin)
  exact ⟨s, hs, by simp [json, hs], by simp [Datum.jsonOrNull, hs]⟩

end Lua.Machine

end LuaDebugger
