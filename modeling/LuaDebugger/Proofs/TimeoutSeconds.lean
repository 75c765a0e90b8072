import LuaDebugger.Config.Check
/-!
# Timeouts given as a number of seconds

The write timeout of the server may be a bare integer, read as a number of seconds. The
reading multiplies it by `10^9` in signed 64-bit arithmetic, which wraps: the span it gives
is the product taken modulo `2^64` into the signed range (`wrapSigned`), and the check that
`validate` runs at the path looks only at the sign of that span.

* `wrapSigned_eq_self_iff`, `wrapSigned_emod`: a value in the signed 64-bit range is kept,
  and any value is moved by a multiple of `2^64` into that range;
* `validate_eq_none_iff`: `validate` accepts a configuration exactly when every check passes
  at its path (`Tree.PassesAt`);
* `integer_timeout_is_wrapped_seconds`: for a bare integer `n` at the write timeout, both
  readings of the setting give the wrapped product of `n` and `10^9`, the check there passes
  exactly when that product is positive, and it is `n` seconds exactly when `n · 10^9`
  fits in 64 bits. An integer whose product does not fit is not refused: the check sees the
  wrapped value, which may well be positive.
-/

namespace LuaDebugger.Config

/-! ### Wrapping into the signed 64-bit range -/

/-- A value in the signed 64-bit range keeps its bits, and only such a value does. -/
theorem wrapSigned_eq_self_iff (i : Int) : wrapSigned i = i ↔ -2 ^ 63 ≤ i ∧ i < 2 ^ 63 := by
  dsimp only [wrapSigned]
  split <;> omega

/-- Wrapping keeps a value modulo `2^64`. -/
theorem wrapSigned_emod (i : Int) : wrapSigned i % 2 ^ 64 = i % 2 ^ 64 := by
  dsimp only [wrapSigned]
  split <;> omega

/-- Wrapping lands in the signed 64-bit range. -/
theorem wrapSigned_mem_range (i : Int) : -2 ^ 63 ≤ wrapSigned i ∧ wrapSigned i < 2 ^ 63 := by
  dsimp only [wrapSigned]
  split <;> omega

/-! ### What `validate` accepts -/

/-- The checks `validate` runs at a path pass: each one meets the setting there, if any,
and finds no fault. -/
def Tree.PassesAt (t : Tree) (path : String) : Prop :=
  ∀ c ∈ checks, c.1 = path → (t.get? path).bind c.2 = none

/-- `validate` accepts a configuration exactly when every check passes at its path. -/
theorem validate_eq_none_iff (t : Tree) : validate t = none ↔ ∀ path, t.PassesAt path := by
  -- no fault is reported exactly when the checks found none
  have reported : ∀ faults : List ConfigFault,
      (if faults.isEmpty then none else some (ConfigFault.several faults)) = none ↔ faults = [] := by
    intro faults
    cases faults <;> simp
  dsimp only [validate]
  rw [reported, List.filterMap_eq_nil_iff]
  constructor
  · rintro h path c hc rfl
    exact h c hc
  · intro h c hc
    exact h c.1 c hc rfl

/-- Only the check of the write timeout runs at its path. -/
theorem passesAt_write_timeout_iff (t : Tree) :
    t.PassesAt "server.write_timeout" ↔
      (t.get? "server.write_timeout").bind checkTimeout = none := by
  simp [Tree.PassesAt, checks]

/-! ### Integers read as seconds -/

/-- A bare integer reads as a span of that many seconds, wrapped into 64 bits. -/
theorem readDuration_int (path : String) {n : Int} {d : Datum} (kind : d = .int n ∨ d = .int64 n) :
    readDuration path d = .ok (wrapSigned (n * 1000000000)) := by
  rcases kind with rfl | rfl <;> rfl

/-- The span of time at a path is the reading of the setting there. -/
theorem getDuration_of_get? {t : Tree} {path : String} {d : Datum} (h : t.get? path = some d) :
    t.getDuration path = readDuration path d := by
  simp only [Tree.getDuration, Tree.find, h]
  rfl

/-- The server's write timeout is the span at its path, when that reads. -/
theorem server_writeTimeout_of_getDuration {t : Tree} {ns : Int}
    (h : t.getDuration "server.write_timeout" = .ok ns) : t.server.writeTimeout = ns := by
  simp only [Tree.server, Tree.orDefault, h]

/-- The check of the write timeout passes a bare integer exactly when its wrapped span is
positive. -/
theorem checkTimeout_eq_none_iff {n : Int} {d : Datum} (kind : d = .int n ∨ d = .int64 n) :
    checkTimeout d = none ↔ 0 < wrapSigned (n * 1000000000) := by
  unfold checkTimeout
  rw [readDuration_int _ kind]
  by_cases hpos : wrapSigned (n * 1000000000) ≤ 0
  · simp only [hpos, if_true, reduceCtorEq, false_iff]
    omega
  · simp only [hpos, if_false, true_iff]
    omega

/-- **A bare integer timeout is the wrapped product of its seconds.** Where the write timeout
is an integer `n`, a machine or a 64-bit one, the span read at the path and the server's
write timeout are both `n · 10^9` nanoseconds taken modulo `2^64` into the signed range. The
check `validate` runs there passes exactly when that span is positive, and the span is `n`
seconds exactly when `n · 10^9` fits in 64 bits. So an integer whose product does not fit is
accepted whenever the wrapped product happens to be positive. -/
theorem integer_timeout_is_wrapped_seconds (t : Tree) {n : Int} {d : Datum}
    (kind : d = .int n ∨ d = .int64 n) (at_path : t.get? "server.write_timeout" = some d) :
    t.getDuration "server.write_timeout" = .ok (wrapSigned (n * 1000000000)) ∧
    t.server.writeTimeout = wrapSigned (n * 1000000000) ∧
    (t.PassesAt "server.write_timeout" ↔ 0 < wrapSigned (n * 1000000000)) ∧
    (wrapSigned (n * 1000000000) = n * 1000000000 ↔
      -2 ^ 63 ≤ n * 1000000000 ∧ n * 1000000000 < 2 ^ 63) := by
  have reads : t.getDuration "server.write_timeout" = .ok (wrapSigned (n * 1000000000)) := by
    rw [getDuration_of_get? at_path, readDuration_int _ kind]
  refine ⟨reads, server_writeTimeout_of_getDuration reads, ?_, wrapSigned_eq_self_iff _⟩
  rw [passesAt_write_timeout_iff, at_path, Option.bind_some]
  exact checkTimeout_eq_none_iff kind

/-- A timeout of `18446744074` seconds passes the check and reads as `290448384`
nanoseconds, under a third of a second. -/
theorem oversized_timeout_reads_as_a_fraction_of_a_second :
    let t : Tree := [("server", .map [("write_timeout", .int 18446744074)])]
    t.PassesAt "server.write_timeout" ∧
      t.getDuration "server.write_timeout" = .ok 290448384 ∧
      t.server.writeTimeout = 290448384 := by
  intro t
  have at_path : t.get? "server.write_timeout" = some (.int 18446744074) := rfl
  obtain ⟨reads, timeout, passes, -⟩ := integer_timeout_is_wrapped_seconds t (Or.inl rfl) at_path
  have wrapped : wrapSigned (18446744074 * 1000000000) = 290448384 := by
    decide
  rw [wrapped] at reads timeout passes
  exact ⟨passes.2 (by decide), reads, timeout⟩

end LuaDebugger.Config
