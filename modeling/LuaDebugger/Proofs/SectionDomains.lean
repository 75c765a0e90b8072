import LuaDebugger.App.Application
import LuaDebugger.Proofs.TimeoutSeconds
import LuaDebugger.Proofs.ExportedNumbers
/-!
# Validated settings read within their domains

The sections of a configuration read each setting with its type and fall back to a default
when the reading fails. On a configuration that `validate` accepts no reading of a present
setting fails, so a section never falls back on one: each field is the setting read, when
present, and its default when absent (`Tree.ReadsAt`).

An integer setting is checked in a range of naturals below `2^63`. In such a range an
unsigned 64-bit integer keeps its bits, since only one with its top bit clear can pass, and
a float passes only when it is finite with an integral value. So the field read is the very
integer the setting stands for (`Datum.StandsFor`), within the range (`Tree.ReadsInteger`),
and a setting standing for no integer of the range, such as an unsigned integer from `2^63`
or a float that is NaN, infinite or not integral, is refused.

The write timeout is positive, the policy for unknown commands is `report` or `ignore`, so
the server's configuration is always built, and the log level is the name of a level. Main
statement: `sectionsInDomain_of_valid`, with `Tree.SectionsInDomain` the promises of the
sections.
-/

namespace LuaDebugger

/-! ### The integer a setting stands for -/

/-- The integer a setting stands for: an integer of any width with that value, or a finite
float whose exact value it is. -/
def Datum.StandsFor : Datum → Int → Prop
  | .int m, n | .int64 m, n => m = n
  | .uint64 m, n => (m : Int) = n
  | .float x, n => Decimal.isFinite x = true ∧ Decimal.exactValue x = n
  | _, _ => False

/-- A setting whose unsigned integer, if it is one, fits in 64 bits, as every unsigned integer
read from a file does. -/
def Datum.Fits : Datum → Prop
  | .uint64 m => m < 2 ^ 64
  | _ => True

namespace Config

theorem standsFor_float_iff {x : Float} {n : Int} :
    (Datum.float x).StandsFor n ↔ Decimal.integralValue? x = some n :=
  Decimal.integralValue?_eq_some_iff.symm

/-- In a range of naturals below `2^63`, reading a setting as an integer gives exactly the
integer it stands for: an unsigned integer there has its top bit clear and keeps its bits,
and a float gives its exact integral value. -/
theorem readInt_eq_ok_iff {path : String} {lo hi n : Int} (hlo : 0 ≤ lo) (hhi : hi < 2 ^ 63)
    {d : Datum} (fits : d.Fits) :
    (readInt path d = .ok n ∧ lo ≤ n ∧ n ≤ hi) ↔ (d.StandsFor n ∧ lo ≤ n ∧ n ≤ hi) := by
  cases d with
  | int m => simp [readInt, Datum.StandsFor]
  | int64 m => simp [readInt, Datum.StandsFor]
  | uint64 m =>
    have wide : (m : Int) < 2 ^ 64 := by exact_mod_cast fits
    simp only [readInt, Datum.StandsFor, Except.ok.injEq, wrapSigned]
    split <;> constructor <;> intro h <;> omega
  | float x =>
    rw [standsFor_float_iff]
    cases hv : Decimal.integralValue? x with
    | none => simp [readInt, hv]
    | some k =>
      simp only [readInt, hv, Option.some.injEq]
      split
      · simp
      · -- an integral value outside 64 bits is refused, and lies outside the range too
        simp only [reduceCtorEq, false_and, false_iff, not_and]
        omega
  | _ => simp [readInt, Datum.StandsFor]

/-- The check of an integer setting passes exactly when the setting reads as an integer in
the range. -/
theorem checkIntIn_eq_none_iff {path : String} {lo hi : Int} {d : Datum} :
    checkIntIn path lo hi d = none ↔ ∃ n, readInt path d = .ok n ∧ lo ≤ n ∧ n ≤ hi := by
  unfold checkIntIn
  cases readInt path d with
  | error e => simp
  | ok n =>
    simp only [Except.ok.injEq, exists_eq_left']
    split <;> simp <;> omega

/-! ### Reading with a default -/

/-- A reading through `find` reads the setting present. -/
theorem find_bind_of_get? {α : Type} {t : Tree} {path : String} {d : Datum}
    (h : t.get? path = some d) (f : Datum → Except ConfigFault α) : (t.find path >>= f) = f d := by
  simp only [Tree.find, h]
  rfl

/-- A reading through `find` fails on a setting absent. -/
theorem find_bind_of_absent {α : Type} {t : Tree} {path : String} (h : t.get? path = none)
    (f : Datum → Except ConfigFault α) : (t.find path >>= f) = .error .notFound := by
  simp only [Tree.find, h]
  rfl

/-- The field `v` of a section is the setting at `path` as `read` gives it, the reading
succeeding, when the setting is present, and `default` when it is absent. -/
structure Tree.ReadsAt {α : Type} (t : Tree) (path : String) (read : Except ConfigFault α)
    (default v : α) : Prop where
  present : (t.get? path).isSome = true → read = .ok v
  absent : t.get? path = none → v = default

/-- **A field never falls back on a setting present** that passes the check of its path, when
it is read through `find` and the reading succeeds on every setting the check passes. -/
theorem readsAt_of_passes {α : Type} {t : Tree} {path : String} {read : Except ConfigFault α}
    {f : Datum → Except ConfigFault α} {check : Datum → Option ConfigFault} (default : α)
    (reading : read = t.find path >>= f) (reads : ∀ d, check d = none → ∃ v, f d = .ok v)
    (passes : (t.get? path).bind check = none) :
    t.ReadsAt path read default (Tree.orDefault read default) := by
  subst reading
  cases hd : t.get? path with
  | none =>
    rw [find_bind_of_absent hd]
    exact ⟨fun h ↦ absurd h (by simp [hd]), fun _ ↦ rfl⟩
  | some d =>
    rw [hd, Option.bind_some] at passes
    obtain ⟨v, hv⟩ := reads d passes
    rw [find_bind_of_get? hd, hv]
    exact ⟨fun _ ↦ rfl, fun h ↦ absurd h (by simp [hd])⟩

/-- An integer field read from the setting at `path` with a default: within the range, the
setting read when present, the very integer it stands for, and the default when absent. -/
structure Tree.ReadsInteger (t : Tree) (path : String) (lo hi default v : Int) : Prop
    extends t.ReadsAt path (t.getInt path) default v where
  lower : lo ≤ v
  upper : v ≤ hi
  standsFor : ∀ d, t.get? path = some d → d.Fits → d.StandsFor v

/-- An integer field whose check passes, from `lo ≥ 0` to `hi < 2^63` with the default in
between, reads the integer the setting stands for. -/
theorem readsInteger_of_passes {t : Tree} {path : String} {lo hi default : Int} (hlo : 0 ≤ lo)
    (hhi : hi < 2 ^ 63) (hdef : lo ≤ default ∧ default ≤ hi)
    (passes : (t.get? path).bind (checkIntIn path lo hi) = none) :
    t.ReadsInteger path lo hi default (Tree.orDefault (t.getInt path) default) := by
  have getInt_eq : t.getInt path = t.find path >>= readInt path := rfl
  rw [getInt_eq]
  have reads := readsAt_of_passes default rfl (fun d h ↦ (checkIntIn_eq_none_iff.1 h).imp
    fun _ hn ↦ hn.1) passes
  cases hd : t.get? path with
  | none =>
    have absent := reads.absent hd
    refine ⟨reads, ?_, ?_, fun d h ↦ absurd h (by simp [hd])⟩ <;> rw [absent]
    · exact hdef.1
    · exact hdef.2
  | some d =>
    rw [hd, Option.bind_some, checkIntIn_eq_none_iff] at passes
    obtain ⟨n, hn, lo_n, n_hi⟩ := passes
    have value : Tree.orDefault (t.find path >>= readInt path) default = n := by
      rw [find_bind_of_get? hd, hn]
      rfl
    refine ⟨reads, value ▸ lo_n, value ▸ n_hi, fun d' hd' fits ↦ ?_⟩
    rw [hd, Option.some.injEq] at hd'
    subst hd'
    exact value ▸ ((readInt_eq_ok_iff hlo hhi fits).1 ⟨hn, lo_n, n_hi⟩).1

/-- An unsigned integer from `2^63` stands for no integer of a range below `2^63`, so no
integer field reads one. -/
theorem Tree.ReadsInteger.get?_ne_wide {t : Tree} {path : String} {lo hi default v : Int}
    (h : t.ReadsInteger path lo hi default v) (hhi : hi < 2 ^ 63) {n : Nat} (wide : 2 ^ 63 ≤ n)
    (fits : n < 2 ^ 64) : t.get? path ≠ some (.uint64 n) := by
  intro at_path
  have same : (n : Int) = v := h.standsFor _ at_path fits
  have upper := h.upper
  omega

/-- A float that is NaN, infinite or not integral stands for no integer, so no integer field
reads one. -/
theorem Tree.ReadsInteger.get?_ne_float {t : Tree} {path : String} {lo hi default v : Int}
    (h : t.ReadsInteger path lo hi default v) {x : Float}
    (none_ : ∀ n : Int, ¬(Decimal.isFinite x = true ∧ Decimal.exactValue x = n)) :
    t.get? path ≠ some (.float x) :=
  fun at_path ↦ none_ v (h.standsFor _ at_path trivial)

/-! ### The other settings -/

/-- A configuration that `validate` accepts passes each check at its path. -/
theorem passes_of_valid {t : Tree} (valid : validate t = none) {path : String}
    {check : Datum → Option ConfigFault} (h : (path, check) ∈ checks) :
    (t.get? path).bind check = none :=
  (validate_eq_none_iff t).1 valid path _ h rfl

theorem checkString_eq_none_iff {path : String} {d : Datum} :
    checkString path d = none ↔ (∃ s, d = .text s) ∨ ∃ b, d = .bytes b := by
  cases d <;> simp [checkString]

theorem checkBool_eq_none_iff {path : String} {d : Datum} :
    checkBool path d = none ↔ ∃ b, d = .bool b := by
  cases d <;> simp [checkBool]

/-- The write timeout's check passes exactly a setting read as a positive span. -/
theorem checkTimeout_eq_none_iff_pos {d : Datum} :
    checkTimeout d = none ↔ ∃ ns, readDuration "server.write_timeout" d = .ok ns ∧ 0 < ns := by
  unfold checkTimeout
  cases readDuration "server.write_timeout" d with
  | error e => simp
  | ok ns =>
    simp only [Except.ok.injEq, exists_eq_left']
    split <;> simp <;> omega

/-- The policy's check passes exactly the names of the two policies. -/
theorem checkPolicy_eq_none_iff {d : Datum} :
    checkPolicy d = none ↔ ∃ p : UnknownPolicy, d = .text p.name := by
  unfold checkPolicy
  split
  · exact iff_of_true rfl ⟨.report, rfl⟩
  · exact iff_of_true rfl ⟨.ignore, rfl⟩
  · next other₁ other₂ =>
    refine iff_of_false (by simp) ?_
    rintro ⟨p, rfl⟩
    cases p
    · exact other₁ rfl
    · exact other₂ rfl

/-- The level's check passes exactly the text of a level's name. -/
theorem checkLevel_eq_none_iff {d : Datum} :
    checkLevel d = none ↔ ∃ s, d = .text s ∧ Level.isValidName s = true := by
  unfold checkLevel
  split
  · next s => split <;> simp_all
  · next other => exact iff_of_false (by simp) fun ⟨s, hs, _⟩ ↦ other s hs

/-- The server's configuration is built from a section whose policy is the name of one, field
by field. -/
theorem serverConfig_of_policy {s : ServerSection} {p : UnknownPolicy}
    (h : s.unknownCommands = .text p.name) :
    App.serverConfig s =
      .ok { host := App.textOf s.host, port := s.port, sendQueue := s.sendQueue,
            maxLineBytes := s.maxLineBytes, writeTimeout := s.writeTimeout, policy := p } := by
  have parses : UnknownPolicy.parse p.name = .ok p := by
    cases p <;> decide +kernel
  simp only [App.serverConfig, h, App.textOf, parses]

/-- The value of a field read through `find`: its default when the setting is absent, or the
reading of the setting present, which passes the check. -/
theorem value_of_passes {α : Type} {t : Tree} {path : String} {f : Datum → Except ConfigFault α}
    {check : Datum → Option ConfigFault} (read : Except ConfigFault α) (default : α)
    (reading : read = t.find path >>= f) (passes : (t.get? path).bind check = none) :
    Tree.orDefault read default = default ∨
      ∃ d, check d = none ∧ Tree.orDefault read default = Tree.orDefault (f d) default := by
  subst reading
  cases hd : t.get? path with
  | none =>
    rw [find_bind_of_absent hd]
    exact .inl rfl
  | some d =>
    rw [hd, Option.bind_some] at passes
    rw [find_bind_of_get? hd]
    exact .inr ⟨d, passes, rfl⟩

/-- The write timeout of a configuration whose check passes at its path is positive. -/
theorem writeTimeout_pos_of_passes {t : Tree}
    (passes : (t.get? "server.write_timeout").bind checkTimeout = none) :
    0 < t.server.writeTimeout := by
  have field : t.server.writeTimeout =
      Tree.orDefault (t.getDuration "server.write_timeout") 10000000000 := rfl
  rcases value_of_passes (t.getDuration "server.write_timeout") 10000000000 rfl passes
    with absent | ⟨d, hd, present⟩
  · rw [field, absent]
    decide
  · obtain ⟨ns, hns, pos⟩ := checkTimeout_eq_none_iff_pos.1 hd
    rw [field, present, hns]
    exact pos

/-- The policy of a configuration whose check passes at its path is named `report` or
`ignore`. -/
theorem policy_of_passes {t : Tree}
    (passes : (t.get? "server.unknown_commands").bind checkPolicy = none) :
    ∃ p : UnknownPolicy, t.server.unknownCommands = .text p.name := by
  rcases value_of_passes (t.getString "server.unknown_commands") (Datum.text "report") rfl passes
    with absent | ⟨d, hd, present⟩
  · exact ⟨.report, absent⟩
  · obtain ⟨p, rfl⟩ := checkPolicy_eq_none_iff.1 hd
    exact ⟨p, present⟩

/-- The log level of a configuration whose check passes at its path is the name of a
level. -/
theorem level_of_passes {t : Tree} (passes : (t.get? "logging.level").bind checkLevel = none) :
    ∃ s, t.logging.level = .text s ∧ Level.isValidName s = true := by
  rcases value_of_passes (t.getString "logging.level") (Datum.text "info") rfl passes
    with absent | ⟨d, hd, present⟩
  · exact ⟨"info", absent, by decide +kernel⟩
  · obtain ⟨s, rfl, valid⟩ := checkLevel_eq_none_iff.1 hd
    exact ⟨s, present, valid⟩

/-! ### The sections of a validated configuration -/

/-- What the sections of a configuration promise: every field is the setting read when present
and its default when absent; the integers lie in their ranges and are the integers the settings
stand for; the write timeout is positive, the policy is named `report` or `ignore`, and the log
level is the name of a level. -/
structure Tree.SectionsInDomain (t : Tree) : Prop where
  host : t.ReadsAt "server.host" (t.getString "server.host") (.text "") t.server.host
  port : t.ReadsInteger "server.port" 0 65535 7777 t.server.port
  unknownCommands : t.ReadsAt "server.unknown_commands" (t.getString "server.unknown_commands")
    (.text "report") t.server.unknownCommands
  policy : ∃ p : UnknownPolicy, t.server.unknownCommands = .text p.name
  sendQueue : t.ReadsInteger "server.send_queue" 1 (2 ^ 20) 256 t.server.sendQueue
  maxLineBytes : t.ReadsInteger "server.max_line_bytes" 64 (2 ^ 30) (2 ^ 20) t.server.maxLineBytes
  writeTimeout : t.ReadsAt "server.write_timeout" (t.getDuration "server.write_timeout")
    10000000000 t.server.writeTimeout
  writeTimeout_pos : 0 < t.server.writeTimeout
  stopOnEntry : t.ReadsAt "engine.stop_on_entry" (t.getBool "engine.stop_on_entry") true
    t.engine.stopOnEntry
  systemLibraries : t.ReadsAt "engine.system_libraries" (t.getBool "engine.system_libraries") false
    t.engine.systemLibraries
  queueSize : t.ReadsInteger "engine.queue_size" 1 (2 ^ 20) 64 t.engine.queueSize
  level : t.ReadsAt "logging.level" (t.getString "logging.level") (.text "info") t.logging.level
  level_valid : ∃ s, t.logging.level = .text s ∧ Level.isValidName s = true

/-- A text field whose check passes only text never falls back on a setting present. -/
theorem readsAt_getString {t : Tree} {path : String} {check : Datum → Option ConfigFault}
    (default : Datum) (passes : (t.get? path).bind check = none)
    (texts : ∀ d, check d = none → (∃ s, d = .text s) ∨ ∃ b, d = .bytes b) :
    t.ReadsAt path (t.getString path) default (Tree.orDefault (t.getString path) default) :=
  readsAt_of_passes default rfl
    (fun d h ↦ by rcases texts d h with ⟨s, rfl⟩ | ⟨b, rfl⟩ <;> exact ⟨_, rfl⟩) passes

/-- A boolean field whose check passes never falls back on a setting present. -/
theorem readsAt_getBool {t : Tree} {path : String} (default : Bool)
    (passes : (t.get? path).bind (checkBool path) = none) :
    t.ReadsAt path (t.getBool path) default (Tree.orDefault (t.getBool path) default) :=
  readsAt_of_passes default rfl
    (fun d h ↦ by obtain ⟨b, rfl⟩ := checkBool_eq_none_iff.1 h; exact ⟨b, rfl⟩) passes

/-- **A configuration that `validate` accepts keeps every promise of its sections.** -/
theorem sectionsInDomain_of_valid {t : Tree} (valid : validate t = none) :
    t.SectionsInDomain where
  host := readsAt_getString _ (passes_of_valid valid
      (show ("server.host", checkString "server.host") ∈ checks by simp [checks]))
    fun _ h ↦ checkString_eq_none_iff.1 h
  port := readsInteger_of_passes le_rfl (by norm_num) (by norm_num)
    (passes_of_valid valid (by simp [checks]))
  unknownCommands := readsAt_getString _ (passes_of_valid valid
      (show ("server.unknown_commands", checkPolicy) ∈ checks by simp [checks]))
    fun _ h ↦ by obtain ⟨p, rfl⟩ := checkPolicy_eq_none_iff.1 h; exact .inl ⟨_, rfl⟩
  policy := policy_of_passes (passes_of_valid valid (by simp [checks]))
  sendQueue := readsInteger_of_passes (by norm_num) (by norm_num) (by norm_num)
    (passes_of_valid valid (by simp [checks]))
  maxLineBytes := readsInteger_of_passes (by norm_num) (by norm_num) (by norm_num)
    (passes_of_valid valid (by simp [checks]))
  writeTimeout := readsAt_of_passes _ rfl
    (fun _ h ↦ (checkTimeout_eq_none_iff_pos.1 h).imp fun _ hns ↦ hns.1)
    (passes_of_valid valid (by simp [checks]))
  writeTimeout_pos := writeTimeout_pos_of_passes (passes_of_valid valid (by simp [checks]))
  stopOnEntry := readsAt_getBool _ (passes_of_valid valid (by simp [checks]))
  systemLibraries := readsAt_getBool _ (passes_of_valid valid (by simp [checks]))
  queueSize := readsInteger_of_passes (by norm_num) (by norm_num) (by norm_num)
    (passes_of_valid valid (by simp [checks]))
  level := readsAt_getString _ (passes_of_valid valid
      (show ("logging.level", checkLevel) ∈ checks by simp [checks]))
    fun _ h ↦ .inl ((checkLevel_eq_none_iff.1 h).imp fun _ hs ↦ hs.1)
  level_valid := level_of_passes (passes_of_valid valid (by simp [checks]))

/-- Each integer setting is read by a section field, in a range below `2^63`. -/
theorem Tree.SectionsInDomain.readsInteger {t : Tree} (h : t.SectionsInDomain) {path : String}
    (hp : path ∈ ["server.port", "server.send_queue", "server.max_line_bytes",
      "engine.queue_size"]) :
    ∃ lo hi default v : Int, hi < 2 ^ 63 ∧ t.ReadsInteger path lo hi default v := by
  simp only [List.mem_cons, List.not_mem_nil, or_false] at hp
  rcases hp with rfl | rfl | rfl | rfl
  · exact ⟨_, _, _, _, by norm_num, h.port⟩
  · exact ⟨_, _, _, _, by norm_num, h.sendQueue⟩
  · exact ⟨_, _, _, _, by norm_num, h.maxLineBytes⟩
  · exact ⟨_, _, _, _, by norm_num, h.queueSize⟩

end Config

end LuaDebugger
