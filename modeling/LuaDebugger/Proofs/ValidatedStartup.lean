import LuaDebugger.Proofs.ChangeDelivery
import LuaDebugger.Proofs.SectionDomains
/-!
# The configuration the application starts from is validated

Loading the configuration lays down its layers, validates their merge and starts watching the
file; each setting of the command line is then set on the loaded configuration, which checks
the merge again and takes back a setting that fails. So when loading succeeds, the merged
settings pass `validate` (`App.loadConfig_validated`), and the sections read from them keep
every promise of `Config.Tree.SectionsInDomain`. In particular the server's configuration is
always built from them, and building the application fails only where loading the
configuration fails (`App.bootstrap_fails_only_loading`).

The steps are opened through what they do to the cache of the layers: laying the layers down
keeps the cache sound (`Store.KeepsSound`), the check caches the merge it validated, and
starting the watcher leaves the layers alone. Main statement:
`validated_sections_read_within_domains`.
-/

namespace LuaDebugger.Config.Store

/-! ### Actions that keep the cache sound -/

/-- An action after which the cache of the layers is sound when it was before, whatever the
action returns. -/
def KeepsSound {α : Type} (a : Action α) : Prop :=
  ∀ s : Store, s.layers.Sound → (a.run.run s).2.layers.Sound

theorem KeepsSound.bind {α β : Type} {x : Action α} {f : α → Action β} (hx : KeepsSound x)
    (hf : ∀ a, KeepsSound (f a)) : KeepsSound (x >>= f) := by
  intro s h
  have after := hx s h
  rw [run_bind]
  rcases hr : x.run.run s with ⟨_ | a, s'⟩
  · rw [hr] at after
    exact after
  · rw [hr] at after
    exact hf a s' after

theorem KeepsSound.ite {α : Type} {c : Prop} [Decidable c] {x y : Action α} (hx : KeepsSound x)
    (hy : KeepsSound y) : KeepsSound (if c then x else y) := by
  split
  · exact hx
  · exact hy

theorem keepsSound_pure {α : Type} (a : α) : KeepsSound (pure a : Action α) := fun _ h ↦ h

theorem keepsSound_get : KeepsSound (get : Action Store) := fun _ h ↦ h

theorem keepsSound_putData (source : Source) (data : Tree) : KeepsSound (putData source data) :=
  fun _ h ↦ h.put _

theorem keepsSound_log (level : Level) (fmt : String) (args : List Datum) :
    KeepsSound (log level fmt args) := fun _ h ↦ h

theorem keepsSound_lift {α : Type} (e : Except ConfigFault α) : KeepsSound (lift e) := by
  intro s h
  rw [lift_run]
  split <;> exact h

/-- Laying down the defaults, the file and the environment keeps the cache sound. -/
theorem keepsSound_layDown (fs : FileSystem) : KeepsSound (layDown fs) := by
  unfold layDown
  refine (keepsSound_putData _ _).bind fun _ ↦ keepsSound_get.bind fun s ↦ ?_
  -- the layer of the environment comes last, whichever way the file was read
  have env : KeepsSound (if (environment s.environ).isEmpty.not = true then
      putData .environment (environment s.environ) else pure ()) :=
    (keepsSound_putData _ _).ite (keepsSound_pure _)
  dsimp only
  refine KeepsSound.ite ((keepsSound_lift _).bind fun read ↦ ?_) env
  split
  · exact (keepsSound_putData _ _).bind fun _ ↦ (keepsSound_log _ _ _).bind fun _ ↦ env
  · exact (keepsSound_log _ _ _).bind fun _ ↦ env

/-! ### Loading and setting validate what they leave -/

/-- A run that fails is no run that succeeds. -/
theorem error_ne_ok {α : Type} {e : ConfigFault} {a : α} {t t' : Store} :
    ((.error e, t) : Except ConfigFault α × Store) ≠ (.ok a, t') :=
  fun h ↦ nomatch (Prod.mk.inj h).1

/-- A bound action that succeeds ran both its parts with success. -/
theorem bind_ok {α β : Type} {x : Action α} {f : α → Action β} {s s' : Store} {b : β}
    (h : (x >>= f).run.run s = (.ok b, s')) :
    ∃ a s₁, x.run.run s = (.ok a, s₁) ∧ (f a).run.run s₁ = (.ok b, s') := by
  rw [run_bind] at h
  rcases hx : x.run.run s with ⟨_ | a, s₁⟩
  · rw [hx] at h
    exact absurd h error_ne_ok
  · rw [hx] at h
    exact ⟨a, s₁, rfl, h⟩

/-- A check that passes validated the merge of the layers, which it cached. -/
theorem check_ok {s s' : Store} (h : check.run.run s = (.ok (), s')) :
    validate s.layers.merge.1 = none ∧ s' = { s with layers := s.layers.merge.2 } := by
  unfold check at h
  simp only [run_bind, mergeLayers_run] at h
  split at h
  · exact absurd h error_ne_ok
  · next valid =>
    exact ⟨Option.eq_none_iff_forall_ne_some.2 valid, (Prod.mk.inj h).2.symm⟩

/-- Starting the watcher leaves the layers alone. -/
theorem startWatching_layers (fs : FileSystem) (s : Store) :
    ((startWatching fs).run.run s).2.layers = s.layers := by
  unfold startWatching
  simp only [run_bind, run_get]
  split
  · split
    · rfl
    · rfl
  · rfl

/-- The merged settings of a configuration whose cache is sound are the cached merge. -/
theorem merged_merge {s : Store} (sound : s.layers.Sound) :
    ({ s with layers := s.layers.merge.2 } : Store).merged = s.layers.merge.1 := by
  simp only [merged, LayerSet.merge_layers, sound.merge_fst]

/-- **A load that succeeds leaves its merged settings validated**, the configuration loaded
and the cache sound. -/
theorem load_validated {s s' : Store} (sound : s.layers.Sound) {fs : FileSystem}
    (h : (load fs).run.run s = (.ok (), s')) :
    validate s'.merged = none ∧ s'.loaded = true ∧ s'.layers.Sound := by
  unfold load at h
  obtain ⟨_, s₁, laid, h⟩ := bind_ok h
  have sound₁ : s₁.layers.Sound := by simpa [laid] using keepsSound_layDown fs s sound
  obtain ⟨_, s₂, checked, h⟩ := bind_ok h
  obtain ⟨valid, rfl⟩ := check_ok checked
  obtain ⟨_, s₃, watched, h⟩ := bind_ok h
  have layers₃ := startWatching_layers fs { s₁ with layers := s₁.layers.merge.2 }
  rw [watched] at layers₃
  dsimp only at layers₃
  rw [run_modify, Prod.mk.injEq] at h
  obtain ⟨-, rfl⟩ := h
  -- the watcher and the flag leave the layers as the check cached them
  refine ⟨?_, rfl, layers₃ ▸ sound₁.merge⟩
  have same : ({ s₃ with loaded := true } : Store).merged =
      ({ s₁ with layers := s₁.layers.merge.2 } : Store).merged := by
    simp only [merged, layers₃]
  rw [same, merged_merge sound₁]
  exact valid

/-- **A checked update that succeeds leaves its merged settings validated**, when the change
keeps the cache sound. -/
theorem update_validated {s s' : Store} (sound : s.layers.Sound) {source : Source}
    {change : LayerSet → LayerSet} (keeps : ∀ L : LayerSet, L.Sound → (change L).Sound)
    (h : (update source change true).run.run s = (.ok (), s')) :
    validate s'.merged = none ∧ s'.loaded = s.loaded ∧ s'.layers.Sound := by
  have sound₂ := keeps _ sound.merge
  rw [update_run] at h
  rcases commitLayers_cases source change true s.layers with ⟨f, -, -, hc⟩ | ⟨passed, hc⟩
  · -- a failed validation is taken back and returned
    simp only [hc] at h
    exact absurd h error_ne_ok
  · simp only [hc] at h
    obtain ⟨-, rfl⟩ := h
    refine ⟨?_, rfl, sound₂.merge⟩
    simp only [merged, LayerSet.merge_layers, ← sound₂.merge_fst]
    exact passed rfl

/-- **Setting a value on a loaded configuration**, when it succeeds, leaves the merged settings
validated. -/
theorem setValue_validated {s s' : Store} (sound : s.layers.Sound) (loaded : s.loaded = true)
    {path : String} {v : Datum} (h : (setValue path v).run.run s = (.ok (), s')) :
    validate s'.merged = none ∧ s'.loaded = true ∧ s'.layers.Sound := by
  rw [setValue_run] at h
  split at h
  · exact absurd h error_ne_ok
  · rw [loaded] at h
    obtain ⟨valid, same, sound'⟩ := update_validated sound (fun _ hL ↦ hL.put _) h
    exact ⟨valid, same.trans loaded, sound'⟩

end LuaDebugger.Config.Store

namespace LuaDebugger.App

/-- A fold through `Except` that succeeds ends in a state where an invariant of its steps
holds, when it held at the start. -/
theorem foldlM_invariant {α β ε : Type} {P : β → Prop} {f : β → α → Except ε β}
    (step : ∀ b a b', P b → f b a = .ok b' → P b') :
    ∀ (l : List α) (b b' : β), P b → l.foldlM f b = .ok b' → P b'
  | [], b, b', hb, h => by
    rw [List.foldlM_nil] at h
    cases h
    exact hb
  | a :: l, b, b', hb, h => by
    rw [List.foldlM_cons] at h
    cases hf : f b a with
    | error e =>
      rw [hf] at h
      cases h
    | ok c =>
      rw [hf] at h
      exact foldlM_invariant step l c b' (step b a c hb hf) h

/-- The configuration loaded at startup, with the command line's settings set in turn, has
its merged settings validated. -/
theorem loadConfig_validated {fs : FileSystem} {cwd : String} {opts : Options} {st : Config.Store}
    (h : loadConfig fs cwd opts = .ok st) : Config.validate st.merged = none := by
  unfold loadConfig at h
  dsimp only at h
  split at h
  · cases h
  · next loaded_st loaded =>
    have start := Config.Store.load_validated Config.LayerSet.sound_empty loaded
    -- each setting set keeps the configuration loaded, validated and its cache sound
    refine (foldlM_invariant (P := fun st : Config.Store ↦
      Config.validate st.merged = none ∧ st.loaded = true ∧ st.layers.Sound) ?_ _ _ _ start h).1
    rintro st₁ ⟨path, v⟩ st₂ ⟨-, loaded₁, sound₁⟩ hstep
    dsimp only at hstep
    split at hstep
    · cases hstep
    · next set =>
      cases hstep
      exact Config.Store.setValue_validated sound₁ loaded₁ set

/-- **Building the application fails only where loading the configuration fails**: the
configuration loaded is validated, so the server's configuration is always built from it. -/
theorem bootstrap_fails_only_loading {id : String} {fs : FileSystem} {cwd : String}
    {opts : Options} {e : AppFault} (h : bootstrap id fs cwd opts = .error e) :
    loadConfig fs cwd opts = .error e := by
  unfold bootstrap at h
  cases hl : loadConfig fs cwd opts with
  | error f =>
    rw [hl] at h
    simp only [bind, Except.bind, Except.error.injEq] at h
    rw [h]
  | ok st =>
    obtain ⟨p, hp⟩ := (Config.sectionsInDomain_of_valid (loadConfig_validated hl)).policy
    rw [hl] at h
    simp only [bind, Except.bind, pure, Except.pure, Config.serverConfig_of_policy hp] at h
    cases h

/-- **Validated settings read within their domains.** On a configuration that `validate`
accepts, the sections keep every promise of `Config.Tree.SectionsInDomain`: no field falls back
on a setting present; the port is in `[0, 65535]`, the send queue and the engine's queue size in
`[1, 2^20]` and the longest line in `[64, 2^30]`, each the very integer the setting stands for,
an unsigned or a float one included; the write timeout is positive and the log level the name
of a level. The policy is named `report` or `ignore`, so the server's configuration is built
from the section, field by field. On any configuration, an integer setting that is an unsigned
integer from `2^63`, or a float that is NaN, infinite or not integral, is refused. The
configuration the application loads passes `validate`, so building the application fails only
where loading the configuration fails, never at the server. -/
theorem validated_sections_read_within_domains :
    (∀ t : Config.Tree, Config.validate t = none → t.SectionsInDomain ∧
      ∃ p : UnknownPolicy, t.server.unknownCommands = .text p.name ∧
        serverConfig t.server =
          .ok { host := textOf t.server.host, port := t.server.port,
                sendQueue := t.server.sendQueue, maxLineBytes := t.server.maxLineBytes,
                writeTimeout := t.server.writeTimeout, policy := p }) ∧
    (∀ t : Config.Tree, ∀ path ∈ ["server.port", "server.send_queue", "server.max_line_bytes",
        "engine.queue_size"],
      (∀ n : Nat, 2 ^ 63 ≤ n → n < 2 ^ 64 → t.get? path = some (.uint64 n) →
        Config.validate t ≠ none) ∧
      (∀ x : Float, (∀ n : Int, ¬(Decimal.isFinite x = true ∧ Decimal.exactValue x = n)) →
        t.get? path = some (.float x) → Config.validate t ≠ none)) ∧
    ∀ (id : String) (fs : FileSystem) (cwd : String) (opts : Options),
      (∀ st, loadConfig fs cwd opts = .ok st → Config.validate st.merged = none) ∧
      ∀ e, bootstrap id fs cwd opts = .error e → loadConfig fs cwd opts = .error e := by
  refine ⟨fun t valid ↦ ?_, fun t path hp ↦ ⟨fun n wide fits at_path valid ↦ ?_,
    fun x none_ at_path valid ↦ ?_⟩, fun _ _ _ _ ↦
      ⟨fun _ ↦ loadConfig_validated, fun _ ↦ bootstrap_fails_only_loading⟩⟩
  · have sections := Config.sectionsInDomain_of_valid valid
    obtain ⟨p, hp⟩ := sections.policy
    exact ⟨sections, p, hp, Config.serverConfig_of_policy hp⟩
  -- a refused setting: the field reading it would stand for an integer of its range
  · obtain ⟨_, _, _, _, hhi, reads⟩ := (Config.sectionsInDomain_of_valid valid).readsInteger hp
    exact reads.get?_ne_wide hhi wide fits at_path
  · obtain ⟨_, _, _, _, _, reads⟩ := (Config.sectionsInDomain_of_valid valid).readsInteger hp
    exact reads.get?_ne_float none_ at_path

end LuaDebugger.App
