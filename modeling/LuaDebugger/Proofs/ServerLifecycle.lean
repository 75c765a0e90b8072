import LuaDebugger.App.Application
import LuaDebugger.Proofs.ConnectionRegistry
/-!
# Starting and stopping the server

A server is stopped or listening, and holds a listener exactly when it listens: this is
`Listener.Consistent`, true of a new server and kept by every call on it (`Listener.Call`:
starting, stopping, broadcasting, changing the policy, and any call on its connections).

Starting fails before anything changes, on a server already listening, on an address that
cannot be listened on and on a listen the operating system refuses (its answer is a parameter
of each start), so a failed start hands back the server and the engine it was given.
Stopping a stopped server does nothing. Stopping a listening server lets the listener go,
says goodbye to every connection, after which none is registered (`Manager.count_closeAll`),
and clears the engine's output hook, so the program's output no longer goes to clients.

Main statement: `Listener.lifecycle_keeps_listener_and_phase_together`.
-/

namespace LuaDebugger.Server

/-- Closing all leaves no connection registered. -/
theorem Manager.count_closeAll (m : Manager) : m.closeAll.count = 0 := by
  unfold Manager.count Manager.closeAll
  rw [List.length_eq_zero_iff, List.filter_eq_nil_iff]
  intro c hc
  obtain ⟨d, _, rfl⟩ := List.mem_map.1 hc
  -- a registered connection is unregistered, the others already were; expiry keeps that
  rw [(Connection.keeps_expire _).registered]
  split
  · simp
  · assumption

namespace Listener

variable {σ : Type} [OutputHook σ] {s : Listener} {e : σ}

/-! ### Starting and stopping, case by case -/

theorem listening_eq_true : s.listening = true ↔ s.phase = .listening := by
  simp [listening]

theorem listening_eq_false : s.listening = false ↔ s.phase = .stopped := by
  cases hp : s.phase <;> simp [listening, hp]

theorem start_of_listening (h : s.phase = .listening) (refusal : Option String) :
    s.start e refusal = (s, e, some runningMessage) :=
  if_pos h

theorem start_of_fault {f : String} (h : s.phase = .stopped)
    (hf : listenFault? s.config.address = some f) (refusal : Option String) :
    s.start e refusal = (s, e, some ("listen on " ++ s.config.address ++ ": " ++ f)) := by
  rw [start, if_neg (by simp [h])]
  simp only [hf, Option.some_or]

/-- A listen the operating system refuses fails with its text and changes nothing. -/
theorem start_of_refusal {f : String} (h : s.phase = .stopped)
    (hf : listenFault? s.config.address = none) :
    s.start e (some f) = (s, e, some ("listen on " ++ s.config.address ++ ": " ++ f)) := by
  rw [start, if_neg (by simp [h])]
  simp only [hf, Option.none_or]

theorem start_of_listen (h : s.phase = .stopped) (hf : listenFault? s.config.address = none) :
    s.start e =
      ({ s with phase := .listening, socket := some s.config.address, conns := s.conns.reopen },
        OutputHook.setOutput e true, none) := by
  rw [start, if_neg (by simp [h])]
  simp only [hf, Option.none_or]

theorem shutdown_of_stopped (h : s.phase = .stopped) : s.shutdown e = (s, e) :=
  if_pos h

theorem shutdown_of_listening (h : s.phase = .listening) :
    s.shutdown e = ({ s with phase := .stopped, socket := none, conns := s.conns.closeAll },
      OutputHook.setOutput e false) :=
  if_neg (by simp [h])

/-! ### Calls on the server -/

/-- A call on the server. -/
inductive Call where
  /-- Starts listening, the operating system answering the listen with `refusal`. -/
  | start (refusal : Option String)
  | shutdown
  | broadcast (msg : ByteArray)
  | setPolicy (p : UnknownPolicy)
  /-- A call on the connections, by the loop accepting clients or by a client's handler. -/
  | conns (call : Manager.Call)

/-- The server and its engine after a call. -/
def Call.apply : Call → Listener × σ → Listener × σ
  | .start refusal, (s, e) => ((s.start e refusal).1, (s.start e refusal).2.1)
  | .shutdown, (s, e) => s.shutdown e
  | .broadcast msg, (s, e) => (s.broadcast msg, e)
  | .setPolicy p, (s, e) => (s.setPolicy p, e)
  | .conns call, (s, e) => ({ s with conns := call.apply s.conns }, e)

/-- The server and its engine after calls, one after another. -/
def run (se : Listener × σ) (calls : List Call) : Listener × σ :=
  calls.foldl (fun se call ↦ call.apply se) se

/-! ### Listening and holding a listener -/

/-- A server listens exactly when it holds a listener. -/
def Consistent (s : Listener) : Prop := s.phase = .listening ↔ s.socket.isSome = true

theorem consistent_new (cfg : ServerConfig) : (new cfg).Consistent := by
  simp [Consistent, new]

theorem Consistent.start (h : s.Consistent) (e : σ) (refusal : Option String) :
    (s.start e refusal).1.Consistent := by
  cases hp : s.phase with
  | listening => rwa [start_of_listening hp]
  | stopped =>
    cases hf : listenFault? s.config.address with
    | some f => rwa [start_of_fault hp hf]
    | none =>
      cases refusal with
      | some f => rwa [start_of_refusal hp hf]
      | none =>
        rw [start_of_listen hp hf]
        simp [Consistent]

theorem Consistent.shutdown (h : s.Consistent) (e : σ) : (s.shutdown e).1.Consistent := by
  cases hp : s.phase with
  | stopped => rwa [shutdown_of_stopped hp]
  | listening =>
    rw [shutdown_of_listening hp]
    simp [Consistent]

/-- **Every call keeps the server consistent**: only starting and stopping touch the phase or
the listener. -/
theorem Consistent.apply {se : Listener × σ} (h : se.1.Consistent) :
    ∀ call : Call, (call.apply se).1.Consistent
  | .start refusal => h.start se.2 refusal
  | .shutdown => h.shutdown se.2
  | .broadcast _ => h
  | .setPolicy _ => h
  | .conns _ => h

theorem Consistent.run {se : Listener × σ} (h : se.1.Consistent) (calls : List Call) :
    (run se calls).1.Consistent := by
  induction calls generalizing se with
  | nil => exact h
  | cons call calls ih => exact ih (h.apply call)

/-- A consistent server that is stopped holds no listener. -/
theorem Consistent.socket_eq_none (h : s.Consistent) (hp : s.phase = .stopped) :
    s.socket = none := by
  cases hsock : s.socket with
  | none => rfl
  | some _ =>
    have listening := h.2 (by simp [hsock])
    rw [hp] at listening
    cases listening

/-- A start that reports nothing got past both of its checks: the server was stopped and its
address can be listened on. -/
theorem checks_of_start (hs : (s.start e).2.2 = none) :
    s.phase = .stopped ∧ listenFault? s.config.address = none := by
  cases hp : s.phase with
  | listening => simp [start_of_listening hp] at hs
  | stopped =>
    cases hf : listenFault? s.config.address with
    | some f => simp [start_of_fault hp hf] at hs
    | none => exact ⟨rfl, rfl⟩

/-! ### The lifecycle -/

/-- **Starting and stopping keep the listener and the phase together.** Over every run of calls
on a new server, from any engine: the server listens exactly when it holds a listener.
Starting a listening server fails with `runningMessage` and changes nothing. Starting a
stopped server whose address cannot be listened on fails with the reason and changes neither
the server, which holds no listener, nor the engine. A start that succeeds leaves the server
listening on its address, with the connections accepted again and the engine's output going to
the clients. Stopping a stopped server changes nothing, and stopping a listening server leaves
it stopped, with no listener and no connection registered, and the engine's output no longer
going to the clients. -/
theorem lifecycle_keeps_listener_and_phase_together (cfg : ServerConfig) (e₀ : Script.Engine)
    (calls : List Call) :
    let s := (run (new cfg, e₀) calls).1
    let e := (run (new cfg, e₀) calls).2
    (s.listening = true ↔ s.socket.isSome = true) ∧
    (s.listening = true → s.start e = (s, e, some runningMessage)) ∧
    (∀ f, s.listening = false → listenFault? s.config.address = some f →
      s.start e = (s, e, some ("listen on " ++ s.config.address ++ ": " ++ f)) ∧
        s.socket = none) ∧
    ((s.start e).2.2 = none → (s.start e).1.listening = true ∧
      (s.start e).1.socket = some s.config.address ∧ (s.start e).1.conns.closed = false ∧
      (s.start e).2.1.capture = true) ∧
    (s.listening = false → s.shutdown e = (s, e)) ∧
    (s.listening = true → (s.shutdown e).1.listening = false ∧ (s.shutdown e).1.socket = none ∧
      (s.shutdown e).1.connections = 0 ∧ (s.shutdown e).2.capture = false) := by
  intro s e
  have h : s.Consistent := @Consistent.run _ _ (new cfg, e₀) (consistent_new cfg) calls
  refine ⟨listening_eq_true.trans h, fun hl ↦ start_of_listening (listening_eq_true.1 hl) none,
    fun f hl hf ↦ ⟨start_of_fault (listening_eq_false.1 hl) hf none,
      h.socket_eq_none (listening_eq_false.1 hl)⟩, fun hs ↦ ?_,
    fun hl ↦ shutdown_of_stopped (listening_eq_false.1 hl), fun hl ↦ ?_⟩
  · obtain ⟨hp, hf⟩ := checks_of_start hs
    rw [start_of_listen hp hf]
    exact ⟨rfl, rfl, rfl, rfl⟩
  · rw [shutdown_of_listening (listening_eq_true.1 hl)]
    exact ⟨rfl, rfl, Manager.count_closeAll s.conns, rfl⟩

end Listener

end LuaDebugger.Server
