import LuaDebugger.Server.Address
import LuaDebugger.Server.Connection
import LuaDebugger.Protocol.Policy
/-!
# The debugger server

The server listens for debugger clients on a TCP address and keeps their connections in a
`Manager`. It is either stopped or listening:

* `start` listens on the configured address. It fails on a server already listening, and
  on an address that does not parse or whose port is out of range, before any socket is
  opened; on success the server holds the listener, the manager accepts connections again
  and the engine's program output goes to the clients.
* `shutdown` lets the listener go, stops the engine's output from reaching the clients, and
  says goodbye to every connection. On a stopped server it does nothing, so it can be
  repeated.
* `broadcast` offers program output to every connection.

The server shares its engine with the rest of the program; of the engine it only ever sets
where the program's output goes (`OutputHook`), so `start` and `shutdown` take the engine and
hand it back.

A configuration with no bound on the length of a command line takes the default bound.
-/

namespace LuaDebugger.Server

/-- The well-known port of the protocol. -/
def defaultPort : Int := 7777

/-- How a server is configured. -/
structure ServerConfig where
  /-- The host to listen on; empty listens on every interface. -/
  host : String := ""
  /-- The TCP port; zero picks a free one. -/
  port : Int := defaultPort
  /-- The length of each connection's queue. -/
  sendQueue : Int := 256
  /-- The longest command line read. -/
  maxLineBytes : Int := 2 ^ 20
  /-- The deadline of one write, in nanoseconds; zero for none. -/
  writeTimeout : Int := 10000000000
  /-- How unknown commands are answered. -/
  policy : UnknownPolicy := .report

/-- The address the server listens on. -/
def ServerConfig.address (c : ServerConfig) : String := joinHostPort c.host (toString c.port)

/-- Whether a server listens. -/
inductive Phase where
  | stopped
  | listening
  deriving DecidableEq, Inhabited

namespace Phase

/-- The name of a phase. -/
def name : Phase → String
  | .stopped => "stopped"
  | .listening => "listening"

/-- The name of the phase numbered `code`, `unknown` out of range. -/
def nameOfCode : Int → String
  | 0 => "stopped"
  | 1 => "listening"
  | _ => "unknown"

end Phase

/-- The text of starting a server that already listens. -/
def runningMessage : String := "server already listening"

/-- The hook of an engine that takes the program's output: a server that starts listening
sets it to offer each line to its clients, and one that stops clears it, after which the
engine drops the lines. -/
class OutputHook (σ : Type) where
  /-- The engine with its program output offered to the clients (`true`) or dropped. -/
  setOutput : σ → Bool → σ

/-- The state of a server. -/
structure Listener where
  /-- The configuration. -/
  config : ServerConfig
  /-- Whether the server listens. -/
  phase : Phase := .stopped
  /-- The address of the listener the server holds, if it holds one. -/
  socket : Option String := none
  /-- How unknown commands are answered now. -/
  policy : UnknownPolicy
  /-- The client connections. -/
  conns : Manager

namespace Listener

/-- A stopped server. -/
def new (cfg : ServerConfig) : Listener :=
  let cfg := if cfg.maxLineBytes ≤ 0 then { cfg with maxLineBytes := 2 ^ 20 } else cfg
  { config := cfg, policy := cfg.policy, conns := Manager.new cfg.sendQueue (cfg.writeTimeout > 0) }

variable {σ : Type} [OutputHook σ]

/-- Starts listening with the engine `e`, the operating system answering the listen with
`refusal`: none when it opens the socket, else the text of why not. The server and the engine
afterwards, and why the server did not start, if it did not: the fault of the address, else
the operating system's. -/
def start (s : Listener) (e : σ) (refusal : Option String := none) :
    Listener × σ × Option String :=
  if s.phase = .listening then (s, e, some runningMessage)
  else
    let addr := s.config.address
    match (listenFault? addr).or refusal with
    | some f => (s, e, some ("listen on " ++ addr ++ ": " ++ f))
    | none =>
      ({ s with phase := .listening, socket := some addr, conns := s.conns.reopen },
        OutputHook.setOutput e true, none)

/-- Whether the server has a listener. -/
def listening (s : Listener) : Bool := s.phase = .listening

/-- The number of connected clients. -/
def connections (s : Listener) : Nat := s.conns.count

/-- Offers program output to every client. -/
def broadcast (s : Listener) (msg : ByteArray) : Listener := { s with conns := (s.conns.broadcast msg).1 }

/-- Changes how unknown commands are answered. -/
def setPolicy (s : Listener) (p : UnknownPolicy) : Listener := { s with policy := p }

/-- Stops listening with the engine `e`: lets the listener go, clears the engine's output
hook and says goodbye to every client. A stopped server and its engine stay as they are. -/
def shutdown (s : Listener) (e : σ) : Listener × σ :=
  if s.phase = .stopped then (s, e)
  else
    ({ s with phase := .stopped, socket := none, conns := s.conns.closeAll },
      OutputHook.setOutput e false)

end Listener

end LuaDebugger.Server
