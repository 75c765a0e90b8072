import LuaDebugger.App.Application
import LuaDebugger.Script.Scope
import LuaDebugger.Protocol.Request
/-!
# Serving clients

Once it runs, the application serves debugger clients one after another. A client may
first change settings, then connects and sends its commands, one per line, and ends its
visit in one of two ways:

* it says `tchau`, which the server answers and then closes the connection; the client
  keeps all it read;
* or it sends an unknown command, reads up to the error frame that answers it, and then
  the application is shut down, which says goodbye to the client and closes every
  connection.

The server reads a connection line by line. A line ends at a line feed, and a carriage
return before it is dropped; a line as long as the bound on lines, or longer, ends the
reading, and the connection is dropped. Each command is answered by the dispatcher with
the server's policy of the moment. Program output produced while a command runs goes to
every open connection as a framed message: a stepping command's receipt is sent before
the program runs, so its output follows the receipt, while the output of an evaluation
comes before its answer.

A silent client may stay connected throughout: it reads only the program output and the
goodbye.
-/

namespace LuaDebugger.App

/-- How a client ends its visit. -/
inductive Farewell where
  /-- It says `tchau`. -/
  | goodbye
  /-- It sends an unknown command and then the application is shut down. -/
  | shutdown
  deriving DecidableEq

/-- What a client does over one connection. -/
structure Visit where
  /-- The settings it changes before connecting, by dotted path. -/
  sets : List (String × Datum) := []
  /-- The text it sends before its farewell. -/
  input : ByteArray
  /-- How it ends. -/
  farewell : Farewell := .goodbye

/-- What a client saw over one connection. -/
inductive Seen where
  /-- All it read, up to the end of the connection. -/
  | transcript (policy : UnknownPolicy) (text : ByteArray)
  /-- What it read before the shutdown, and what it read after. -/
  | shutdown (policy : UnknownPolicy) (before after : ByteArray)

/-- The unknown command a client sends to end its visit by a shutdown. -/
def closingCommand : ByteArray := "__fim__\n".toUTF8

/-- The command a client sends to say goodbye. -/
def goodbyeCommand : ByteArray := "tchau\n".toUTF8

/-- The complete lines of a text, each without its line feed and the carriage return
before it, and whether reading stopped at a line reaching `bound` bytes. -/
def completeLines (bytes : List UInt8) (bound : Nat) : List ByteArray × Bool :=
  let rec go (rest : List UInt8) (line : List UInt8) (n : Nat) (acc : List ByteArray) :
      List ByteArray × Bool :=
    match rest with
    | [] => (acc.reverse, false)
    | b :: more =>
      if b = 10 then
        let l := line.reverse
        let l := if l.getLast? = some 13 then l.dropLast else l
        go more [] 0 (⟨l.toArray⟩ :: acc)
      else if n + 1 ≥ bound then (acc.reverse, true)
      else go more (b :: line) (n + 1) acc
  go bytes [] 0 []

namespace Application

/-- Runs a step of the engine, keeping the state it reached. -/
def onEngine {α : Type} (a : Application) (step : StateM Script.Engine α) : Application × α :=
  let (x, e) := step.run a.engine
  ({ a with engine := e }, x)

/-- Acts on the connection numbered `id`. -/
def onConn {α : Type} (a : Application) (id : Nat) (f : Server.Connection → Server.Connection × α) :
    Application × Option α :=
  let (m, x) := a.server.conns.act id f
  ({ a with server := { a.server with conns := m } }, x)

/-- Sends text on a connection: whether it was taken. -/
def send (a : Application) (id : Nat) (msg : ByteArray) : Application × Bool :=
  let (a, r) := a.onConn id fun c ↦ c.send msg
  (a, match r with
    | some none => true
    | _ => false)

/-- All a connection's client has read. -/
def received (a : Application) (id : Nat) : ByteArray :=
  ((a.server.conns.find? id).map (·.received)).getD .empty

/-- Broadcasts the lines the program printed since `start`. -/
def broadcastFrom (a : Application) (start : Nat) : Application :=
  let lines := a.engine.output.extract start a.engine.output.size
  lines.foldl (fun a l ↦ { a with server := a.server.broadcast l }) a

/-- Answers one line of a connection: false when the connection is done. -/
def answer (a : Application) (id : Nat) (line : ByteArray) : Application × Bool :=
  match Request.ofLine? line with
  | none => (a, true)
  | some req =>
    let d := Dispatcher.new a.logger a.engine.cwd a.server.policy
    let start := a.engine.output.size
    let (a, r) := a.onEngine (d.dispatch req true)
    let (a, ok) := r.flushed.foldl (fun (a, ok) part ↦
      if ok then a.send id part else (a, ok)) (a, true)
    let a := a.broadcastFrom start
    let (a, ok) := if ok ∧ r.text.size > 0 then a.send id r.text else (a, ok)
    if !ok then (a, false)
    else if r.close then ((a.onConn id fun c ↦ (c.hangup, ())).1, false)
    else (a, true)

/-- Answers the lines of a connection in order, until one ends it. -/
def answerAll (a : Application) (id : Nat) : List ByteArray → Application
  | [] => a
  | l :: rest =>
    match a.answer id l with
    | (a, true) => a.answerAll id rest
    | (a, false) => a

/-- Connects a client that reads all it is sent: the number of its connection. -/
def connect (a : Application) : Application × Option Nat :=
  let (m, id) := a.server.conns.add true
  ({ a with server := { a.server with conns := m } }, id)

/-- Serves one visit: what the client saw, and whether the application was shut down. -/
def visit (a : Application) (v : Visit) : Application × Seen :=
  let a := v.sets.foldl (fun a (p, x) ↦ (a.set p x).1) a
  let policy := a.server.policy
  let (a, id) := a.connect
  let id := id.getD 0
  let input := v.input ++ (if v.farewell = .goodbye then goodbyeCommand else closingCommand)
  let (lines, tooLong) := completeLines input.toList a.server.config.maxLineBytes.toNat
  let a := a.answerAll id lines
  let a := if tooLong then { a with server := { a.server with conns := a.server.conns.remove id } } else a
  match v.farewell with
  | .goodbye =>
    let a := { a with server := { a.server with conns := a.server.conns.remove id } }
    (a, .transcript policy (a.received id))
  | .shutdown =>
    let before := a.received id
    let a := a.shutdown
    let all := a.received id
    (a, .shutdown policy before (all.extract before.size all.size))

/-- Serves the visits in turn, after connecting a silent client when `silent`; a visit
that shuts the application down is the last. What each client saw, and what the silent
client read. -/
def serveVisits (a : Application) (silent : Bool) (visits : List Visit) :
    Application × List Seen × Option ByteArray :=
  let (a, watcher) := if silent then a.connect else (a, none)
  let rec go (a : Application) : List Visit → Application × List Seen
    | [] => (a, [])
    | v :: rest =>
      let (a, seen) := a.visit v
      if v.farewell = .shutdown then (a, [seen])
      else
        let (a, more) := go a rest
        (a, seen :: more)
  let (a, seen) := go a visits
  let a := a.shutdown
  (a, seen, watcher.map a.received)

end Application

end LuaDebugger.App
