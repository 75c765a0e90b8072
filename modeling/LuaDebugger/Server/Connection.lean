import LuaDebugger.CoreInstances
/-!
# Client connections

Each client connection has a queue of outgoing text and a writer that drains it onto the
connection, one message at a time, in order. The far end of a connection may read what is
written or not:

* when it reads, every queued message reaches it at once;
* when it does not, the writer takes the first message and waits on it. Once time passes
  (`expire`), a write with a deadline fails and the writer closes the connection; without a
  deadline the writer stays stuck on its message until the connection is closed.

Sending on a connection that was hung up or closed fails with `connection closed`; a send
that finds the queue full fails, and `trySend` only reports whether the message was queued.
Hanging up lets the writer finish the queue and then close the connection; closing drops
what is still queued.

The manager numbers connections from 1, counting refused ones too, and keeps the registered
ones; a connection offered while it refuses connections is closed at once and never
registered. An offer takes its number first (`take`) and registers under the lock after
(`register`):

* `broadcast` offers program output to every registered connection, dropping it where the
  queue is full, and counts the connections that took it;
* `closeAll` refuses new connections, unregisters every connection, offers each a goodbye
  and hangs it up; `reopen` accepts connections again.

A connection that is removed from the registry or closes on its own still has a far end,
which keeps what it read, so the manager keeps every connection offered to it.
-/

namespace LuaDebugger.Server

/-- The text that frames program output. -/
def outputFrame : ByteArray := "Enviando mensagem de saída\n--- mensagem-saida ---\n".toUTF8

/-- The goodbye sent to every connection when the server stops. -/
def shutdownFrame : ByteArray := "--- finalizando ---\n".toUTF8

/-- The text of a send on a connection that was hung up or closed. -/
def closedMessage : String := "connection closed"

/-- The text of a send that found the queue full until its deadline. -/
def sendDeadlineMessage : String := "context deadline exceeded"

/-- One client connection. -/
structure Connection where
  /-- The number of the connection. -/
  id : Nat
  /-- The address of the far end. -/
  remote : String
  /-- How many messages the queue holds. -/
  capacity : Nat
  /-- Whether the far end reads what is written. -/
  peerReads : Bool
  /-- Whether a write fails at its deadline when the far end does not read. -/
  timesOut : Bool
  /-- The messages queued and not written. -/
  queue : List ByteArray := []
  /-- The message the writer is stuck on, when the far end does not read and writes have
  no deadline. -/
  stuck : Option ByteArray := none
  /-- Whether the connection was hung up. -/
  hungUp : Bool := false
  /-- Whether the connection is closed. -/
  closed : Bool := false
  /-- Whether the manager lists the connection. -/
  registered : Bool := true
  /-- What the far end has read. -/
  received : ByteArray := .empty

namespace Connection

/-- Lets the writer run until it has nothing it can do at once: a far end that reads takes
every queued message, and a writer whose far end does not read takes the first message and
waits on it. A hung-up connection closes once the writer has nothing left. -/
def settle (c : Connection) : Connection :=
  if c.closed then c
  else if c.peerReads then
    let c := { c with received := c.queue.foldl (· ++ ·) c.received, queue := [] }
    if c.hungUp then { c with closed := true } else c
  else
    let c := match c.stuck, c.queue with
      | none, m :: rest => { c with stuck := some m, queue := rest }
      | _, _ => c
    if c.hungUp && c.stuck.isNone && c.queue.isEmpty then { c with closed := true } else c

/-- Whether a message can no longer be queued. -/
def refuses (c : Connection) : Bool := c.closed || c.hungUp

/-- Queues a message, failing on a connection hung up or closed, or on a full queue. -/
def send (c : Connection) (msg : ByteArray) : Connection × Option String :=
  if c.refuses then (c, some closedMessage)
  else if c.queue.length < c.capacity then ({ c with queue := c.queue ++ [msg] }.settle, none)
  else (c, some sendDeadlineMessage)

/-- Queues a message if the connection takes it: whether it did. -/
def trySend (c : Connection) (msg : ByteArray) : Connection × Bool :=
  if c.refuses || c.queue.length ≥ c.capacity then (c, false)
  else ({ c with queue := c.queue ++ [msg] }.settle, true)

/-- Hangs up: the writer finishes the queue and then closes the connection. -/
def hangup (c : Connection) : Connection := { c with hungUp := true }.settle

/-- Closes the connection at once, dropping what is queued. -/
def close (c : Connection) : Connection :=
  { c with closed := true, queue := [], stuck := none }

/-- Lets time pass: a write that waits on a far end that does not read fails at its
deadline, and the writer closes the connection. -/
def expire (c : Connection) : Connection :=
  if c.timesOut && c.stuck.isSome then c.close else c

end Connection

/-- The registry of client connections. -/
structure Manager where
  /-- Every connection offered, by number. -/
  conns : List Connection := []
  /-- Whether new connections are refused. -/
  closed : Bool := false
  /-- The number given to the last connection offered. -/
  lastId : Nat := 0
  /-- The size of each queue; one below 1 means 256. -/
  queueSize : Int
  /-- Whether writes have a deadline. -/
  timesOut : Bool

namespace Manager

/-- A manager with no connections. -/
def new (queueSize : Int) (timesOut : Bool) : Manager := { queueSize := queueSize, timesOut := timesOut }

/-- Changes the connection numbered `id`. -/
def update (m : Manager) (id : Nat) (f : Connection → Connection) : Manager :=
  { m with conns := m.conns.map fun c ↦ if c.id = id then f c else c }

/-- The connection numbered `id`, registered or not. -/
def find? (m : Manager) (id : Nat) : Option Connection := m.conns.find? (·.id = id)

/-- Acts on the connection numbered `id`, registered or not: its answer, or `none` when
there is no such connection. -/
def act {α : Type} (m : Manager) (id : Nat) (f : Connection → Connection × α) :
    Manager × Option α :=
  match m.find? id with
  | none => (m, none)
  | some c =>
    let (c, a) := f c
    (m.update id fun _ ↦ c, some a)

/-- An offered connection, whose far end reads or not, takes the number one past the last and
is built. The counter is atomic and read before the registry's lock is taken, so other offers
may take their numbers, or register, in between. -/
def take (m : Manager) (peerReads : Bool) : Manager × Connection :=
  let id := m.lastId + 1
  let capacity := if m.queueSize ≤ 0 then 256 else m.queueSize.toNat
  ({ m with lastId := id },
    { id := id, remote := "pipe", capacity := capacity, peerReads := peerReads,
      timesOut := m.timesOut })

/-- Registers a connection that has its number, under the registry's lock: its number, or none
when connections are refused, the connection then being closed at once. The connections are
kept in the order of their numbers, the order in which a broadcast takes them. -/
def register (m : Manager) (c : Connection) : Manager × Option Nat :=
  if m.closed then
    ({ m with conns := m.conns.merge [{ c.close with registered := false }] (·.id ≤ ·.id) }, none)
  else ({ m with conns := m.conns.merge [c] (·.id ≤ ·.id) }, some c.id)

/-- Offers a connection whose far end reads or not: its number, or none when connections
are refused, the connection then being closed at once. The number is used up either way. -/
def add (m : Manager) (peerReads : Bool) : Manager × Option Nat :=
  let (m, c) := m.take peerReads
  m.register c

/-- The registered connection numbered `id`. -/
def get? (m : Manager) (id : Nat) : Option Connection :=
  m.conns.find? fun c ↦ c.id = id && c.registered

/-- Unregisters and closes the connection numbered `id`, if registered. -/
def remove (m : Manager) (id : Nat) : Manager :=
  m.update id fun c ↦ if c.registered then { c.close with registered := false } else c

/-- The number of registered connections. -/
def count (m : Manager) : Nat := (m.conns.filter (·.registered)).length

/-- Offers program output to every registered connection: how many took it. -/
def broadcast (m : Manager) (msg : ByteArray) : Manager × Nat :=
  let frame := outputFrame ++ msg ++ "\n".toUTF8
  let (conns, n) := m.conns.foldl (fun (acc, n) c ↦
    if c.registered then
      let (c, ok) := c.trySend frame
      (acc ++ [c], if ok then n + 1 else n)
    else (acc ++ [c], n)) ([], 0)
  ({ m with conns }, n)

/-- Accepts connections again. -/
def reopen (m : Manager) : Manager := { m with closed := false }

/-- Refuses new connections, then unregisters every connection, offers it the goodbye and
hangs it up, and waits for the writers to finish. -/
def closeAll (m : Manager) : Manager :=
  { m with closed := true, conns := m.conns.map fun c ↦
      let c := if c.registered then { ((c.trySend shutdownFrame).1.hangup) with registered := false }
        else c
      c.expire }

end Manager

end LuaDebugger.Server
