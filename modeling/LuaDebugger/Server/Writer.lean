import LuaDebugger.CoreInstances
import Mathlib.Logic.Relation
/-!
# The writer of a connection, step by step

A connection's outgoing messages pass through a queue of bounded size to one writer, which
writes them to the socket one at a time. The calls that queue messages, the hangup and the
writer run at the same time and take their steps in any order; `Wire.Step` states each step
as the program takes it.

* A call of `send` or `trySend` first looks whether the connection was hung up or closed and
  fails if so; a call that passes that look is an offer (`call`).
* An offer puts its message at the end of the queue when there is room (`accept`): that is
  the moment the call succeeds. An offer of `trySend` that finds the queue full fails at once;
  an offer of `send` waits for room, and gives up when the connection closes or its caller
  stops waiting (`giveUp`). Nothing stops an offer that passed its look before the hangup
  from queueing its message after it.
* `hangup` marks the connection hung up, for good.
* The writer takes the first queued message (`take`) and writes it (`write`), or the write
  fails (`writeFails`) and the writer closes the connection. Once the connection is hung up, a
  writer that finds the queue empty closes it (`finish`): the writer's loop may notice the
  hangup before the queue or after, but it empties the queue without waiting before it
  returns, and returns only when the queue is empty.

The writer is the only one here that closes the connection: closing from outside is left out.
`Connection` is the same connection run one call at a time, its writer going as far as it can
at once after each call (`Connection.settle`); each of its runs is one of the schedules here
(`Connection.calls_are_wire_schedules`).
-/

namespace LuaDebugger.Server

/-- What the writer of a connection is doing. -/
inductive WriterState where
  /-- Waiting for a message, or for the hangup. -/
  | waiting
  /-- Writing a message it took from the queue. -/
  | writing (msg : ByteArray)
  /-- Returned, having closed the connection; `clean` when no write failed. -/
  | closed (clean : Bool)
  deriving DecidableEq, Inhabited

namespace WriterState

/-- The message the writer holds, if any. -/
def held : WriterState → List ByteArray
  | .writing m => [m]
  | _ => []

/-- Whether the writer has closed the connection. -/
def isClosed : WriterState → Bool
  | .closed _ => true
  | _ => false

end WriterState

/-- A call of `send`, which waits for room, or of `trySend`, which does not, that found the
connection neither hung up nor closed. -/
structure Offer where
  /-- The message to queue. -/
  msg : ByteArray
  /-- Whether the call waits for room. -/
  waits : Bool
  deriving DecidableEq, Inhabited

/-- A connection as its calls and its writer share it. -/
structure Wire where
  /-- How many messages the queue holds. -/
  capacity : Nat
  /-- The messages queued and not taken by the writer. -/
  queue : List ByteArray := []
  /-- Whether the connection was hung up. -/
  hungUp : Bool := false
  /-- What the writer is doing. -/
  writer : WriterState := .waiting
  /-- The calls waiting to queue their message. -/
  offers : List Offer := []
  /-- What the socket took, in order. -/
  written : List ByteArray := []
  /-- The messages of the calls that succeeded, in the order they entered the queue. -/
  accepted : List ByteArray := []
  deriving Inhabited

namespace Wire

/-- A fresh connection whose queue holds `capacity` messages. -/
def new (capacity : Nat) : Wire := { capacity }

/-- Whether a call fails at its first look: the connection was hung up or closed. -/
def refuses (w : Wire) : Bool := w.hungUp || w.writer.isClosed

/-- The steps of the calls, the hangup and the writer. -/
inductive Step : Wire → Wire → Prop
  /-- A call finds the connection open and not hung up, and offers its message. -/
  | call (w : Wire) (o : Offer) (h : w.refuses = false) :
      Step w { w with offers := w.offers ++ [o] }
  /-- An offer queues its message: its call succeeds. -/
  | accept (w : Wire) (o : Offer) (ho : o ∈ w.offers) (hroom : w.queue.length < w.capacity) :
      Step w { w with
        queue := w.queue ++ [o.msg]
        accepted := w.accepted ++ [o.msg]
        offers := w.offers.erase o }
  /-- An offer fails: `trySend` on a full queue, or `send` whose caller stops waiting or whose
  connection closed. -/
  | giveUp (w : Wire) (o : Offer) (ho : o ∈ w.offers)
      (h : o.waits = true ∨ w.capacity ≤ w.queue.length) :
      Step w { w with offers := w.offers.erase o }
  /-- The connection is hung up. -/
  | hangup (w : Wire) : Step w { w with hungUp := true }
  /-- The writer takes the first queued message. -/
  | take (w : Wire) (m : ByteArray) (rest : List ByteArray) (hw : w.writer = .waiting)
      (hq : w.queue = m :: rest) : Step w { w with writer := .writing m, queue := rest }
  /-- The socket takes the message. -/
  | write (w : Wire) (m : ByteArray) (hw : w.writer = .writing m) :
      Step w { w with writer := .waiting, written := w.written ++ [m] }
  /-- The write fails, and the writer closes the connection. -/
  | writeFails (w : Wire) (m : ByteArray) (hw : w.writer = .writing m) :
      Step w { w with writer := .closed false }
  /-- Hung up and with nothing queued, the writer closes the connection. -/
  | finish (w : Wire) (hw : w.writer = .waiting) (hh : w.hungUp = true) (hq : w.queue = []) :
      Step w { w with writer := .closed true }

/-- Any number of steps. -/
abbrev Steps : Wire → Wire → Prop := Relation.ReflTransGen Step

end Wire

end LuaDebugger.Server
