import Switchboard.Handlers.Router
/-
# Links: the transport of a live connection

A live connection talks to its peer over a transport, a pair of one-way channels: the
peer's frames come in, the server's frames go out. Two loops work it. The read loop
takes the peer's frames one at a time under a rolling read deadline; the write loop is
the only writer, sending the connection's queued events, a heartbeat ping now and then,
and at the end one close frame.

A `Link` is that transport's state as the loops see it: whether each loop still runs,
whether writes still succeed, when the read deadline falls, and when the next ping is
due. Times are nanoseconds since the world started.
-/
namespace Switchboard.Live

open Wire

inductive Frame where
  | text (e : Envelope)
  | ping
  | close (r : CloseReason)

/-- What a peer can do to its side of the transport: send a frame, hang up (the read loop sees
the end of the stream), or make reading fail with a transport error. -/
inductive PeerEvent where
  | text (s : String)
  | binary
  | ping
  | pong
  | closeFrame
  | hangUp
  | streamError

/-- A branch of the write loop's select: the close reason arrived, an envelope waits in the
queue, or the heartbeat is due. Each turn of the loop takes one ready branch, picked at random. -/
inductive Branch where
  | shut
  | recv
  | tick
  deriving DecidableEq, Repr

namespace Branch

/-- Whether a branch is ready for the connection's record; the heartbeat's readiness is its
timer's. -/
def ready (x : Connection) : Branch → Bool
  | .shut => x.closeReason.isSome
  | .recv => !x.egress.items.isEmpty
  | .tick => true

/-- What a branch does when taken: the frames it writes, the queue it leaves, and whether the
loop goes on. The close branch closes the queue, writes what waits and then the close frame,
and ends the loop; the receive branch writes the oldest envelope waiting. -/
def take (x : Connection) : Branch → List Frame × Egress × Bool
  | .shut => (x.egress.items.map .text ++ (x.closeReason.map .close).toList, x.egress.discard, false)
  | .recv =>
    match x.egress.items with
    | [] => ([], x.egress, true)
    | e :: es => ([.text e], { x.egress with items := es }, true)
  | .tick => ([.ping], x.egress, true)

end Branch

structure Heartbeat where
  next : Nat
  period : Nat
  deriving DecidableEq, Repr

/-- The transport of one connection: whether each loop runs (while the read loop runs the peer's
frames reach it), whether writes succeed, when the read loop gives up waiting for a frame, and
the heartbeat's next ping and period, none when the write loop could not start one. -/
structure Link where
  conn : ConnId
  reading : Bool := true
  writing : Bool := true
  sinkOk : Bool := true
  deadline : Nat
  heartbeat : Option Heartbeat
  deriving DecidableEq, Repr

namespace Link

def pinged (l : Link) : Link :=
  { l with heartbeat := l.heartbeat.map fun hb => { hb with next := hb.next + hb.period } }

def pingDue? (l : Link) : Option Nat :=
  if l.writing then l.heartbeat.map (·.next) else none

def deadlineDue? (l : Link) : Option Nat :=
  if l.reading then some l.deadline else none

end Link

end Switchboard.Live
