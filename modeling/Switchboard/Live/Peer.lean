import Switchboard.Live.World
/-
# Peers: joining and sending frames

`World.join` accepts a connection over a fresh transport: the connection is made
(validated now), registered, and, when other users are online, sent a snapshot of them
(sorted by id, one entry per user, nobody offline). Its read deadline falls one read
deadline after now and its first ping one heartbeat period after now, both set on the
monotonic clock. A loop whose first time has no reading, or a heartbeat with no period
(zero, or too large to compute), panics as it starts: it never runs and does not remove
the connection, and a write loop that never runs drops its queue at once.

`World.receive` hands one peer event to the connection's read loop, if that still runs
(the answer says whether it did). The read loop handles

* a text frame: longer than the frame limit (in UTF-8 bytes) closes with 1009; text
  that is not an envelope closes with 1007; otherwise the event is routed. A failed
  session check has closed and removed the connection already, a store failure closes
  it with 1011, and both end the loop; any other failure leaves the loop running.
* a binary frame: closes with 1007 and ends the loop.
* a pong: the read deadline moves to one read deadline after now. A ping does nothing.
* a close frame, the end of the stream, or a read error: the loop ends.

A loop that ends removes its connection; the loops then settle.
-/
namespace Switchboard.Live

open Wire Time

namespace World

/-- Accepts a connection for an identity over a new transport. -/
def join (w : World) (identity : Identity) : ConnId × World :=
  let (c, hub) := w.hub.accept identity w.config.egressCapacity
  let heartbeat := match w.config.pingInterval? with
    | some d =>
      if d.totalNanos ≠ 0 ∧ w.origin.fits (w.clock + d.totalNanos) then
        some ⟨w.clock + d.totalNanos, d.totalNanos⟩
      else none
    | none => none
  let link : Link := {
    conn := c
    reading := w.origin.fits (w.clock + w.pongWaitNanos)
    deadline := w.clock + w.pongWaitNanos
    heartbeat }
  let w := { w with hub, links := w.links ++ [link] }
  let w := if heartbeat.isNone then w.dropWriter c else w
  (c, w.settle)

/-- The read loop fails on an error of a routed event: a store failure closes the
connection with 1011; the loop then ends. -/
def failRead (w : World) (c : ConnId) (e : RealtimeError) : World :=
  match e with
  | .store _ => (w.closeConn c .internalError).endReading c
  | _ => w.endReading c

/-- The read loop after routing an event, from the handler's answer and the hub it left: a
fatal failure ends the loop. -/
def afterRoute (w : World) (c : ConnId) : Except RealtimeError Unit × Hub → World
  | (.ok (), hub) => { w with hub }
  | (.error e, hub) =>
    let w := { w with hub }
    if e.isFatal then w.failRead c e else w

def readText (w : World) (c : ConnId) (text : String) : World :=
  if text.utf8ByteSize > w.config.maxFrameSize then (w.closeConn c .messageTooBig).endReading c
  else
    match Inbound.read text with
    | .error _ => (w.closeConn c .invalidPayload).endReading c
    | .ok env => w.afterRoute c (StateT.run (ExceptT.run (route c env.tag env.payload)) w.hub)

def readEvent (w : World) (c : ConnId) : PeerEvent → World
  | .text s => w.readText c s
  | .binary => (w.closeConn c .invalidPayload).endReading c
  | .ping => w
  | .pong => w.updateLink c fun l => { l with deadline := w.clock + w.pongWaitNanos }
  | .closeFrame | .hangUp | .streamError => w.endReading c

/-- A peer event reaches the connection's read loop, if it runs; whether it did. -/
def receive (w : World) (c : ConnId) (ev : PeerEvent) : Bool × World :=
  match w.link? c with
  | some l => if l.reading then (true, (w.readEvent c ev).settle) else (false, w)
  | none => (false, w)

/-- From now on every write to the connection's transport fails. -/
def breakSink (w : World) (c : ConnId) : World :=
  (w.updateLink c fun l => { l with sinkOk := false }).settle

end World

end Switchboard.Live
