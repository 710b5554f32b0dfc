import Switchboard.Live.Link
import Switchboard.Realtime.Config
import Switchboard.Time.Monotonic
/-
# The live world

The live world is the hub with a transport for every connection that joined, a clock
for the transports (nanoseconds since the world started, apart from the hub's own
clock that dates records), the reading of the monotonic clock when it started, the
presence ticker's next tick, and the frames written so far.

The presence ticker sets its first tick one interval after the start on the monotonic
clock; when that reading does not exist (the interval is zero, or too long for the
clock) the ticker's task panics at once and never ticks.

After anything happens, the loops run until none of them has more to do
(`World.settle`). One round of that runs, in order:

1. one turn of every running write loop: one branch of its select (`Branch`). Of the
   ready branches the world takes the close branch, which flushes the queue, writes the
   close frame and ends the loop, before the receive branch, which writes the oldest
   envelope waiting. A write that fails ends the loop without writing anything more;
   either way the loop's end drops its queue and removes the connection.
2. every running read loop whose connection has a close reason, or whose read deadline
   has passed: it ends and removes the connection.
3. the notification work that handlers handed off.

Removing a connection from the registry records the normal close on it unless a reason
is there already, so a connection ends with exactly one close frame, carrying the first
reason recorded, unless its transport stopped taking writes first.
-/
namespace Switchboard.Live

open Wire Time

def nanosPerMilli : Nat := 1000000

/-- The realtime core with live transports. The clock is transport time, nanoseconds since the
world started; `presenceNext` is none once the presence ticker stopped or when it never runs;
the outbox holds the frames written, oldest first, with the connection each went to. -/
structure World where
  hub : Hub
  config : Config
  links : List Link := []
  clock : Nat := 0
  origin : Monotonic := Monotonic.boot
  presenceNext : Option Nat
  outbox : List (ConnId × Frame) := []

namespace World

/-- A world on a hub with no connections yet, started at the monotonic reading `origin`. The
presence ticker first ticks one interval after the start. -/
def start (hub : Hub) (config : Config) (origin : Monotonic := Monotonic.boot) : World :=
  let p := config.presenceInterval.totalNanos
  { hub, config, origin, presenceNext := if p ≠ 0 ∧ origin.fits p then some p else none }

def pongWaitNanos (w : World) : Nat := w.config.pongWait.totalNanos

def link? (w : World) (c : ConnId) : Option Link := w.links.find? (·.conn == c)

def updateLink (w : World) (c : ConnId) (f : Link → Link) : World :=
  { w with links := w.links.map fun l => if l.conn == c then f l else l }

def emit (w : World) (c : ConnId) (f : Frame) : World := { w with outbox := w.outbox ++ [(c, f)] }

def closeConn (w : World) (c : ConnId) (r : CloseReason) : World :=
  { w with hub := (w.hub.closeConn c r).2 }

def removeClient (w : World) (c : ConnId) : World := { w with hub := (w.hub.unregister c).2 }

/-- The read loop ends: the peer's frames no longer reach it, and the connection is
removed. -/
def endReading (w : World) (c : ConnId) : World :=
  (w.updateLink c fun l => { l with reading := false }).removeClient c

/-- The write loop's task is gone: nothing more is written and its queue is dropped, so that
offers fail. -/
def dropWriter (w : World) (c : ConnId) : World :=
  let w := w.updateLink c fun l => { l with writing := false }
  { w with hub := w.hub.updateConn c fun x => { x with egress := x.egress.discard } }

def endWriting (w : World) (c : ConnId) : World := (w.dropWriter c).removeClient c

def emitAll (w : World) (c : ConnId) (fs : List Frame) : World := fs.foldl (fun w f => w.emit c f) w

/-- The write loop of a link takes branch `b` of its select on the connection's record `x`.
Over a transport that refuses writes the loop ends having written nothing. -/
def takeBranch (w : World) (l : Link) (x : Connection) (b : Branch) : World :=
  let (fs, q, going) := b.take x
  if l.sinkOk then
    let w := { w with hub := w.hub.updateConn l.conn fun x => { x with egress := q } }
    let w := w.emitAll l.conn fs
    if going then w else w.endWriting l.conn
  else w.endWriting l.conn

/-- The branch the world's write loop takes between heartbeats: the close branch whenever it is
ready, else the receive branch when an envelope waits. -/
def pick? (x : Connection) : Option Branch :=
  if x.closeReason.isSome then some .shut
  else if x.egress.items.isEmpty then none
  else some .recv

def writeTurn (w : World) (l : Link) : Bool × World :=
  if !l.writing then (false, w)
  else
    match w.hub.conn? l.conn with
    | none => (false, w)
    | some x =>
      match pick? x with
      | none => (false, w)
      | some b => (true, w.takeBranch l x b)

/-- One turn of a link's read loop between frames: it ends once its connection has a
close reason or its deadline has passed; whether it did. -/
def readTurn (w : World) (l : Link) : Bool × World :=
  if !l.reading then (false, w)
  else if (w.hub.conn? l.conn).any (·.isClosed) || l.deadline ≤ w.clock then (true, w.endReading l.conn)
  else (false, w)

def turns (turn : World → Link → Bool × World) (cs : List ConnId) (w : World) : Bool × World :=
  cs.foldl (fun (p, w) c =>
    match w.link? c with
    | some l => let (q, w) := turn w l; (p || q, w)
    | none => (p, w)) (false, w)

/-- One round: write loops, then read loops, then handed-off work; whether anything
happened. -/
def round (w : World) : Bool × World :=
  let cs := w.links.map (·.conn)
  let (p, w) := turns writeTurn cs w
  let (q, w) := turns readTurn cs w
  let r := !w.hub.handoffs.isEmpty
  (p || q || r, { w with hub := w.hub.runHandoffs })

def settleWithin : Nat → World → World
  | 0, w => w
  | n + 1, w =>
    let (p, w') := w.round
    if p then settleWithin n w' else w'

/-- The envelopes waiting in queues, and the handed-off work, each piece of which queues at
most one more. -/
def backlog (w : World) : Nat :=
  w.hub.conns.foldl (fun n x => n + x.egress.items.length) 0 + w.hub.handoffs.length

/-- Runs the loops until none has anything to do. Each round that does something ends a
loop, takes an envelope from a queue, or runs the handed-off work, so two rounds per link,
one per envelope waiting or to come, and a few more suffice. -/
def settle (w : World) : World := w.settleWithin (2 * w.links.length + w.backlog + 4)

def takeOutbox (w : World) : List (ConnId × Frame) × World := (w.outbox, { w with outbox := [] })

end World

end Switchboard.Live
