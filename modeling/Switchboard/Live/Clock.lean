import Switchboard.Live.Control
/-
# Time in the live world

Transport time moves only when asked to, in steps of at most ten milliseconds. After
each step every timer due by the new time goes off, earliest first (at one instant: the
presence tick, then pings in joining order, then read deadlines in joining order), and
then the loops settle.

* The presence ticker ticks every presence interval from the start: one tick diffs who
  is online and sends each registered connection its share (see `Hub.presenceTick`).
* A write loop pings every heartbeat period from its join. A ping over a transport that
  no longer takes writes ends the write loop instead.
* A read loop whose deadline is due ends, which removes its connection.

A timer that fell behind goes off once for each period it missed.
-/
namespace Switchboard.Live

namespace World

inductive Timer where
  | presence
  | ping (c : ConnId)
  | deadline (c : ConnId)

/-- Every armed timer with the time it is due, in the order they go off at one instant. -/
def timers (w : World) : List (Nat × Timer) :=
  (w.presenceNext.map fun t => (t, Timer.presence)).toList ++
    w.links.filterMap (fun l => l.pingDue?.map fun t => (t, Timer.ping l.conn)) ++
    w.links.filterMap (fun l => l.deadlineDue?.map fun t => (t, Timer.deadline l.conn))

def earlier (a b : Nat × Timer) : Nat × Timer := if b.1 < a.1 then b else a

/-- The first timer due at or before `t`. -/
def nextDue? (w : World) (t : Nat) : Option (Nat × Timer) :=
  match (w.timers.filter (·.1 ≤ t)) with
  | [] => none
  | a :: rest => some (rest.foldl earlier a)

def fire (w : World) : Timer → World
  | .presence =>
    let next := w.presenceNext.map (· + w.config.presenceInterval.totalNanos)
    { w with hub := w.hub.presenceTick.2, presenceNext := next }
  | .ping c =>
    match w.link? c with
    | some l =>
      if l.sinkOk then (w.emit c .ping).updateLink c Link.pinged else w.endWriting c
    | none => w
  | .deadline c => w.endReading c

/-- Fires the timers due at or before `t`, earliest first, at most `fuel` of them. -/
def fireDue (t : Nat) : Nat → World → World
  | 0, w => w
  | n + 1, w =>
    match w.nextDue? t with
    | none => w
    | some (_, timer) => fireDue t n (w.fire timer)

/-- Moves transport time to `t`, fires what is due, and lets the loops settle. Every
timer that fires either ends a loop or moves on by a period of at least a nanosecond,
so `t` firings per timer bound the work. -/
def moveTo (w : World) (t : Nat) : World :=
  let w := { w with clock := t }
  (fireDue t ((w.timers.length + 1) * (t + 1)) w).settle

def advanceWithin : Nat → World → Nat → World
  | 0, w, _ => w
  | n + 1, w, ms =>
    if ms = 0 then w
    else
      let d := min 10 ms
      advanceWithin n (w.moveTo (w.clock + d * nanosPerMilli)) (ms - d)

/-- Moves transport time on by `ms` milliseconds, in steps of at most ten. -/
def advance (w : World) (ms : Nat) : World := advanceWithin (ms / 10 + 1) w ms

def elapsedMillis (w : World) : Nat := w.clock / nanosPerMilli

end World

end Switchboard.Live
