import Switchboard.Live.Peer
/-
# Managing the live world

What the realtime core offers besides its transports: removing a connection (again and
again, to no further effect), routing an event for a connection from outside its read
loop, any step on the hub itself (store work, notifications), and shutting down, which
stops the presence ticker and records the normal close on every registered connection;
their loops then write what is queued and the close frame, and remove them. Each of
these lets the loops settle afterwards.
-/
namespace Switchboard.Live

open Wire

namespace World

/-- Removes a connection, if it is registered, and lets the loops settle. -/
def remove (w : World) (c : ConnId) : World := (w.removeClient c).settle

def onHub {α : Type} (w : World) (f : Hub → α × Hub) : α × World :=
  let (a, hub) := f w.hub
  (a, { w with hub }.settle)

/-- Routes an event for a connection from outside its read loop: its answer, and the
world after the loops settle. -/
def routeEvent (w : World) (c : ConnId) (tag : String) (payload : Json) :
    Except RealtimeError Unit × World :=
  w.onHub fun h => StateT.run (ExceptT.run (route c tag payload)) h

/-- Stops the presence ticker and closes every registered connection normally. -/
def shutdown (w : World) : World :=
  { w with presenceNext := none, hub := w.hub.closeAll.2 }.settle

/-- The users online, increasing. -/
def onlineUserIds (w : World) : List UserId := w.hub.registry.onlineUserIds

end World

end Switchboard.Live
