import Switchboard.Realtime.Connection
/-
# The registry of live connections

The registry lists the connections that are live, each with the order number it was
registered under. A user's live connection for delivery is the one registered last.
Who is online comes out one entry per user in increasing id order, with the user's
live connections (in increasing connection order) and how presence shows the user.

The registry only lists; closing a removed connection is the caller's part
(`Hub.unregister` records the normal close).

The order number here is a natural number; the registry's own is a 64-bit counter whose
increment wraps, which only `2^64` registrations would bring back to an order number in use.
-/
namespace Switchboard

open Wire

structure Registration where
  conn : ConnId
  info : UserStatusInfo
  seq : Nat
  deriving DecidableEq, Repr

structure OnlineUser where
  info : UserStatusInfo
  conns : List ConnId
  deriving DecidableEq, Repr

/-- The live connections, in registration order. -/
structure Registry where
  entries : List Registration := []
  nextSeq : Nat := 0

namespace Registry

def add (r : Registry) (c : ConnId) (info : UserStatusInfo) : Registry :=
  { entries := r.entries ++ [⟨c, info, r.nextSeq⟩], nextSeq := r.nextSeq + 1 }

def contains (r : Registry) (c : ConnId) : Bool := r.entries.any (·.conn == c)

/-- Unregisters a connection; whether it was registered. -/
def remove (r : Registry) (c : ConnId) : Bool × Registry :=
  if r.contains c then (true, { r with entries := r.entries.filter (·.conn != c) })
  else (false, r)

/-- The connection of a user registered last. -/
def clientByUser (r : Registry) (u : UserId) : Option ConnId :=
  ((r.entries.filter (·.info.id == u)).getLast?).map (·.conn)

def insertConn (c : ConnId) : List ConnId → List ConnId
  | [] => [c]
  | d :: ds => if c.val < d.val then c :: d :: ds else if c = d then d :: ds else d :: insertConn c ds

/-- Adds a registration to the per-user list kept in increasing user order. -/
def addOnline (e : Registration) : List OnlineUser → List OnlineUser
  | [] => [⟨e.info, [e.conn]⟩]
  | o :: os =>
    if e.info.id.val < o.info.id.val then ⟨e.info, [e.conn]⟩ :: o :: os
    else if e.info.id = o.info.id then { o with conns := insertConn e.conn o.conns } :: os
    else o :: addOnline e os

/-- Who is online: one entry per user in increasing id order. -/
def onlineConnections (r : Registry) : List OnlineUser :=
  r.entries.foldl (fun acc e => addOnline e acc) []

def onlineUsers (r : Registry) : List UserStatusInfo := r.onlineConnections.map (·.info)

def onlineUserIds (r : Registry) : List UserId := r.onlineUsers.map (·.id)

def onlineUsersExcept (r : Registry) (u : UserId) : List UserStatusInfo :=
  r.onlineUsers.filter (·.id != u)

def conns (r : Registry) : List ConnId := r.entries.map (·.conn)

def size (r : Registry) : Nat := r.entries.length

end Registry

end Switchboard
