import Switchboard.Realtime.Registry
/-
# Presence diffs

A tracker remembers who was online at the previous look, and through which
connections. Given who is online now, `Tracker.diff` reports the users newly online
(absent before, or online through a connection not seen before, so a reconnect
between two looks still counts) and the users newly offline (present before, absent
now), then forgets the old look and keeps the new one. Newly online users come stably
sorted by id, repeats kept; newly offline ids come in increasing order. For a repeated
user the last entry's connections are kept.
-/
namespace Switchboard

open Wire

/-- Who was online at the previous look, with their connections. -/
structure Tracker where
  seen : List (UserId × List ConnId) := []

def connsWithin (cs ds : List ConnId) : Bool := cs.all ds.contains

def insertUserId (u : UserId) : List UserId → List UserId
  | [] => [u]
  | v :: vs => if u.val < v.val then u :: v :: vs else if u = v then v :: vs else v :: insertUserId u vs

/-- Replaces or appends a user's connections. -/
def setConns (u : UserId) (cs : List ConnId) (m : List (UserId × List ConnId)) :
    List (UserId × List ConnId) :=
  if m.any (·.1 == u) then m.map fun (v, ds) => if v == u then (v, cs) else (v, ds)
  else m ++ [(u, cs)]

namespace Tracker

/-- The entry is newly online against the previous look. -/
def isNew (t : Tracker) (o : OnlineUser) : Bool :=
  match t.seen.lookup o.info.id with
  | none => true
  | some prev => !connsWithin o.conns prev

/-- The update since the previous look, and the tracker holding the new look. -/
def diff (t : Tracker) (now : List OnlineUser) : UserStatusUpdate × Tracker :=
  let online := (now.filter t.isNew).map (·.info)
  let online := online.mergeSort fun a b => a.id.val ≤ b.id.val
  let ids := now.map (·.info.id)
  let offline := (t.seen.map (·.1)).filter (fun u => !ids.contains u)
  let offline := offline.foldl (fun acc u => insertUserId u acc) []
  let seen := now.foldl (fun m o => setConns o.info.id o.conns m) []
  (⟨online, offline⟩, ⟨seen⟩)

end Tracker

end Switchboard
