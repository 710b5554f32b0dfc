import Switchboard.Realtime.Presence
import Switchboard.Store.Access
/-
# The hub

The hub is the realtime core's state: the store (with its injected failures), every
connection made so far (live or not), the registry of live ones, the presence tracker,
the current time, and the notification deliveries that a handler has handed off to run
after it. Handlers run in `HubM`: they read and change the hub and may fail with a
`RealtimeError`; what they did before failing stays done.

Removing a connection from the registry records the normal close on it, unless a
reason is recorded already. A notification is pushed to the user's connection
registered last, if the user has one. A presence tick diffs who is online against the
tracker and sends each registered connection the diff without entries about its own
user, skipping connections for which nothing is left.
-/
namespace Switchboard

open Wire Time

/-- Notification work handed off by a handler: create it, then push it. -/
structure Handoff where
  user : UserId
  kind : String
  payload : Json

structure Hub where
  access : Access := {}
  conns : List Connection := []
  registry : Registry := {}
  tracker : Tracker := {}
  now : Instant := Instant.epoch
  handoffs : List Handoff := []

/-- A handler step: it changes the hub and may fail, keeping what it did. -/
abbrev HubM := ExceptT RealtimeError (StateM Hub)

namespace Hub

def conn? (h : Hub) (c : ConnId) : Option Connection := h.conns.find? (·.id == c)

def updateConn (h : Hub) (c : ConnId) (f : Connection → Connection) : Hub :=
  { h with conns := h.conns.map fun x => if x.id == c then f x else x }

def withConn {α : Type} (h : Hub) (c : ConnId) (dflt : α) (f : Connection → α × Connection) :
    α × Hub :=
  match h.conn? c with
  | none => (dflt, h)
  | some x =>
    let (a, x') := f x
    (a, h.updateConn c fun _ => x')

def openConn (h : Hub) (identity : Identity) (capacity : Nat) : ConnId × Hub :=
  let id : ConnId := ⟨h.conns.length⟩
  (id, { h with conns := h.conns ++ [Connection.make id identity capacity h.now] })

def register (h : Hub) (c : ConnId) : Hub :=
  match h.conn? c with
  | none => h
  | some x => { h with registry := h.registry.add c x.statusInfo }

def sendEvent (h : Hub) (c : ConnId) (tag : EventTag) (payload : Json) : Bool × Hub :=
  h.withConn c false (·.sendEvent tag payload)

/-- Accepts a connection for an identity: it is made validated now with a queue of the
given capacity, registered, and, when other users are online, sent a snapshot of them
(sorted by id, one entry per user, nobody offline). -/
def accept (h : Hub) (identity : Identity) (capacity : Nat) : ConnId × Hub :=
  let (c, h) := h.openConn identity capacity
  let h := h.register c
  let others := h.registry.onlineUsersExcept identity.user
  if others.isEmpty then (c, h)
  else (c, (h.sendEvent c .userStatusUpdate (UserStatusUpdate.toJson ⟨others, []⟩)).2)

def closeConn (h : Hub) (c : ConnId) (r : CloseReason) : Bool × Hub :=
  h.withConn c false (·.close r)

/-- Unregisters a connection, recording the normal close; whether it was registered. -/
def unregister (h : Hub) (c : ConnId) : Bool × Hub :=
  let (removed, reg) := h.registry.remove c
  if removed then (true, ({ h with registry := reg }.closeConn c .normal).2)
  else (false, h)

/-- Records the normal close on every registered connection; how many there are. -/
def closeAll (h : Hub) : Nat × Hub :=
  (h.registry.size, h.registry.conns.foldl (fun h c => (h.closeConn c .normal).2) h)

/-- Tells a connection about an error that has a code. -/
def reject (h : Hub) (c : ConnId) (err : RealtimeError) (context : Json.Fields) : Bool × Hub :=
  h.withConn c false (·.reject err context)

def sendError (h : Hub) (c : ConnId) (code : ErrorCode) (message : String) (context : Json.Fields) :
    Bool × Hub :=
  h.withConn c false (·.sendError code message context)

def clientByUser (h : Hub) (u : UserId) : Option ConnId := h.registry.clientByUser u

/-- Pushes a notification to its user's live connection, if any; whether it was queued. -/
def pushNotification (h : Hub) (n : Notification) : Bool × Hub :=
  match h.clientByUser n.user with
  | none => (false, h)
  | some c => h.sendEvent c .notification (notificationPayload n)

def createAndPush (h : Hub) (u : UserId) (kind : String) (payload : Json) :
    Except StoreError Notification × Hub :=
  match h.access.createNotification u kind payload h.now with
  | .error e => (.error e, h)
  | .ok (n, a) => (.ok n, ({ h with access := a }.pushNotification n).2)

/-- Runs the handed-off notification work, in order; failures are dropped. -/
def runHandoffs (h : Hub) : Hub :=
  let work := h.handoffs
  work.foldl (fun h w => (h.createAndPush w.user w.kind w.payload).2) { h with handoffs := [] }

/-- One presence tick: how many connections were sent an update. -/
def presenceTick (h : Hub) : Nat × Hub :=
  let (update, tracker) := h.tracker.diff h.registry.onlineConnections
  let h := { h with tracker := tracker }
  if update.isEmpty then (0, h)
  else
    h.registry.entries.foldl (fun (n, h) e =>
      let filtered := update.without e.info.id
      if filtered.isEmpty then (n, h)
      else
        let (ok, h) := h.sendEvent e.conn .userStatusUpdate filtered.toJson
        (if ok then n + 1 else n, h)) (0, h)

end Hub

namespace HubM

def step {α : Type} (f : Hub → α × Hub) : HubM α := fun h => (.ok (f h).1, (f h).2)

def store {α : Type} (r : Except StoreError α) : HubM α :=
  match r with
  | .ok a => pure a
  | .error e => throw (.store e)

def access : HubM Access := fun h => (.ok h.access, h)

def setAccess (a : Access) : HubM Unit := fun h => (.ok (), { h with access := a })

def now : HubM Instant := fun h => (.ok h.now, h)

def conn? (c : ConnId) : HubM (Option Connection) := fun h => (.ok (h.conn? c), h)

end HubM

end Switchboard
