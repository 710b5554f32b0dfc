import Switchboard.Realtime.Error
import Switchboard.Text.Debug
/-
# Connections

A connection belongs to one user, under a display name and the session token it was
opened with. Events for it wait in its outbound queue ("egress"), a first-in first-out
queue of fixed capacity (at least one): offering an event never waits, it is refused
when the queue is full or closed. Once the queue is closed nothing more gets in, and
what is already in is still delivered.

A connection is closed by recording a close reason. The first reason recorded is the
one that counts; later ones are refused (`Connection.close` says whether it took).
-/
namespace Switchboard

open Wire Time

structure Identity where
  user : UserId
  displayName : String
  sessionToken : String
  deriving DecidableEq, Repr

/-- Why a connection was closed, with the close frame's code. -/
inductive CloseReason where
  | normal
  | invalidPayload
  | policyViolation
  | messageTooBig
  | internalError
  deriving DecidableEq, Repr

def CloseReason.code : CloseReason → Nat
  | .normal => 1000
  | .invalidPayload => 1007
  | .policyViolation => 1008
  | .messageTooBig => 1009
  | .internalError => 1011

def CloseReason.text : CloseReason → String
  | .normal => "Normal closure"
  | .invalidPayload => "Malformed envelope"
  | .policyViolation => "Invalid session token"
  | .messageTooBig => "Frame too large"
  | .internalError => "Internal server error"

/-- The reason of a close code, if it is one of the five. -/
def CloseReason.ofCode? (n : Nat) : Option CloseReason :=
  [CloseReason.normal, .invalidPayload, .policyViolation, .messageTooBig, .internalError].find?
    (·.code == n)

/-- A bounded first-in first-out queue of events. -/
structure Egress where
  capacity : Nat
  items : List Envelope
  closed : Bool

namespace Egress

/-- An open, empty queue; a capacity of zero acts as one. -/
def make (capacity : Nat) : Egress := ⟨max capacity 1, [], false⟩

/-- Offers an event: taken when the queue is open and not full. -/
def offer (q : Egress) (e : Envelope) : Bool × Egress :=
  if q.closed || q.items.length ≥ q.capacity then (false, q)
  else (true, { q with items := q.items ++ [e] })

def takeAll (q : Egress) : List Envelope × Egress := (q.items, { q with items := [] })

def close (q : Egress) : Egress := { q with closed := true }

/-- Closes the queue and drops what waits, as when its reader is gone. -/
def discard (q : Egress) : Egress := { q with closed := true, items := [] }

end Egress

structure Connection where
  id : ConnId
  identity : Identity
  lastValidatedMs : Int
  egress : Egress
  closeReason : Option CloseReason

namespace Connection

def make (id : ConnId) (identity : Identity) (capacity : Nat) (at_ : Instant) : Connection :=
  ⟨id, identity, at_.ms, Egress.make capacity, none⟩

def user (c : Connection) : UserId := c.identity.user

def statusInfo (c : Connection) : UserStatusInfo :=
  ⟨c.identity.user, c.identity.displayName, .online⟩

/-- Records a close reason unless one is recorded; whether it took. -/
def close (c : Connection) (r : CloseReason) : Bool × Connection :=
  match c.closeReason with
  | some _ => (false, c)
  | none => (true, { c with closeReason := some r })

def isClosed (c : Connection) : Bool := c.closeReason.isSome

def enqueue (c : Connection) (e : Envelope) : Bool × Connection :=
  let (ok, q) := c.egress.offer e
  (ok, { c with egress := q })

def sendEvent (c : Connection) (tag : EventTag) (payload : Json) : Bool × Connection :=
  c.enqueue ⟨tag, payload⟩

def sendError (c : Connection) (code : ErrorCode) (message : String) (context : Json.Fields) :
    Bool × Connection :=
  c.sendEvent .error (errorPayload code message context)

/-- Tells the client about an error that has a code; validation errors also name the
field. Errors without a code are not told. -/
def reject (c : Connection) (err : RealtimeError) (context : Json.Fields) : Bool × Connection :=
  match err.code? with
  | none => (false, c)
  | some code =>
    let context := match err with
      | .validation field _ => context ++ [("field", .str field)]
      | _ => context
    c.sendError code err.message context

def debugText (c : Connection) (key : String) : String :=
  "Client \x7b id: ConnectionId(" ++ key ++ "), user_id: UserId(" ++ toString c.identity.user ++
    "), display_name: " ++ Text.debugQuote c.identity.displayName ++ ", .. \x7d"

def markValidated (c : Connection) (at_ : Instant) : Connection := { c with lastValidatedMs := at_.ms }

end Connection

end Switchboard
