import Switchboard.Realtime.Hub
import Switchboard.Wire.Inbound
import Switchboard.Domain.Message
/-
# Direct messages

`sendDirect` handles a client's `send_message`. In order:

1. The payload must decode as a direct message request.
2. The session token (the request's, else the connection's) must name the connection's
   own user; otherwise the connection is closed for policy violation, unregistered, and
   the handler fails with an invalid session.
3. The connection is marked validated now.
4. The body must be a message body and the receiver id positive; each failing field is
   told to the sender as a validation error, in field order, and the handler stops.
5. Writing to oneself and writing where the store does not allow it are told and stop.
6. A receiver with no live connection is told as offline, and the message goes on.
7. The conversation of the pair is found or started, the message stored and the
   conversation touched; the message goes to the receiver's live connection, then back
   to the sender.
8. A `direct_message` notification for the receiver is handed off to run afterwards.

Store failures end the handler as store errors.
-/
namespace Switchboard

open Wire Time

def contextOf (key : String) (v : Int) : Json.Fields := [(key, .int v)]

/-- The handler fails with a payload error for an undecodable payload. -/
def decodeRequest {α : Type} (r : Except String α) : HubM α :=
  match r with
  | .ok a => pure a
  | .error m => throw (.payload m)

/-- Closes the sender for an invalid session and unregisters it. -/
def revokeSender (sender : ConnId) : HubM Unit :=
  HubM.step fun h =>
    let h := (h.closeConn sender .policyViolation).2
    ((), (h.unregister sender).2)

def tell (sender : ConnId) (err : RealtimeError) (context : Json.Fields) : HubM Unit :=
  HubM.step fun h => ((), (h.reject sender err context).2)

def deliver (c : ConnId) (tag : EventTag) (payload : Json) : HubM Bool :=
  HubM.step fun h => h.sendEvent c tag payload

def directComplaints (req : SendMessage) : Validator :=
  let v : Validator := {}
  let v := match MessageBody.make req.message with
    | .ok _ => v
    | .error e => v.check false "message" e.message
  v.check (0 < req.receiverId) "receiver_id" "Invalid receiver ID"

/-- Checks the session token again: it must name the connection's own user. Otherwise the
connection is closed for policy violation and unregistered, and the handler fails with an
invalid session. -/
def revalidate (sender : ConnId) (conn : Connection) (token : String) : HubM User := do
  let found ← HubM.store ((← HubM.access).validateSession token)
  match found with
  | some u => if u.id == conn.user then pure u else do revokeSender sender; throw .invalidSession
  | none => do revokeSender sender; throw .invalidSession

/-- The conversation between two users, started at `at_` when there is none. -/
def findOrStartConversation (a b : UserId) (at_ : Instant) : HubM ConversationId := do
  match ← HubM.store ((← HubM.access).findConversation a b) with
  | some c => pure c
  | none =>
    let (c, acc) ← HubM.store ((← HubM.access).createConversation a b at_)
    HubM.setAccess acc
    pure c

/-- Finds or starts the conversation of the pair, stores the message in it and marks it
active at `sentAt`; the conversation. -/
def persistDirect (sender receiver : UserId) (body : String) (sentAt : Instant) :
    HubM ConversationId := do
  let conversation ← findOrStartConversation sender receiver sentAt
  let (_, a) ← HubM.store ((← HubM.access).insertMessage conversation sender body sentAt)
  HubM.setAccess a
  let a ← HubM.store ((← HubM.access).touchConversation conversation sentAt)
  HubM.setAccess a
  pure conversation

/-- Stores a direct message and sends it on: to the receiver's live connection, if it has
one, then back to the sender; a `direct_message` notification for the receiver is handed off. -/
def postDirect (sender : ConnId) (author receiver : UserId) (body : String)
    (receiverConn : Option ConnId) : HubM Unit := do
  let sentAt ← HubM.now
  let conversation ← persistDirect author receiver body sentAt
  let event := receiveMessagePayload body author receiver sentAt
  if let some rc := receiverConn then
    let _ ← deliver rc .receiveMessage event
  let _ ← deliver sender .receiveMessage event
  let note := Json.ofFields [("sender_id", .int author.val),
    ("conversation_id", .int conversation.val), ("message", .str body)]
  HubM.step fun h => ((), { h with handoffs := h.handoffs ++ [⟨receiver, NotificationKind.directMessage.tag, note⟩] })

/-- Handles `send_message` from a connection whose session names `user` (steps 3 to 8). -/
def sendAs (sender : ConnId) (req : SendMessage) (user : User) : HubM Unit := do
  let now ← HubM.now
  HubM.step fun h => ((), h.updateConn sender (·.markValidated now))
  let context := contextOf "receiver_id" req.receiverId
  let v := directComplaints req
  if v.hasErrors then
    for (field, message) in v.errors do
      tell sender (.validation field message) context
    return
  let receiver : UserId := ⟨req.receiverId⟩
  if receiver == user.id then
    tell sender (.permission .selfMessage "Cannot send messages to yourself") context
    return
  if !(← HubM.store ((← HubM.access).canMessage user.id receiver)) then
    tell sender (.permission .messageNotAllowed "You cannot send messages to this user") context
    return
  let receiverConn ← HubM.step fun h => (h.clientByUser receiver, h)
  if receiverConn.isNone then
    tell sender (.notFound .receiverOffline "Recipient is not online") context
  postDirect sender user.id receiver req.message receiverConn

def sendDirect (sender : ConnId) (payload : Json) : HubM Unit := do
  let req ← decodeRequest (SendMessage.decode payload)
  let some conn ← HubM.conn? sender | pure ()
  let user ← revalidate sender conn (req.sessionToken.getD conn.identity.sessionToken)
  sendAs sender req user

end Switchboard
