import Switchboard.Domain.Records
/-
# Events on the wire

Every frame carries an envelope `{"type": tag, "payload": ...}`. Clients send three
kinds of event (`send_message`, `send_group_message`, `send_typing`); the server sends
six (`receive_message`, `new_typing`, `receive_group_message`, `user_status_update`,
`notification`, `error`). A tag is one of these nine exact texts or no event at all.

An error event's payload is its code and message, with the context members laid over
them: a context key `code` or `message` replaces the one before it. A presence update
lists users who came online (id, display name, status) and ids of users who went
offline; `UserStatusUpdate.without` removes one user from both lists, keeping order
and repeats.
-/
namespace Switchboard.Wire

open Time

inductive EventTag where
  | sendMessage
  | receiveMessage
  | sendTyping
  | newTyping
  | sendGroupMessage
  | receiveGroupMessage
  | userStatusUpdate
  | notification
  | error
  deriving DecidableEq, Repr

def EventTag.all : List EventTag :=
  [.sendMessage, .receiveMessage, .sendTyping, .newTyping, .sendGroupMessage,
   .receiveGroupMessage, .userStatusUpdate, .notification, .error]

def EventTag.tag : EventTag → String
  | .sendMessage => "send_message"
  | .receiveMessage => "receive_message"
  | .sendTyping => "send_typing"
  | .newTyping => "new_typing"
  | .sendGroupMessage => "send_group_message"
  | .receiveGroupMessage => "receive_group_message"
  | .userStatusUpdate => "user_status_update"
  | .notification => "notification"
  | .error => "error"

/-- The event kind of a tag text, if it is exactly one. -/
def EventTag.ofTag? (s : String) : Option EventTag :=
  EventTag.all.find? (·.tag == s)

/-- Codes of the error events a client is sent. -/
inductive ErrorCode where
  | validationError
  | selfMessage
  | messageNotAllowed
  | receiverOffline
  | groupMessageForbidden
  | selfTyping
  deriving DecidableEq, Repr

def ErrorCode.all : List ErrorCode :=
  [.validationError, .selfMessage, .messageNotAllowed, .receiverOffline,
   .groupMessageForbidden, .selfTyping]

def ErrorCode.text : ErrorCode → String
  | .validationError => "VALIDATION_ERROR"
  | .selfMessage => "SELF_MESSAGE"
  | .messageNotAllowed => "MESSAGE_NOT_ALLOWED"
  | .receiverOffline => "RECEIVER_OFFLINE"
  | .groupMessageForbidden => "GROUP_MESSAGE_FORBIDDEN"
  | .selfTyping => "SELF_TYPING"

def ErrorCode.ofText? (s : String) : Option ErrorCode :=
  ErrorCode.all.find? (·.text == s)

structure Envelope where
  tag : EventTag
  payload : Json

def Envelope.toJson (e : Envelope) : Json :=
  Json.ofFields [("type", .str e.tag.tag), ("payload", e.payload)]

/-- A user as presence shows them. -/
structure UserStatusInfo where
  id : UserId
  displayName : String
  status : PresenceStatus
  deriving DecidableEq, Repr

def UserStatusInfo.toJson (u : UserStatusInfo) : Json :=
  Json.ofFields [("id", .int u.id.val), ("display_name", .str u.displayName),
    ("status", .int u.status.code)]

/-- Who came online and who went offline. -/
structure UserStatusUpdate where
  online : List UserStatusInfo
  offline : List UserId
  deriving DecidableEq, Repr

def UserStatusUpdate.isEmpty (u : UserStatusUpdate) : Bool := u.online.isEmpty && u.offline.isEmpty

/-- The update with every entry about `user` removed. -/
def UserStatusUpdate.without (u : UserStatusUpdate) (user : UserId) : UserStatusUpdate :=
  ⟨u.online.filter (·.id != user), u.offline.filter (· != user)⟩

def UserStatusUpdate.toJson (u : UserStatusUpdate) : Json :=
  Json.ofFields [("online_users", .arr (u.online.map UserStatusInfo.toJson)),
    ("offline_user_ids", .arr (u.offline.map fun i => .int i.val))]

/-- An error event's payload: code and message, then the context members over them. -/
def errorPayload (code : ErrorCode) (message : String) (context : Json.Fields) : Json :=
  Json.ofFields ([("code", .str code.text), ("message", .str message)] ++ context)

/-- A direct message as delivered to both ends. -/
def receiveMessagePayload (message : String) (sender receiver : UserId) (sentAt : Instant) : Json :=
  Json.ofFields [("message", .str message), ("sender_id", .int sender.val),
    ("receiver_id", .int receiver.val), ("sent_at", .str sentAt.rfc3339)]

/-- A group message as delivered to a member. -/
def receiveGroupMessagePayload (message : String) (sender : UserId) (group : GroupId)
    (sentAt : Instant) : Json :=
  Json.ofFields [("message", .str message), ("sender_id", .int sender.val),
    ("group_id", .int group.val), ("sent_at", .str sentAt.rfc3339)]

def newTypingPayload (sender receiver : UserId) (isTyping : Bool) : Json :=
  Json.ofFields [("sender_id", .int sender.val), ("receiver_id", .int receiver.val),
    ("is_typing", .bool isTyping)]

def notificationPayload (n : Notification) : Json :=
  Json.ofFields [("id", .int n.id.val), ("type", .str n.kind), ("payload", n.payload),
    ("is_read", .bool n.isRead), ("created_at", .str n.createdAt.rfc3339)]

end Switchboard.Wire
