import Switchboard.Domain.Ids
import Switchboard.Json.Value
import Switchboard.Time.Instant
/-
# Records

The rows the store keeps: users with their display name and whether anyone may write
to them, direct conversations between two users with the time of their last message,
direct and group messages, and notifications for users who were not reached live. A
notification carries a kind (`direct_message`, `group_message`, or any other text) and
an opaque JSON payload, and starts unread.
-/
namespace Switchboard

open Time

/-- A user. A public user accepts direct messages from anyone. -/
structure User where
  id : UserId
  displayName : String
  isPublic : Bool
  deriving DecidableEq, Repr

/-- How present a user is; connected users are shown as online. -/
inductive PresenceStatus where
  | offline
  | online
  | busy
  | doNotDisturb
  deriving DecidableEq, Repr

def PresenceStatus.code : PresenceStatus → Nat
  | .offline => 0
  | .online => 1
  | .busy => 2
  | .doNotDisturb => 3

/-- The two kinds of notification the handlers create. -/
inductive NotificationKind where
  | directMessage
  | groupMessage
  deriving DecidableEq, Repr

def NotificationKind.tag : NotificationKind → String
  | .directMessage => "direct_message"
  | .groupMessage => "group_message"

structure Notification where
  id : NotificationId
  user : UserId
  kind : String
  payload : Json
  isRead : Bool
  createdAt : Instant

/-- A direct conversation: its two participants, in the order it was created with. -/
structure Conversation where
  id : ConversationId
  first : UserId
  second : UserId
  lastMessageAt : Instant
  deriving DecidableEq, Repr

/-- The conversation is between `a` and `b`, in either order. -/
def Conversation.between (c : Conversation) (a b : UserId) : Bool :=
  (c.first == a && c.second == b) || (c.first == b && c.second == a)

structure DirectMessage where
  id : MessageId
  conversation : ConversationId
  sender : UserId
  body : String
  sentAt : Instant
  deriving DecidableEq, Repr

structure GroupMessage where
  id : MessageId
  group : GroupId
  sender : UserId
  body : String
  sentAt : Instant
  deriving DecidableEq, Repr

end Switchboard
