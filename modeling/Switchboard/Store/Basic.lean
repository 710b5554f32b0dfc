import Switchboard.Domain.Records
/-
# The store

The store keeps users, session tokens, who follows whom, group membership, direct
conversations, direct and group messages, and notifications. Conversations, messages
and notifications share one counter: every successful creation takes the next id, from
1 up, and a failed write takes none.

Writes fail while the store is switched to failing ("store is unavailable"), before
anything changes; touching or writing into an unknown conversation fails with "record
not found: conversation <id>". Seeding (users, sessions, follows, members) never fails.

Reads: a session token names a user only while the token is open and the user exists;
a user may be written to by anyone when public, otherwise only when one of the two
follows the other; group members come in increasing id order; notifications of a user
come newest first.
-/
namespace Switchboard

open Time

/-- Why a store operation failed. -/
inductive StoreError where
  | notFound (what : String)
  | backend (what : String)
  deriving DecidableEq, Repr

def StoreError.message : StoreError → String
  | .notFound w => "record not found: " ++ w
  | .backend w => "store backend failure: " ++ w

/-- The store's tables. -/
structure Store where
  users : List User := []
  sessions : List (String × UserId) := []
  follows : List (UserId × UserId) := []
  groups : List (GroupId × List UserId) := []
  conversations : List Conversation := []
  messages : List DirectMessage := []
  groupMessages : List GroupMessage := []
  notifications : List Notification := []
  lastId : Int := 0
  failing : Bool := false

namespace Store

def insertMember (u : UserId) : List UserId → List UserId
  | [] => [u]
  | v :: vs => if u.val < v.val then u :: v :: vs else if u = v then v :: vs else v :: insertMember u vs

def addUser (s : Store) (u : User) : Store :=
  { s with users := s.users.filter (·.id != u.id) ++ [u] }

/-- Opens a session token for a user, replacing what the token named. -/
def openSession (s : Store) (token : String) (u : UserId) : Store :=
  { s with sessions := s.sessions.filter (·.1 != token) ++ [(token, u)] }

def revokeSession (s : Store) (token : String) : Store :=
  { s with sessions := s.sessions.filter (·.1 != token) }

def follow (s : Store) (follower followee : UserId) : Store :=
  if s.follows.contains (follower, followee) then s
  else { s with follows := s.follows ++ [(follower, followee)] }

/-- The members of a group, in increasing id order. -/
def groupMemberIds (s : Store) (g : GroupId) : List UserId :=
  (s.groups.lookup g).getD []

def addGroupMember (s : Store) (g : GroupId) (u : UserId) : Store :=
  let members := insertMember u (s.groupMemberIds g)
  { s with groups := s.groups.filter (·.1 != g) ++ [(g, members)] }

def setFailing (s : Store) (on : Bool) : Store := { s with failing := on }

def validateSession (s : Store) (token : String) : Option User :=
  (s.sessions.lookup token).bind fun id => s.users.find? (·.id == id)

/-- The sender may write to the receiver: the receiver exists and is public, or one of
the two follows the other. -/
def canMessage (s : Store) (sender receiver : UserId) : Bool :=
  match s.users.find? (·.id == receiver) with
  | none => false
  | some r => r.isPublic || s.follows.contains (sender, receiver) || s.follows.contains (receiver, sender)

def isGroupMember (s : Store) (g : GroupId) (u : UserId) : Bool :=
  (s.groupMemberIds g).contains u

/-- The conversation between two users, in either order. -/
def findConversation (s : Store) (a b : UserId) : Option ConversationId :=
  (s.conversations.find? (·.between a b)).map (·.id)

def unavailable : StoreError := .backend "store is unavailable"

def writable (s : Store) : Except StoreError Unit :=
  if s.failing then .error unavailable else .ok ()

/-- The next id of the shared counter, and the store that has taken it. -/
def takeId (s : Store) : Int × Store := (s.lastId + 1, { s with lastId := s.lastId + 1 })

/-- Starts a conversation between two users, last active at `at_`. -/
def createConversation (s : Store) (a b : UserId) (at_ : Instant) :
    Except StoreError (ConversationId × Store) := do
  s.writable
  let (id, s) := s.takeId
  pure (⟨id⟩, { s with conversations := s.conversations ++ [⟨⟨id⟩, a, b, at_⟩] })

def conversationNotFound (c : ConversationId) : StoreError :=
  .notFound ("conversation " ++ toString c)

def touchConversation (s : Store) (c : ConversationId) (at_ : Instant) : Except StoreError Store := do
  s.writable
  if s.conversations.any (·.id == c) then
    pure { s with conversations := s.conversations.map fun x =>
      if x.id == c then { x with lastMessageAt := at_ } else x }
  else throw (conversationNotFound c)

def insertMessage (s : Store) (c : ConversationId) (sender : UserId) (body : String) (at_ : Instant) :
    Except StoreError (MessageId × Store) := do
  s.writable
  if !s.conversations.any (·.id == c) then throw (conversationNotFound c)
  let (id, s) := s.takeId
  pure (⟨id⟩, { s with messages := s.messages ++ [⟨⟨id⟩, c, sender, body, at_⟩] })

def insertGroupMessage (s : Store) (g : GroupId) (sender : UserId) (body : String) (at_ : Instant) :
    Except StoreError (MessageId × Store) := do
  s.writable
  let (id, s) := s.takeId
  pure (⟨id⟩, { s with groupMessages := s.groupMessages ++ [⟨⟨id⟩, g, sender, body, at_⟩] })

/-- Creates an unread notification for a user, dated `now`. -/
def createNotification (s : Store) (u : UserId) (kind : String) (payload : Json) (now : Instant) :
    Except StoreError (Notification × Store) := do
  s.writable
  let (id, s) := s.takeId
  let n : Notification := ⟨⟨id⟩, u, kind, payload, false, now⟩
  pure (n, { s with notifications := s.notifications ++ [n] })

/-- The notifications of a user, newest first. -/
def notificationsFor (s : Store) (u : UserId) : List Notification :=
  (s.notifications.filter (·.user == u)).reverse

def lastMessageAt (s : Store) (c : ConversationId) : Option Instant :=
  (s.conversations.find? (·.id == c)).map (·.lastMessageAt)

end Store

end Switchboard
