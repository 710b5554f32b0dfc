import Switchboard.Store.Basic
/-
# Reaching the store

The realtime core reaches the store through eleven operations. Any of them can be made
to fail on purpose: a listed operation answers "injected failure: <name>" as a backend
error before the store is touched. `Access` is the store together with the list of
operations that fail; each operation returns the store after it, unchanged by reads
and by failures.
-/
namespace Switchboard

open Time

/-- The operations the realtime core uses. -/
inductive StoreOp where
  | validateSession
  | canMessage
  | isGroupMember
  | groupMemberIds
  | findConversation
  | createConversation
  | touchConversation
  | insertMessage
  | insertGroupMessage
  | createNotification
  | notificationsFor
  deriving DecidableEq, Repr

def StoreOp.all : List StoreOp :=
  [.validateSession, .canMessage, .isGroupMember, .groupMemberIds, .findConversation,
   .createConversation, .touchConversation, .insertMessage, .insertGroupMessage,
   .createNotification, .notificationsFor]

def StoreOp.name : StoreOp → String
  | .validateSession => "validate_session"
  | .canMessage => "can_message"
  | .isGroupMember => "is_group_member"
  | .groupMemberIds => "group_member_ids"
  | .findConversation => "find_conversation"
  | .createConversation => "create_conversation"
  | .touchConversation => "touch_conversation"
  | .insertMessage => "insert_message"
  | .insertGroupMessage => "insert_group_message"
  | .createNotification => "create_notification"
  | .notificationsFor => "notifications_for"

def StoreOp.ofName? (s : String) : Option StoreOp := StoreOp.all.find? (·.name == s)

/-- The store and the operations made to fail. -/
structure Access where
  store : Store := {}
  failing : List StoreOp := []

namespace Access

/-- Fails if the operation is made to fail. -/
def guard (a : Access) (op : StoreOp) : Except StoreError Unit :=
  if a.failing.contains op then .error (.backend ("injected failure: " ++ op.name)) else .ok ()

def validateSession (a : Access) (token : String) : Except StoreError (Option User) := do
  a.guard .validateSession
  pure (a.store.validateSession token)

def canMessage (a : Access) (sender receiver : UserId) : Except StoreError Bool := do
  a.guard .canMessage
  pure (a.store.canMessage sender receiver)

def isGroupMember (a : Access) (g : GroupId) (u : UserId) : Except StoreError Bool := do
  a.guard .isGroupMember
  pure (a.store.isGroupMember g u)

def groupMemberIds (a : Access) (g : GroupId) : Except StoreError (List UserId) := do
  a.guard .groupMemberIds
  pure (a.store.groupMemberIds g)

def findConversation (a : Access) (x y : UserId) : Except StoreError (Option ConversationId) := do
  a.guard .findConversation
  pure (a.store.findConversation x y)

def createConversation (a : Access) (x y : UserId) (at_ : Instant) :
    Except StoreError (ConversationId × Access) := do
  a.guard .createConversation
  let (id, s) ← a.store.createConversation x y at_
  pure (id, { a with store := s })

def touchConversation (a : Access) (c : ConversationId) (at_ : Instant) : Except StoreError Access := do
  a.guard .touchConversation
  let s ← a.store.touchConversation c at_
  pure { a with store := s }

def insertMessage (a : Access) (c : ConversationId) (sender : UserId) (body : String) (at_ : Instant) :
    Except StoreError (MessageId × Access) := do
  a.guard .insertMessage
  let (id, s) ← a.store.insertMessage c sender body at_
  pure (id, { a with store := s })

def insertGroupMessage (a : Access) (g : GroupId) (sender : UserId) (body : String) (at_ : Instant) :
    Except StoreError (MessageId × Access) := do
  a.guard .insertGroupMessage
  let (id, s) ← a.store.insertGroupMessage g sender body at_
  pure (id, { a with store := s })

def createNotification (a : Access) (u : UserId) (kind : String) (payload : Json) (now : Instant) :
    Except StoreError (Notification × Access) := do
  a.guard .createNotification
  let (n, s) ← a.store.createNotification u kind payload now
  pure (n, { a with store := s })

def notificationsFor (a : Access) (u : UserId) : Except StoreError (List Notification) := do
  a.guard .notificationsFor
  pure (a.store.notificationsFor u)

/-- Replaces the operations made to fail; names of no operation are ignored. -/
def failOnly (a : Access) (names : List String) : Access :=
  { a with failing := names.filterMap StoreOp.ofName? }

def modify (a : Access) (f : Store → Store) : Access := { a with store := f a.store }

end Access

end Switchboard
