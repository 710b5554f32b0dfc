import Switchboard.Handlers.Direct
/-
# Group messages

`sendGroup` handles a client's `send_group_message`. The payload must decode; the
message must not be blank and the group id must be positive (each failing field is
told, in field order, and nothing is stored); the sender must be a member (else told,
nothing stored). The message is then stored once, and every other member, in
increasing id order, gets it live on their connection registered last (counted in
`live` when queued) or, with no live connection, as a `group_message` notification
(counted in `notified` when created; a failed creation is dropped). There is no length
limit on group messages.
-/
namespace Switchboard

open Wire

/-- How a group message reached the other members. -/
structure GroupDelivery where
  live : Nat := 0
  notified : Nat := 0
  deriving DecidableEq, Repr

def groupComplaints (req : SendGroupMessage) : Validator :=
  let v : Validator := {}
  let v := v.check (notBlank req.message) "message" "Message cannot be empty"
  v.check (0 < req.groupId) "group_id" "Invalid group ID"

/-- Delivers a group message to one member. -/
def deliverToMember (event note : Json) (d : GroupDelivery) (member : UserId) : HubM GroupDelivery :=
  HubM.step fun h =>
    match h.clientByUser member with
    | some c =>
      let (ok, h) := h.sendEvent c .receiveGroupMessage event
      (if ok then { d with live := d.live + 1 } else d, h)
    | none =>
      match h.createAndPush member NotificationKind.groupMessage.tag note with
      | (.ok _, h) => ({ d with notified := d.notified + 1 }, h)
      | (.error _, h) => (d, h)

/-- Handles `send_group_message` from a connection. -/
def sendGroup (sender : ConnId) (payload : Json) : HubM GroupDelivery := do
  let req ← decodeRequest (SendGroupMessage.decode payload)
  let some conn ← HubM.conn? sender | pure {}
  let group : GroupId := ⟨req.groupId⟩
  let context := contextOf "group_id" req.groupId
  let v := groupComplaints req
  if v.hasErrors then
    for (field, message) in v.errors do
      tell sender (.validation field message) context
    return {}
  let user := conn.user
  if !(← HubM.store ((← HubM.access).isGroupMember group user)) then
    tell sender (.permission .groupMessageForbidden "You are not a member of this group") context
    return {}
  let sentAt ← HubM.now
  let (_, a) ← HubM.store ((← HubM.access).insertGroupMessage group user req.message sentAt)
  HubM.setAccess a
  let event := receiveGroupMessagePayload req.message user group sentAt
  let note := Json.ofFields [("group_id", .int group.val), ("sender_id", .int user.val),
    ("message", .str req.message)]
  let members ← HubM.store ((← HubM.access).groupMemberIds group)
  let mut d : GroupDelivery := {}
  for m in members do
    if m != user then
      d ← deliverToMember event note d m
  return d

end Switchboard
