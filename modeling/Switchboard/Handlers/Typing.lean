import Switchboard.Handlers.Group
/-
# Typing indicators

`sendTyping` handles `send_typing`: the payload needs a receiver id and a typing flag.
Typing to oneself is told to the sender and forwards nothing. A receiver with a live
connection gets `new_typing` on the one registered last, and the answer is whether it
was queued; an offline receiver gets nothing, silently, and nothing is stored.
-/
namespace Switchboard

open Wire

/-- Handles `send_typing` from a connection; whether the indicator was queued. -/
def sendTyping (sender : ConnId) (payload : Json) : HubM Bool := do
  let req ← decodeRequest (SendTyping.decode payload)
  let some conn ← HubM.conn? sender | pure false
  let receiver : UserId := ⟨req.receiverId⟩
  if receiver == conn.user then
    tell sender (.permission .selfTyping "Cannot send typing status to yourself")
      (contextOf "receiver_id" req.receiverId)
    return false
  match ← HubM.step fun h => (h.clientByUser receiver, h) with
  | none => return false
  | some rc => deliver rc .newTyping (newTypingPayload conn.user receiver req.isTyping)

end Switchboard
