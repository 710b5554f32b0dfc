import Switchboard.Handlers.Typing
/-
# Routing inbound events

`route` sends an inbound event to its handler by tag. Only the three inbound tags have
handlers; any other text, the outbound tags included, is an unsupported event, and
nothing else happens.
-/
namespace Switchboard

open Wire

/-- Sends an inbound event to its handler. -/
def route (sender : ConnId) (tag : String) (payload : Json) : HubM Unit :=
  match EventTag.ofTag? tag with
  | some .sendMessage => sendDirect sender payload
  | some .sendGroupMessage => do let _ ← sendGroup sender payload
  | some .sendTyping => do let _ ← sendTyping sender payload
  | _ => throw (.unsupportedEvent tag)

end Switchboard
