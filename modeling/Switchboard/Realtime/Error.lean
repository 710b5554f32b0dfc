import Switchboard.Store.Basic
import Switchboard.Wire.Event
/-
# What can go wrong in the realtime core

A handled event fails for a cause: a protocol or decoding fault, a payload of the
wrong shape, a field that fails validation, a permission or presence rule, a session
token that no longer holds, a tag that names no inbound event, or a store failure.

Protocol and decoding faults, an invalid session and store failures are fatal: the
connection that met them is closed. The others are answered to the client as an error
event (those with a code) and the connection goes on. Validation errors have the code
`VALIDATION_ERROR`; permission and presence errors carry their own code.
-/
namespace Switchboard

open Wire

/-- Why a handled event failed. -/
inductive RealtimeError where
  | protocol (text : String)
  | decode (text : String)
  | payload (text : String)
  | validation (field : String) (message : String)
  | permission (code : ErrorCode) (message : String)
  | notFound (code : ErrorCode) (message : String)
  | invalidSession
  | unsupportedEvent (tag : String)
  | store (e : StoreError)
  deriving DecidableEq, Repr

namespace RealtimeError

def message : RealtimeError → String
  | .protocol t => "protocol error: " ++ t
  | .decode t => "decode error: " ++ t
  | .payload t => "bad payload in request: " ++ t
  | .validation _ m => m
  | .permission _ m => m
  | .notFound _ m => m
  | .invalidSession => "invalid session token"
  | .unsupportedEvent t => "this event type is not supported: " ++ t
  | .store e => "store error: " ++ e.message

/-- The connection is closed after this error. -/
def isFatal : RealtimeError → Bool
  | .protocol _ | .decode _ | .invalidSession | .store _ => true
  | _ => false

/-- The code a client is told, for errors that are told. -/
def code? : RealtimeError → Option ErrorCode
  | .validation _ _ => some .validationError
  | .permission c _ => some c
  | .notFound c _ => some c
  | _ => none

/-- The name of the error's cause. -/
def kind : RealtimeError → String
  | .protocol _ => "Protocol"
  | .decode _ => "Decode"
  | .payload _ => "Payload"
  | .validation _ _ => "Validation"
  | .permission _ _ => "Permission"
  | .notFound _ _ => "NotFound"
  | .invalidSession => "InvalidSession"
  | .unsupportedEvent _ => "UnsupportedEvent"
  | .store _ => "Store"

end RealtimeError

def StoreError.kind : StoreError → String
  | .notFound _ => "NotFound"
  | .backend _ => "Backend"

end Switchboard
