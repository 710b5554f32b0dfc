import Switchboard.Realtime.Error
/-
# The Origin check

A WebSocket upgrade is accepted only from one configured Origin. Only the first Origin
header counts. Its value must be visible ASCII (tab, space and the printable
characters) and then byte for byte equal to the configured one. A missing header, a
value with any other byte, and a different value are protocol errors.
-/
namespace Switchboard

/-- A header value readable as text: tab, space and printable ASCII only. -/
def visibleAscii (bs : List UInt8) : Bool :=
  bs.all fun b => b == 9 || (32 ≤ b && b < 127)

def asciiText (bs : List UInt8) : String := String.ofList (bs.map fun b => Char.ofNat b.toNat)

/-- Checks the Origin headers, in the order they came, against the allowed origin. -/
def checkOrigin (origins : List (List UInt8)) (allowed : String) : Except RealtimeError Unit :=
  match origins with
  | [] => .error (.protocol "missing origin header")
  | o :: _ =>
    if !visibleAscii o then .error (.protocol "origin is not valid ASCII")
    else
      let text := asciiText o
      if text == allowed then .ok ()
      else .error (.protocol ("origin " ++ text ++ " is not allowed"))

end Switchboard
