import Switchboard.Time.Duration
/-
# Realtime settings

The settings of the realtime core: the one Origin accepted at upgrade, the read
deadline (`pongWait`), the largest inbound frame in bytes, the capacity of each
connection's outbound queue, and the presence interval. The heartbeat ping interval is
nine tenths of the read deadline, so a healthy peer's pong refreshes the deadline
before it passes; it does not exist when nine times the deadline overflows. The
transport accepts four times the frame limit, and never less than 64 KiB.
-/
namespace Switchboard

open Time

def defaultAllowedOrigin : String := "http://localhost:8080"

/-- Settings of the realtime core. -/
structure Config where
  allowedOrigin : String := defaultAllowedOrigin
  pongWait : Duration := Duration.ofSecs 10
  maxFrameSize : Nat := 4096
  egressCapacity : Nat := 256
  presenceInterval : Duration := Duration.ofSecs 5

def usizeMax : Nat := Nat.pow 2 64 - 1

/-- The heartbeat interval, nine tenths of the read deadline. -/
def Config.pingInterval? (c : Config) : Option Duration := c.pongWait.ninetenths?

/-- The frame and message limit of the transport: four times the frame limit (at most
the largest word), and at least 64 KiB. -/
def Config.transportLimit (c : Config) : Nat := max (min (c.maxFrameSize * 4) usizeMax) 65536

/-- The panic text of an overflowing multiplication of a duration. -/
def durationMulOverflow : String := "overflow when multiplying duration by scalar"

def durationNewOverflow : String := "overflow in Duration::new"

end Switchboard
