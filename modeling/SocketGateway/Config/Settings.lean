import SocketGateway.Config.Error

/-!
# Settings

What a gateway can be told: where it listens, which namespaces it serves and how it restarts, how
it checks that clients are alive, and how much it logs. Every setting has a value of its own if
nothing else is said.
-/

namespace SocketGateway.Config

/-! ## The heartbeat -/

/-- How often clients are pinged and how long their answer may take, in milliseconds. -/
structure Heartbeat where
  interval : UInt64
  timeout : UInt64
deriving DecidableEq, Repr

namespace Heartbeat

/-- The silence that a client may keep: an interval and a timeout, as far as 64 bits go. -/
def deadline (h : Heartbeat) : Nat :=
  min (h.interval.toNat + h.timeout.toNat) (UInt64.size - 1)

/-- Refuses an interval of zero, and a deadline that does not fit into 64 bits. -/
def validate (h : Heartbeat) : Except Error Unit :=
  if h.interval = 0 then .error .zeroInterval
  else if UInt64.size ≤ h.interval.toNat + h.timeout.toNat then .error .deadlineOverflow
  else .ok ()

end Heartbeat

/-! ## All settings -/

structure Settings where
  host : String
  port : UInt16
  namespaces : List String
  restartEvent : String
  restartDelay : UInt64
  rebindAttempts : UInt32
  drainGrace : UInt64
  maxConnections : UInt64
  heartbeat : Heartbeat
  logLevel : String
deriving DecidableEq, Repr

def Settings.default : Settings where
  host := "127.0.0.1"
  port := 8080
  namespaces := ["/", "/admin"]
  restartEvent := "restart_server"
  restartDelay := 2000
  rebindAttempts := 5
  drainGrace := 250
  maxConnections := 1000
  heartbeat := ⟨25000, 20000⟩
  logLevel := "info"

end SocketGateway.Config
