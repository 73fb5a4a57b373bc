import ChainRpc.Duration
import ChainRpc.Power
import ChainRpc.Text.Record

/-!
# Keepalive pings

A connection may ping the node: first after a delay, then once a period. A ping is due at a fixed
moment. When it is sent more than five milliseconds late, the next one is due a period
after it was sent, so missed pings are not made up for; otherwise the moments stay
where they were.
-/

namespace ChainRpc.Link

open Text (record shownOption)

/-- When a connection pings. -/
structure Schedule where
  /-- The time before the first ping. -/
  delay : Duration := .seconds 30
  /-- The time from one ping to the next. -/
  period : Duration := .seconds 45
  deriving DecidableEq, Repr

/-- Diagnostic text. -/
def Schedule.debug (schedule : Schedule) : String :=
  record "KeepAlive" [("delay", schedule.delay.debug), ("period", schedule.period.debug)]

/-- The settings of a connection. -/
structure Settings where
  /-- Without a schedule no pings are sent. -/
  keepalive : Option Schedule := some {}
  /-- The largest size of a message in bytes. -/
  maxMessageSize : Nat := 64 * 2 ^ 20
  deriving DecidableEq, Repr

/-- Diagnostic text. -/
def Settings.debug (settings : Settings) : String :=
  record "ConnectionConfig"
    [("keepalive", shownOption (settings.keepalive.map Schedule.debug)),
     ("max_message_size", toString settings.maxMessageSize)]

/-- A schedule under way. Moments are counted in milliseconds from the start of the connection. -/
structure Keepalive where
  /-- The milliseconds from one ping to the next. -/
  period : Nat
  /-- The moment at which the next ping is due. -/
  due : Nat
  deriving DecidableEq, Repr

namespace Keepalive

/-- How many milliseconds late a ping may be without moving the next ones. -/
def tolerance : Nat := 5

/-- A schedule at the start of its connection. -/
def start (schedule : Schedule) : Keepalive :=
  ⟨schedule.period.milliseconds, schedule.delay.milliseconds⟩

/-- The number of pings to send at a moment, and the schedule after them. -/
def advance (keepalive : Keepalive) (now : Nat) : Nat × Keepalive :=
  if now < keepalive.due then
    (0, keepalive)
  else if keepalive.due + tolerance < now then
    (1, { keepalive with due := now + keepalive.period })
  else
    let pings := (now - keepalive.due) / keepalive.period + 1
    (pings, { keepalive with due := keepalive.due + pings * keepalive.period })

end Keepalive

end ChainRpc.Link
