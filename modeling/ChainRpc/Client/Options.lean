import ChainRpc.Link.Keepalive

/-!
# Options of a client

How long a client waits for a handshake, when its connections ping, how large a message may be,
and whether somebody is told when the client is closed.
-/

namespace ChainRpc.Client

open Link (Schedule Settings)
open Text (record shownOption)

/-- The options of a client. -/
structure Options where
  /-- The longest time for a handshake. -/
  timeout : Duration := .seconds 60
  /-- Without a schedule no pings are sent. -/
  keepalive : Option Schedule := some {}
  /-- The largest size of a message in bytes. -/
  maxMessageSize : Nat := ({} : Settings).maxMessageSize
  /-- Somebody is told when the client is closed. -/
  notifiesClose : Bool := false
  deriving DecidableEq, Repr

namespace Options

/-- The settings of the connections. -/
def settings (options : Options) : Settings :=
  ⟨options.keepalive, options.maxMessageSize⟩

/-- Diagnostic text. -/
def debug (options : Options) : String :=
  record "ClientOptions"
    [("connect_timeout", options.timeout.debug),
     ("keepalive", shownOption (options.keepalive.map Schedule.debug)),
     ("max_message_size", toString options.maxMessageSize),
     ("on_close", toString options.notifiesClose)]

end Options

end ChainRpc.Client
