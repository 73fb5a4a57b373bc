import ChainRpc.Address.Reader
import ChainRpc.Client.Options
import ChainRpc.Error

/-!
# Building a client

A builder gathers the address and the options of a client in any order and checks them at the
end. The schedule of pings and the decision to ping at all are kept apart: setting a part of the
schedule starts from the usual schedule when there is none, and only the decision not to ping
takes the schedule away.
-/

namespace ChainRpc.Client

open Link (Schedule)
open Text (record shownOption)

/-- The address and the options of a client as they were given. -/
structure Builder where
  address : Option String := none
  options : Options := {}
  /-- The decision whether to ping, if one was made. -/
  pings : Option Bool := none
  deriving DecidableEq, Repr

namespace Builder

/-- What a builder can be given. -/
inductive Setting where
  | address (text : String)
  | timeout (duration : Duration)
  | keepaliveDelay (duration : Duration)
  | keepalivePeriod (duration : Duration)
  | keepalive (enabled : Bool)
  | maxMessageSize (bytes : Nat)
  | notifiesClose
  /-- All options at once; the decision whether to ping stays. -/
  | options (options : Options)
  deriving DecidableEq, Repr

/-- The builder with a change to its schedule. -/
def reschedule (builder : Builder) (change : Schedule → Schedule) : Builder :=
  { builder with
    options.keepalive := some (change (builder.options.keepalive.getD {})) }

/-- The builder with one more setting. -/
def set (builder : Builder) : Setting → Builder
  | .address text => { builder with address := some text }
  | .timeout duration => { builder with options.timeout := duration }
  | .keepaliveDelay duration =>
      builder.reschedule fun schedule => { schedule with delay := duration }
  | .keepalivePeriod duration =>
      builder.reschedule fun schedule => { schedule with period := duration }
  | .keepalive enabled => { builder with pings := some enabled }
  | .maxMessageSize bytes => { builder with options.maxMessageSize := bytes }
  | .notifiesClose => { builder with options.notifiesClose := true }
  | .options options => { builder with options }

/-- The address, if it is that of a node. -/
def checkedAddress (builder : Builder) : Except Error Address :=
  match builder.address with
  | none => .error (.config .missingAddress)
  | some text =>
      match Address.read text with
      | .error fault => .error (.url fault)
      | .ok (.other scheme) => .error (.config (.scheme scheme))
      | .ok (.network address) =>
          if Address.isNodeScheme address.scheme then .ok address
          else .error (.config (.scheme address.scheme))

/-- The options, if none of them is zero that must not be. -/
def checkedOptions (builder : Builder) : Except Error Options :=
  let options := builder.options
  let keepalive := if builder.pings = some false then none else options.keepalive
  if options.timeout.isZero then .error (.config .zeroTimeout)
  else if keepalive.any fun schedule => schedule.period.isZero then .error (.config .zeroPeriod)
  else if options.maxMessageSize = 0 then .error (.config .zeroLimit)
  else .ok { options with keepalive }

/-- Diagnostic text. -/
def debug (builder : Builder) : String :=
  record "ClientBuilder"
    [("url", shownOption (builder.address.map Text.Quoted.text)),
     ("options", builder.options.debug),
     ("keepalive_enabled", shownOption (builder.pings.map toString))]

end Builder

end ChainRpc.Client
