import ChainRpc.Link.Assembly
import ChainRpc.Link.CloseReason
import ChainRpc.Link.Keepalive
import ChainRpc.Link.Request
import ChainRpc.Rpc.Envelope

/-!
# Connections

A connection is one socket to the node. Its callers queue commands. Its loop does one thing
at a time: it takes the next command, or handles what came from the socket, or pings. An inbound
message completes the request whose id it carries or goes to the listener of the subscription
it names; every other message changes nothing.

A connection that ends fails all requests it has not completed, with an error that tells why,
and forgets its subscriptions. From then on it refuses every request at once.

Every operation gives the connection after it and its effects in their order.
-/

namespace ChainRpc.Link

open Rpc (Envelope Epoch RequestId SubscriptionId)

/-- What the callers of a connection ask of its loop. -/
inductive Command (κ δ : Type) where
  /-- Send a request. -/
  | send (id : RequestId) (payload : String) (request : Request κ δ)
  /-- Close the socket. -/
  | shutdown (reason : CloseReason)

/-- What is written to the socket. -/
inductive Frame where
  | text (payload : String)
  | ping
  /-- The answer to a ping of the node, with the bytes of the ping. -/
  | pong (payload : List UInt8)
  | close (code : Option Nat)
  deriving DecidableEq, Repr

/-- The code of a normal closure. -/
def Frame.normalClosure : Nat := 1000

/-- What an operation of a connection brings about. -/
inductive Effect (κ δ : Type) where
  /-- A request was registered under its id. -/
  | registered (id : RequestId)
  /-- A frame was written to the socket. -/
  | wrote (frame : Frame)
  /-- The owner of a request learned its outcome. -/
  | completed (owner : κ) (outcome : Outcome)
  /-- The listener of a subscription got an event. -/
  | delivered (listener : δ) (method raw : String)

/-- One turn of the loop. Where something is written, the socket may fail. -/
inductive Turn where
  /-- The next command is taken. -/
  | command (failure : Option TransportFault)
  /-- A whole message has come. -/
  | message (bytes : List UInt8)
  /-- A ping has come, which the socket answers. -/
  | ping (payload : List UInt8)
  | pong
  /-- The node closed the socket. -/
  | closed
  /-- The socket failed. -/
  | lost (cause : TransportFault)
  /-- Pings that are due at a moment are sent. -/
  | tick (now : Nat) (failure : Option TransportFault)

/-- One socket to the node. -/
structure Connection (κ δ : Type) where
  epoch : Epoch
  assembly : Assembly
  keepalive : Option Keepalive
  /-- The requests that wait for an answer. -/
  pending : Pending κ δ := .empty
  subscriptions : Subscriptions δ := .empty
  /-- The commands that the loop has not taken, the oldest first. -/
  queue : List (Command κ δ) := []
  /-- Nobody is left who could queue a command. -/
  released : Bool := false
  /-- The loop has ended. -/
  ended : Bool := false

/-- The request of a command. -/
def Command.request? {κ δ : Type} : Command κ δ → Option (Request κ δ)
  | .send _ _ request => some request
  | .shutdown _ => none

/-- A message sent as text; one that is not UTF-8 breaks the rules of the socket. -/
def Turn.text (bytes : List UInt8) : Turn :=
  match Text.Utf8.decode bytes with
  | .ok _ => .message bytes
  | .error fault => .lost (.socket fault.message)

namespace Connection

variable {κ δ : Type}

/-- A connection whose socket was just opened. -/
def start (epoch : Epoch) (settings : Settings) : Connection κ δ where
  epoch := epoch
  assembly := .empty settings.maxMessageSize
  keepalive := settings.keepalive.map Keepalive.start

/-! ### What callers do -/

/-- Queues a request; a connection that has ended completes it at once. -/
def send (connection : Connection κ δ) (id : RequestId) (payload : String)
    (request : Request κ δ) : Connection κ δ × List (Effect κ δ) :=
  if connection.ended then
    (connection, [.completed request.owner (.error .connectionClosed)])
  else
    ({ connection with queue := connection.queue ++ [.send id payload request] }, [])

/-- Asks the loop to close the socket. -/
def shutdown (connection : Connection κ δ) (reason : CloseReason) : Connection κ δ :=
  if connection.ended then connection
  else { connection with queue := connection.queue ++ [.shutdown reason] }

/-- Nobody can queue a command any more. -/
def release (connection : Connection κ δ) : Connection κ δ :=
  { connection with released := true }

/-- Registers a subscription; one of the same name is given up. -/
def register (connection : Connection κ δ) (id : SubscriptionId)
    (registration : Registration δ) : Connection κ δ :=
  { connection with subscriptions := connection.subscriptions.insert id registration }

/-- Forgets a subscription. -/
def unregister (connection : Connection κ δ) (id : SubscriptionId) : Connection κ δ :=
  { connection with subscriptions := connection.subscriptions.erase id }

/-! ### What the loop does -/

/-- Ends the loop: whatever waited is failed, and the subscriptions are forgotten. -/
def finish (connection : Connection κ δ) (reason : CloseReason) :
    Connection κ δ × List (Effect κ δ) :=
  ({ connection with
      pending := .empty
      subscriptions := .empty
      queue := []
      ended := true },
    (connection.pending.values ++ connection.queue.filterMap Command.request?).map
      fun request => .completed request.owner (.error reason.error))

/-- Registers a request and writes its text. A request whose id is in use is failed, and one
whose text cannot be written is failed and forgotten. -/
def transmit (connection : Connection κ δ) (id : RequestId) (payload : String)
    (request : Request κ δ) (failure : Option TransportFault) :
    Connection κ δ × List (Effect κ δ) :=
  match connection.pending.insertNew? id request with
  | none =>
      (connection, [.completed request.owner (.error (.transport (.duplicate id.value)))])
  | some pending =>
      match failure with
      | none =>
          ({ connection with pending }, [.registered id, .wrote (.text payload)])
      | some cause =>
          (connection,
            [.registered id, .completed request.owner (.error (.transport cause))])

/-- Writes a close frame, if the socket takes it, and ends the loop. -/
def hangUp (connection : Connection κ δ) (code : Option Nat) (reason : CloseReason)
    (failure : Option TransportFault) : Connection κ δ × List (Effect κ δ) :=
  let (connection, effects) := connection.finish reason
  match failure with
  | none => (connection, .wrote (.close code) :: effects)
  | some _ => (connection, effects)

/-- Takes the next command. With no command left and nobody to queue one, the socket is closed. -/
def takeCommand (connection : Connection κ δ) (failure : Option TransportFault) :
    Connection κ δ × List (Effect κ δ) :=
  match connection.queue with
  | .send id payload request :: queue =>
      { connection with queue }.transmit id payload request failure
  | .shutdown reason :: queue =>
      { connection with queue }.hangUp (some Frame.normalClosure) reason failure
  | [] =>
      if connection.released then connection.hangUp none .closed failure
      else (connection, [])

/-- Completes the request of an id. A result may register a subscription. -/
def complete (connection : Connection κ δ) (id : RequestId) (outcome : Outcome) :
    Connection κ δ × List (Effect κ δ) :=
  match connection.pending.find? id with
  | some request =>
      ({ connection with
          pending := connection.pending.erase id
          subscriptions := request.settle outcome connection.subscriptions },
        [.completed request.owner outcome])
  | none => (connection, [])

/-- Delivers an event to the listener of its subscription. -/
def deliver (connection : Connection κ δ) (method : String) (id : SubscriptionId)
    (raw : String) : List (Effect κ δ) :=
  match connection.subscriptions.find? id with
  | some registration => [.delivered registration.listener method raw]
  | none => []

/-- Routes the text of one message. -/
def dispatch (connection : Connection κ δ) (text : String) :
    Connection κ δ × List (Effect κ δ) :=
  match Envelope.parse text with
  | .ok (.response id outcome) => connection.complete id (outcome.mapError .rpc)
  | .ok (.notification method id raw) => (connection, connection.deliver method id raw)
  | .error _ => (connection, [])

/-- Handles one whole message. One above the size limit or not in UTF-8 is dropped. -/
def receive (connection : Connection κ δ) (bytes : List UInt8) :
    Connection κ δ × List (Effect κ δ) :=
  let (message, assembly) := connection.assembly.push bytes true
  let connection := { connection with assembly }
  match message with
  | .ok (some text) => connection.dispatch text
  | .ok none | .error _ => (connection, [])

/-- Sends the pings that are due. -/
def tick (connection : Connection κ δ) (now : Nat) (failure : Option TransportFault) :
    Connection κ δ × List (Effect κ δ) :=
  match connection.keepalive with
  | none => (connection, [])
  | some keepalive =>
      let (pings, keepalive) := keepalive.advance now
      match pings, failure with
      | 0, _ => (connection, [])
      | _, none =>
          ({ connection with keepalive := some keepalive },
            List.replicate pings (.wrote .ping))
      | _, some cause => connection.finish (.failed cause)

/-- One turn of the loop; there are none after its end. -/
def turn (connection : Connection κ δ) (turn : Turn) : Connection κ δ × List (Effect κ δ) :=
  if connection.ended then (connection, [])
  else
    match turn with
    | .command failure => connection.takeCommand failure
    | .message bytes => connection.receive bytes
    | .ping payload => (connection, [.wrote (.pong payload)])
    | .pong => (connection, [])
    | .closed => connection.finish .closed
    | .lost cause => connection.finish (.failed cause)
    | .tick now failure => connection.tick now failure

/-- Turns of the loop in their order. -/
def turns (connection : Connection κ δ) : List Turn → Connection κ δ × List (Effect κ δ)
  | [] => (connection, [])
  | turn :: later =>
      let (connection, effects) := connection.turn turn
      let (connection, others) := connection.turns later
      (connection, effects ++ others)

/-- Lets the loop take all commands, and see that nobody is left to queue one. -/
def flush (connection : Connection κ δ) : Connection κ δ × List (Effect κ δ) :=
  connection.turns (List.replicate (connection.queue.length + 1) (.command none))

/-- Lets the loop handle what came from the socket, then all commands, then the pings that are due
at a moment. -/
def settle (connection : Connection κ δ) (inbound : List Turn) (now : Nat) :
    Connection κ δ × List (Effect κ δ) :=
  let (connection, first) := connection.turns inbound
  let (connection, second) := connection.flush
  let (connection, third) := connection.turn (.tick now none)
  (connection, first ++ second ++ third)

/-! ### Runs -/

/-- What happens to a connection. -/
inductive Step (κ δ : Type) where
  | send (id : RequestId) (payload : String) (request : Request κ δ)
  | shutdown (reason : CloseReason)
  | release
  | register (id : SubscriptionId) (registration : Registration δ)
  | unregister (id : SubscriptionId)
  | turn (turn : Turn)

/-- The connection after one step, and the effects of the step. -/
def step (connection : Connection κ δ) : Step κ δ → Connection κ δ × List (Effect κ δ)
  | .send id payload request => connection.send id payload request
  | .shutdown reason => (connection.shutdown reason, [])
  | .release => (connection.release, [])
  | .register id registration => (connection.register id registration, [])
  | .unregister id => (connection.unregister id, [])
  | .turn turn => connection.turn turn

/-- The connection after a sequence of steps, and all their effects. -/
def run (connection : Connection κ δ) :
    List (Step κ δ) → Connection κ δ × List (Effect κ δ)
  | [] => (connection, [])
  | step :: steps =>
      let (connection, effects) := connection.step step
      let (connection, later) := connection.run steps
      (connection, effects ++ later)

/-- Diagnostic text. -/
def debug (connection : Connection κ δ) : String :=
  Text.record "Connection"
    [("epoch", connection.epoch.debug),
     ("pending", toString connection.pending.size),
     ("subscriptions", toString connection.subscriptions.size),
     ("closed", toString connection.ended)]

end Connection

end ChainRpc.Link
