import ChainRpc.Client.Builder
import ChainRpc.Json.Access

/-!
# Settings from JSON

The settings of a client by name. Times are in milliseconds; a schedule is a list of the delay
and the period, or `null` for none.
-/

namespace ChainRpc.Client

open Json (Value)
open Link (Schedule)

/-- A duration in milliseconds. -/
def durationOfJson? (value : Value) : Option Duration := value.natural?.map Duration.mk

/-- A schedule, or none. -/
def scheduleOfJson? : Value → Option (Option Schedule)
  | .null => some none
  | .array [delay, period] => do
      pure (some ⟨← durationOfJson? delay, ← durationOfJson? period⟩)
  | _ => none

/-- The value of a member that may be left out. -/
def memberOr? {α : Type} (value : Value) (key : String) (usual : α)
    (read : Value → Option α) : Option α :=
  match value.member? key with
  | some member => read member
  | none => some usual

/-- Options, of which those that are left out are the usual ones. -/
def Options.ofJson? (value : Value) : Option Options := do
  let usual : Options := {}
  pure {
    timeout := ← memberOr? value "connect_timeout" usual.timeout durationOfJson?
    keepalive := ← memberOr? value "keepalive" usual.keepalive scheduleOfJson?
    maxMessageSize := ← memberOr? value "max_message_size" usual.maxMessageSize Value.natural?
    notifiesClose := ← memberOr? value "on_close" usual.notifiesClose Value.bool? }

/-- The setting of a name and a value. -/
def Builder.Setting.ofJson? (name : String) (value : Value) : Option Builder.Setting :=
  match name with
  | "url" => value.string?.map .address
  | "connect_timeout" => (durationOfJson? value).map .timeout
  | "keepalive_delay" => (durationOfJson? value).map .keepaliveDelay
  | "keepalive_period" => (durationOfJson? value).map .keepalivePeriod
  | "keepalive" => value.bool?.map .keepalive
  | "max_message_size" => value.natural?.map .maxMessageSize
  | "on_close" => some .notifiesClose
  | "options" => (Options.ofJson? value).map .options
  | _ => none

end ChainRpc.Client
