import ChainRpc.Error
import ChainRpc.Rpc.Identifier

/-!
# Envelopes

Every message from the node is a JSON object. A response carries the id of the request it
answers and either a result or an error; a notification carries a method and the
parameters of a subscription event. Results are kept as the text that the node wrote. The
members of other names are skipped.
-/

namespace ChainRpc.Rpc

open Json (Decoder)

/-- The parameters of a notification. -/
structure EventParams where
  subscription : SubscriptionId
  /-- The text of the event. -/
  result : String
  deriving DecidableEq, Repr

namespace EventParams

/-- Parameters whose fields are still being read. -/
structure Draft where
  subscription : Option SubscriptionId := none
  result : Option String := none

/-- The fields of the parameters in their order. -/
def fields : List (Decoder.Field Draft) :=
  [Decoder.field "subscription" Draft.subscription
      (fun draft id => { draft with subscription := some id }) SubscriptionId.decoder,
   Decoder.field "result" Draft.result
      (fun draft text => { draft with result := some text }) Decoder.raw]

/-- The parameters of a draft. -/
def ofDraft? (draft : Draft) : Option EventParams := do
  pure ⟨← draft.subscription, ← draft.result⟩

/-- Reads the parameters of a notification. -/
def decoder : Decoder EventParams := Decoder.record fields {} ofDraft?

end EventParams

/-- A message with every member it may have. A member is `some` when it was there; those
that may be `null` are `some none` then. -/
structure Members where
  id : Option (Option RequestId) := none
  result : Option String := none
  error : Option (Option ErrorObject) := none
  method : Option (Option String) := none
  params : Option (Option EventParams) := none

namespace Members

/-- The members of a message in their order. -/
def fields : List (Decoder.Field Members) :=
  [Decoder.field "id" Members.id
      (fun members id => { members with id := some id }) (Decoder.nullable RequestId.decoder),
   Decoder.field "result" Members.result
      (fun members text => { members with result := some text }) Decoder.raw,
   Decoder.field "error" Members.error
      (fun members error => { members with error := some error })
      (Decoder.nullable ErrorObject.decoder),
   Decoder.field "method" Members.method
      (fun members method => { members with method := some method })
      (Decoder.nullable Decoder.string),
   Decoder.field "params" Members.params
      (fun members params => { members with params := some params })
      (Decoder.nullable EventParams.decoder)]

/-- Reads a message. -/
def decoder : Decoder Members := Decoder.record fields {} some

end Members

/-- A message from the node. -/
inductive Envelope where
  /-- The answer to a request: the text of the result, or the error. -/
  | response (id : RequestId) (outcome : Except ErrorObject String)
  /-- An event of a subscription, with the text of the event. -/
  | notification (method : String) (subscription : SubscriptionId) (result : String)

namespace Envelope

/-- What the members of a message make it. With an id and no method it is a response, in which
an error wins over a result. -/
def ofMembers (members : Members) : Except Error Envelope :=
  match members.id.join, members.method.join with
  | some id, none =>
      match members.error.join, members.result with
      | some error, _ => .ok (.response id (.error error))
      | none, some result => .ok (.response id (.ok result))
      | none, none => .error (.malformed (.emptyResponse id.value))
  | _, some method =>
      match members.params.join with
      | some params => .ok (.notification method params.subscription params.result)
      | none => .error (.malformed .unclassified)
  | none, none => .error (.malformed .unclassified)

/-- Classifies a message. -/
def parse (text : String) : Except Error Envelope := do
  ofMembers (← (Members.decoder.ofText text).mapError .json)

end Envelope

end ChainRpc.Rpc
