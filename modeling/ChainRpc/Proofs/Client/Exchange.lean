import ChainRpc.Proofs.Client.Messages
import ChainRpc.Proofs.Rpc.Payload
import ChainRpc.Proofs.Rpc.Positions

/-!
# One text and one request

A text can be read as the answer to one request without a connection. Whatever the text, the reading
agrees with what the caller of that request is told when the text comes in as a message: an answer
is the same value or the same error for both, and what the connection passes over the reading
reports as an error of this side. The payload gets through either way as it was written.
-/

namespace ChainRpc.Rpc.Coder

variable {α : Type} {id : RequestId} {text : String} {type : ResultType α}

theorem decode_of_response {reply : Except ErrorObject String}
    (hresponse : Envelope.parse text = .ok (.response id reply)) :
    decode id text type = (reply.mapError .rpc).bind type.decode := by
  unfold decode
  rw [hresponse]
  dsimp only
  rw [if_pos rfl]
  cases reply <;> rfl

/-- Whatever is wrong with the envelope is an error of this side. -/
theorem decode_of_other (hother : ∀ reply, Envelope.parse text ≠ .ok (.response id reply)) :
    ∃ error : ErrorObject, decode id text type = .error (.rpc error) ∧ error.code = -32603 := by
  unfold decode
  split
  next answered outcome hparsed =>
    have hdifferent : answered ≠ id := by
      rintro rfl
      exact hother outcome hparsed
    rw [if_neg hdifferent]
    exact ⟨_, rfl, rfl⟩
  next => exact ⟨_, rfl, rfl⟩
  next => exact ⟨_, rfl, rfl⟩

/-- An error that is not an error object comes from the payload. -/
theorem payload_of_decode_eq_error {error : Error} (hfailed : decode id text type = .error error)
    (hbare : ∀ refusal, error ≠ .rpc refusal) :
    ∃ raw, Envelope.parse text = .ok (.response id (.ok raw)) ∧ type.decode raw = .error error := by
  by_cases hresponse : ∃ reply, Envelope.parse text = .ok (.response id reply)
  · obtain ⟨reply, hparsed⟩ := hresponse
    rw [decode_of_response hparsed] at hfailed
    cases reply with
    | ok raw => exact ⟨raw, hparsed, hfailed⟩
    | error refusal =>
        cases hfailed
        exact absurd rfl (hbare refusal)
  · obtain ⟨refusal, hdecoded, -⟩ : ∃ refusal : ErrorObject,
        decode id text type = .error (.rpc refusal) ∧ _ := decode_of_other (not_exists.mp hresponse)
    rw [hdecoded] at hfailed
    cases hfailed
    exact absurd rfl (hbare refusal)

end ChainRpc.Rpc.Coder

namespace ChainRpc.Client

open Json (Written)
open Link (Connection Outcome responseOf responseOf_eq_some_iff)
open Rpc (Coder Envelope RequestId ResultType SubscriptionId)
open Text (Utf8.decode)

variable {β η : Type}

/-- A call waits on a connection under an id, and its caller wants to know the outcome. -/
structure CallWaits (client : Client β η) (link : Nat)
    (connection : Connection (Waiter β) Ticket) (id : RequestId)
    (request : Link.Request (Waiter β) Ticket) (ticket : Ticket) (type : ResultType β) : Prop where
  found : client.links[link]? = some connection
  pending : connection.pending.find? id = some request
  owner : request.owner = .call ticket type
  wanted : ticket ∈ client.awaited

section Exchange

variable {client : Client β η} {link : Nat} {connection : Connection (Waiter β) Ticket}
  {id : RequestId} {request : Link.Request (Waiter β) Ticket} {ticket : Ticket}
  {type : ResultType β} {bytes : List UInt8} {text : String}

theorem responseOf_eq {limit : Nat} (hdecoded : Utf8.decode bytes = .ok text)
    (hfits : bytes.length ≤ limit) (id : RequestId) (outcome : Outcome) :
    responseOf limit bytes = some (id, outcome) ↔
      ∃ reply, Envelope.parse text = .ok (.response id reply) ∧ reply.mapError .rpc = outcome := by
  rw [responseOf_eq_some_iff]
  constructor
  · rintro ⟨text', reply, -, hdecoded', hparsed, hsame⟩
    rw [hdecoded, Except.ok.injEq] at hdecoded'
    exact ⟨reply, hdecoded' ▸ hparsed, hsame⟩
  · rintro ⟨reply, hparsed, hsame⟩
    exact ⟨text, reply, Nat.not_lt.mpr hfits, hdecoded, hparsed, hsame⟩

/-- The caller of a call is told what the text says, read on its own. -/
theorem CallWaits.answered (hserves : Serves client link connection)
    (hwaits : CallWaits client link connection id request ticket type)
    (hdecoded : Utf8.decode bytes = .ok text) (hfits : bytes.length ≤ connection.assembly.limit)
    {reply : Except Rpc.ErrorObject String}
    (hresponse : Envelope.parse text = .ok (.response id reply)) :
    resolutions ticket (client.turn link (.message bytes)).2 = [Coder.decode id text type] ∧
      ∃ after, (client.turn link (.message bytes)).1.links[link]? = some after ∧
        after.pending.find? id = none := by
  have hcarried : responseOf connection.assembly.limit bytes = some (id, reply.mapError .rpc) :=
    (responseOf_eq hdecoded hfits id _).mpr ⟨reply, hresponse, rfl⟩
  obtain ⟨after, hserving, herased, -, -, hown⟩ := hserves.turn_known hcarried hwaits.pending
  refine ⟨?_, after, hserving.found, ?_⟩
  · rw [(hown ticket type hwaits.owner).1, if_pos hwaits.wanted, Coder.decode_of_response hresponse]
  · rw [herased, Link.Registry.find?_erase, if_pos rfl]

/-- A text that does not answer the call leaves it waiting, and its caller is told nothing. -/
theorem CallWaits.unanswered (hserves : Serves client link connection)
    (hwaits : CallWaits client link connection id request ticket type)
    (hdecoded : Utf8.decode bytes = .ok text) (hfits : bytes.length ≤ connection.assembly.limit)
    (hother : ∀ reply, Envelope.parse text ≠ .ok (.response id reply)) :
    resolutions ticket (client.turn link (.message bytes)).2 = [] ∧
      ∃ after,
        CallWaits (client.turn link (.message bytes)).1 link after id request ticket type := by
  cases hcarried : responseOf connection.assembly.limit bytes with
  | none =>
      obtain ⟨hsame, hsilent⟩ := hserves.turn_other hcarried
      refine ⟨hsilent ticket, connection, ?_⟩
      rwa [hsame]
  | some response =>
      obtain ⟨named, outcome⟩ := response
      have hdifferent : id ≠ named := by
        rintro rfl
        obtain ⟨reply, hparsed, -⟩ := (responseOf_eq hdecoded hfits id outcome).mp hcarried
        exact hother reply hparsed
      cases hknown : connection.pending.find? named with
      | none =>
          rw [hserves.turn_stranger hcarried hknown]
          exact ⟨rfl, connection, hwaits⟩
      | some answered =>
          obtain ⟨after, hserving, herased, -, hothers, -⟩ := hserves.turn_known hcarried hknown
          have hown : request.owner.ticket? = some ticket := by
            rw [hwaits.owner]
            rfl
          obtain ⟨hsilent, hawaited⟩ :=
            hothers ticket (hserves.tickets_ne hknown hwaits.pending hdifferent hown)
          refine ⟨hsilent, after, hserving.found, ?_, hwaits.owner, hawaited.mpr hwaits.wanted⟩
          rw [herased, Link.Registry.find?_erase, if_neg hdifferent, hwaits.pending]

/-- A text that cannot be classified does nothing to a client. -/
theorem turn_unclassified (address : Address) (options : Options) (history : List (Action β η))
    (link : Nat) (hdecoded : Utf8.decode bytes = .ok text) {error : Error}
    (hrefused : Envelope.parse text = .error error) :
    let client := ((fresh address options : Client β η).run history).1
    client.turn link (.message bytes) = (client, []) := by
  intro client
  cases hfound : client.links[link]? with
  | none =>
      unfold Client.turn onLink
      rw [hfound]
  | some connection =>
      by_cases hended : connection.ended = true
      · exact turn_of_ended hfound hended _
      · have hkept : Kept connection :=
          kept_links address options history connection (List.mem_of_getElem? hfound)
        have hnothing : connection.bearing bytes = .nothing := by
          simp [Connection.bearing, Link.envelopeOf, hdecoded, hrefused, Except.toOption]
        rw [turn_message hfound hkept (by simpa using hended), hnothing]

/-- An event goes to the handler of its subscription, with the text that came. -/
theorem turn_event (hfound : client.links[link]? = some connection) (hkept : Kept connection)
    (hrunning : connection.ended = false) {name : SubscriptionId}
    {registration : Link.Registration Ticket}
    (hregistered : connection.subscriptions.find? name = some registration)
    (hdecoded : Utf8.decode bytes = .ok text) (hfits : bytes.length ≤ connection.assembly.limit)
    {method raw : String} (hevent : Envelope.parse text = .ok (.notification method name raw)) :
    client.turn link (.message bytes)
      = (client, client.deliver registration.listener method raw) := by
  have hbears : connection.bearing bytes = .event name registration method raw := by
    have hread : Link.envelopeOf connection.assembly.limit bytes
        = some (.notification method name raw) := by
      simp [Link.envelopeOf, hdecoded, hevent, Except.toOption, Nat.not_lt.mpr hfits]
    simp [Connection.bearing, hread, hregistered]
  rw [turn_message hfound hkept hrunning, hbears]

end Exchange

/-- One reading for both ways. Take any text, id and type of result. A text that answers the
request of the id is read as its result by the type, or as its error; any other is an error of
this side, so that every other error comes from the type and the payload.

Now let the text come in, within the size limit, on a connection of a client after any history, in
which every operation has a ticket of its own, while a call of that id and type waits and its caller
wants to know. The caller is told just what was read if the text answers the call, and the call
is done; otherwise the caller is told nothing, and the call goes on waiting. -/
theorem decode_agrees_with_connection (id : RequestId) (text : String) (type : ResultType β) :
    ((∀ reply, Envelope.parse text = .ok (.response id reply) →
        Coder.decode id text type = (reply.mapError .rpc).bind type.decode) ∧
      ((∀ reply, Envelope.parse text ≠ .ok (.response id reply)) →
        ∃ error : Rpc.ErrorObject, Coder.decode id text type = .error (.rpc error) ∧
          error.code = -32603) ∧
      ∀ error, Coder.decode id text type = .error error → (∀ refusal, error ≠ .rpc refusal) →
        ∃ raw, Envelope.parse text = .ok (.response id (.ok raw)) ∧
          type.decode raw = .error error) ∧
    ∀ (address : Address) (options : Options) (history : List (Action β η)),
      (tickets history).Nodup →
      let client := ((fresh address options : Client β η).run history).1
      ∀ link connection request ticket,
        CallWaits client link connection id request ticket type →
        ∀ bytes, Utf8.decode bytes = .ok text → bytes.length ≤ connection.assembly.limit →
        let after := client.turn link (.message bytes)
        ((∃ reply, Envelope.parse text = .ok (.response id reply)) →
          resolutions ticket after.2 = [Coder.decode id text type] ∧
            ∃ final, after.1.links[link]? = some final ∧ final.pending.find? id = none) ∧
        ((∀ reply, Envelope.parse text ≠ .ok (.response id reply)) →
          resolutions ticket after.2 = [] ∧
            ∃ final, CallWaits after.1 link final id request ticket type) := by
  refine ⟨⟨fun _ => Coder.decode_of_response, Coder.decode_of_other,
    fun _ => Coder.payload_of_decode_eq_error⟩, ?_⟩
  intro address options history hdistinct client link connection request ticket hwaits bytes
    hdecoded hfits
  have hserves : Serves client link connection :=
    serves_of_found address options hdistinct hwaits.found
  constructor
  · rintro ⟨reply, hresponse⟩
    exact hwaits.answered hserves hdecoded hfits hresponse
  · exact hwaits.unanswered hserves hdecoded hfits

/-- The first call of the sample history waits under the id 0. -/
theorem sampleHistory_waits :
    ∃ connection request, connection.assembly.limit = 64 * 2 ^ 20 ∧
      CallWaits ((fresh sampleAddress {} : Client String Unit).run sampleHistory).1 0 connection ⟨0⟩
        request 0 sampleCall.result :=
  ⟨_, _, rfl, rfl, rfl, rfl, by decide⟩

/-- The number 5 as a JSON text. -/
theorem written_sampleResult :
    Json.Written "5" [] (.number ⟨false, ['5'], none, none⟩) [] := by
  apply Json.Document.ofText_eq_iff.mp
  exact ⟨rfl, rfl⟩

/-- The first call of the sample history is told what the reading of its answer gives. The answer
to somebody else is an error for the reading, and nothing for the call. -/
theorem sampleHistory_decode_agrees :
    let client := ((fresh sampleAddress {} : Client String Unit).run sampleHistory).1
    let own := Envelope.responseText ⟨0⟩ "5"
    let foreign := Envelope.responseText ⟨9⟩ "5"
    resolutions 0 (client.turn 0 (.message (Text.Utf8.encode own))).2
        = [Coder.decode ⟨0⟩ own sampleCall.result] ∧
      resolutions 0 (client.turn 0 (.message (Text.Utf8.encode foreign))).2 = [] ∧
      ∃ error : Rpc.ErrorObject,
        Coder.decode ⟨0⟩ foreign sampleCall.result = .error (.rpc error) ∧
          error.code = -32603 := by
  intro client own foreign
  have hanswers : Envelope.parse own = .ok (.response ⟨0⟩ (.ok "5")) :=
    Envelope.parse_responseText written_sampleResult (by decide)
  have hstrays : Envelope.parse foreign = .ok (.response ⟨9⟩ (.ok "5")) :=
    Envelope.parse_responseText written_sampleResult (by decide)
  have hother : ∀ reply, Envelope.parse foreign ≠ .ok (.response ⟨0⟩ reply) := by
    intro reply hparsed
    rw [hstrays] at hparsed
    cases hparsed
  obtain ⟨connection, request, hlimit, hwaits⟩ := sampleHistory_waits
  have hboth (text : String) := decode_agrees_with_connection (η := Unit) ⟨0⟩ text sampleCall.result
  refine ⟨?_, ?_, (hboth foreign).1.2.1 hother⟩
  · have htold := (hboth own).2 sampleAddress {} sampleHistory (by decide) 0 connection request 0
      hwaits _ (Text.Utf8.decode_encode own) (by rw [hlimit]; decide +kernel)
    exact (htold.1 ⟨_, hanswers⟩).1
  · have htold := (hboth foreign).2 sampleAddress {} sampleHistory (by decide) 0 connection request
      0 hwaits _ (Text.Utf8.decode_encode foreign) (by rw [hlimit]; decide +kernel)
    exact (htold.2 hother).1

/-- The payload gets through untouched. Take any JSON text between blanks, for a result.

* In a response to any id it is read as it stands, without the blanks, and the reading of a
  single answer gives just that text to the type of the result.
* In an event it is read as it stands, whatever the method and the name of the subscription, and
  however these are spelled; how they are printed is one way.
* Any call that waits on a connection of a client is told what its type makes of that text, and
  any handler of a subscription gets what its type makes of it. -/
theorem payload_untouched {payload : String} {before after : List Char} {result : Json.Node}
    (hwritten : Written payload before result after) :
    let raw := String.ofList result.text
    (∀ id : RequestId, id.value < 2 ^ 64 →
      Envelope.parse (Envelope.responseText id payload) = .ok (.response id (.ok raw)) ∧
        ∀ type : ResultType β,
          Coder.decode id (Envelope.responseText id payload) type = type.decode raw) ∧
    (∀ method literal, Json.Spells literal method →
      ∀ (id : SubscriptionId) (name : Json.Node), id.SpelledBy name →
        Envelope.parse (Envelope.eventText (String.ofList (Json.quote literal))
            (String.ofList name.text) payload) = .ok (.notification method id raw)) ∧
    (∀ (method : String) (id : SubscriptionId), id.Fits →
      Envelope.parse (Envelope.eventText (Json.Value.string method).text id.toJson.text payload)
        = .ok (.notification method id raw)) ∧
    ∀ (address : Address) (options : Options) (history : List (Action β η)),
      (tickets history).Nodup →
      let client := ((fresh address options : Client β η).run history).1
      (∀ link connection id request ticket type,
        CallWaits client link connection id request ticket type → id.value < 2 ^ 64 →
        ∀ bytes, Utf8.decode bytes = .ok (Envelope.responseText id payload) →
          bytes.length ≤ connection.assembly.limit →
          resolutions ticket (client.turn link (.message bytes)).2 = [type.decode raw]) ∧
      ∀ (link : Nat) (connection : Connection (Waiter β) Ticket),
        client.links[link]? = some connection → connection.ended = false →
        ∀ (method : String) (id : SubscriptionId) (registration : Link.Registration Ticket),
          id.Fits → connection.subscriptions.find? id = some registration →
          ∀ bytes,
            Utf8.decode bytes
              = .ok (Envelope.eventText (Json.Value.string method).text id.toJson.text payload) →
            bytes.length ≤ connection.assembly.limit →
            client.turn link (.message bytes)
              = (client, client.deliver registration.listener method raw) := by
  intro raw
  have hresponse {id : RequestId} (hfits : id.value < 2 ^ 64) :=
    Envelope.parse_responseText hwritten hfits
  have hevent {method literal} (hspells : Json.Spells literal method) {id : SubscriptionId}
      {name : Json.Node} (hspelled : id.SpelledBy name) :=
    Envelope.parse_eventText hwritten hspells hspelled
  have hprinted (method : String) {id : SubscriptionId} (hfits : id.Fits) :
      Envelope.parse (Envelope.eventText (Json.Value.string method).text id.toJson.text payload)
        = .ok (.notification method id raw) := by
    have hshown := hevent (Json.spells_printed method) (SubscriptionId.spelledBy_node hfits)
    rwa [SubscriptionId.text_node] at hshown
  refine ⟨fun id hfits => ⟨hresponse hfits, fun type => Coder.decode_of_response (hresponse hfits)⟩,
    fun _ _ hspells _ _ hspelled => hevent hspells hspelled,
    fun method _ hfits => hprinted method hfits, ?_⟩
  intro address options history hdistinct client
  constructor
  · intro link connection id request ticket type hwaits hfits bytes hdecoded hsmall
    have hserves : Serves client link connection :=
      serves_of_found address options hdistinct hwaits.found
    obtain ⟨htold, -⟩ := hwaits.answered hserves hdecoded hsmall (hresponse hfits)
    rw [htold, Coder.decode_of_response (hresponse hfits)]
    rfl
  · intro link connection hfound hrunning method id registration hfits hregistered bytes hdecoded
      hsmall
    have hkept : Kept connection :=
      kept_links address options history connection (List.mem_of_getElem? hfound)
    exact turn_event hfound hkept hrunning hregistered hdecoded hsmall (hprinted method hfits)

/-- The result `["]\ud800",1e400]`, with an unpaired surrogate and a number above all doubles. -/
def samplePayload : Json.Node :=
  .array <|
    .item [] (.string [.plain ']', .unit 'd' '8' '0' '0']) [] <|
    .item [] (.number ⟨false, ['1'], none, some ⟨'e', none, ['4', '0', '0']⟩⟩) [] <|
    .close []

/-- The sample payload gets through responses and events, and to the first call of the sample
history. -/
theorem samplePayload_untouched :
    let client := ((fresh sampleAddress {} : Client String Unit).run sampleHistory).1
    let raw := String.ofList samplePayload.text
    let payload := String.ofList ([' '] ++ samplePayload.text ++ [' '])
    Envelope.parse (Envelope.responseText ⟨7⟩ payload) = .ok (.response ⟨7⟩ (.ok raw)) ∧
      Envelope.parse (Envelope.eventText (Json.Value.string "m").text (Json.Value.string "s").text
        payload) = .ok (.notification "m" (.string "s") raw) ∧
      resolutions 0 (client.turn 0
        (.message (Text.Utf8.encode (Envelope.responseText ⟨0⟩ payload)))).2 = [.ok raw] := by
  intro client raw payload
  have hwritten : Written payload [' '] samplePayload [' '] := by
    apply Json.Document.ofText_eq_iff.mp
    unfold Json.Document.ofText
    rw [String.toList_ofList]
    exact ⟨rfl, rfl⟩
  obtain ⟨hresponses, -, hevents, htold⟩ := payload_untouched (β := String) (η := Unit) hwritten
  obtain ⟨connection, request, hlimit, hwaits⟩ := sampleHistory_waits
  refine ⟨(hresponses ⟨7⟩ (by decide)).1, hevents "m" (.string "s") trivial, ?_⟩
  exact (htold sampleAddress {} sampleHistory (by decide)).1 0 connection ⟨0⟩ request 0
    sampleCall.result hwaits (by decide) _ (Text.Utf8.decode_encode _)
    (by rw [hlimit]; decide +kernel)

/-- A text that is neither a JSON object nor a JSON array of five items or fewer is refused, and
does nothing to any client on any of its connections after any history: no request is completed,
no event is delivered. An array of five items or fewer is not refused for its shape: it is read
as the object whose members are its items, the id first, then the result, the error, the method
and the parameters. -/
theorem other_texts_do_nothing :
    (∀ text, ¬Envelope.IsObject text → ¬Envelope.IsShortArray text 5 →
      Envelope.parse text = .error (.json .shape) ∧
        ∀ (address : Address) (options : Options) (history : List (Action β η)) link bytes,
          Utf8.decode bytes = .ok text →
          let client := ((fresh address options : Client β η).run history).1
          client.turn link (.message bytes) = (client, [])) ∧
    ∀ text before items after, Written text before (.array items) after → items.length ≤ 5 →
      Envelope.parse text = Envelope.parse (Envelope.objectText items) := by
  constructor
  · intro text hobject harray
    have hrefused := Envelope.parse_other hobject harray
    refine ⟨hrefused, ?_⟩
    intro address options history link bytes hdecoded
    exact turn_unclassified address options history link hdecoded hrefused
  · intro text before items after hwritten hshort
    exact Envelope.parse_array hwritten hshort

/-- The items of an array without blanks. -/
def sampleItems : List Json.Node → Json.Items
  | [] => .close []
  | value :: values => .item [] value [] (sampleItems values)

/-- The text of an array without blanks. -/
def sampleArray (values : List Json.Node) : String :=
  String.ofList (Json.Node.array (sampleItems values)).text

theorem isProper_sampleItems {values : List Json.Node} (hproper : ∀ value ∈ values, value.IsProper)
    (first : Bool) : (sampleItems values).IsProper first := by
  induction values generalizing first with
  | nil => cases first <;> simp [sampleItems, Json.Items.IsProper, Json.isGap_nil]
  | cons value values ih =>
      obtain ⟨hnow, hlater⟩ := List.forall_mem_cons.mp hproper
      exact ⟨Json.isGap_nil, hnow, Json.isGap_nil, ih hlater false⟩

theorem written_sampleArray {values : List Json.Node} (hproper : ∀ value ∈ values, value.IsProper) :
    Written (sampleArray values) [] (.array (sampleItems values)) [] := by
  have harray : (Json.Node.array (sampleItems values)).IsProper := isProper_sampleItems hproper true
  have hwritten := Json.written_ofList Json.isGap_nil harray Json.isGap_nil
  rwa [List.nil_append, List.append_nil] at hwritten

/-- The items of `[0,1]`. -/
def samplePair : List Json.Node := [.number (.ofNat 0), .number (.ofNat 1)]

theorem isProper_samplePair : ∀ value ∈ samplePair, value.IsProper := by
  simp [samplePair, Json.Node.IsProper, Json.Numeral.isProper_ofNat]

/-- An array is no object. -/
theorem not_isObject_of_array {text : String} {before after : List Char} {items : Json.Items}
    (hwritten : Written text before (.array items) after) : ¬Envelope.IsObject text := by
  rintro ⟨before', members, after', hwritten'⟩
  have harray := (Json.Document.ofText_eq_iff.mpr hwritten).1
  rw [(Json.Document.ofText_eq_iff.mpr hwritten').1] at harray
  cases harray

/-- Six items are refused, and the two items of `[0,1]` are an id and a result. -/
theorem sampleArray_does_nothing :
    let client := ((fresh sampleAddress {} : Client String Unit).run sampleHistory).1
    let long := sampleArray (samplePair ++ [.null, .null, .null, .null])
    client.turn 0 (.message (Text.Utf8.encode long)) = (client, []) ∧
      Envelope.parse (sampleArray samplePair)
        = Envelope.parse (Envelope.objectText (sampleItems samplePair)) := by
  intro client long
  have hwritten : Written long []
      (.array (sampleItems (samplePair ++ [.null, .null, .null, .null]))) [] := by
    apply written_sampleArray
    intro value hmem
    obtain hown | hmore := List.mem_append.mp hmem
    · exact isProper_samplePair value hown
    · simp only [List.mem_cons, List.not_mem_nil, or_false, or_self] at hmore
      subst hmore
      trivial
  have hshort : ¬Envelope.IsShortArray long 5 := by
    rintro ⟨before, items, after, hwritten', hfew⟩
    have harray := (Json.Document.ofText_eq_iff.mpr hwritten).1
    rw [(Json.Document.ofText_eq_iff.mpr hwritten').1] at harray
    cases harray
    contradiction
  obtain ⟨hothers, harrays⟩ := other_texts_do_nothing (β := String) (η := Unit)
  refine ⟨?_, harrays _ [] _ [] (written_sampleArray isProper_samplePair) (by decide)⟩
  exact (hothers long (not_isObject_of_array hwritten) hshort).2 sampleAddress {} sampleHistory 0 _
    (Text.Utf8.decode_encode long)

/-- The array `[0,1]` is a response, and completes the first call of the sample history. -/
theorem samplePair_answers :
    (¬∀ text, ¬Envelope.IsObject text → ∃ fault, Envelope.parse text = .error (.json fault)) ∧
      let client := ((fresh sampleAddress {} : Client String Unit).run sampleHistory).1
      resolutions 0 (client.turn 0 (.message (Text.Utf8.encode (sampleArray samplePair)))).2
        = [.ok "1"] := by
  have hwritten := written_sampleArray isProper_samplePair
  have hresponse : Envelope.parse (sampleArray samplePair) = .ok (.response ⟨0⟩ (.ok "1")) := by
    have hobject := Envelope.written_objectText hwritten.proper (by decide)
    rw [Envelope.parse_array hwritten (by decide),
      Envelope.parse_of_object (Json.Document.ofText_eq_iff.mpr hobject).1]
    rfl
  constructor
  · intro hclaimed
    obtain ⟨fault, hrefused⟩ := hclaimed _ (not_isObject_of_array hwritten)
    rw [hresponse] at hrefused
    cases hrefused
  · intro client
    obtain ⟨connection, request, hlimit, hwaits⟩ := sampleHistory_waits
    have hserves : Serves client 0 connection :=
      serves_of_found sampleAddress {} (by decide) hwaits.found
    have htold := (hwaits.answered hserves (Text.Utf8.decode_encode (sampleArray samplePair))
      (by rw [hlimit]; decide +kernel) hresponse).1
    rw [htold, Coder.decode_of_response hresponse]
    rfl

end ChainRpc.Client
