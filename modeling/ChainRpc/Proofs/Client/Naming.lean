import ChainRpc.Proofs.Client.Provenance
import ChainRpc.Proofs.Rpc.Names
import ChainRpc.Proofs.Rpc.Requests

/-!
# Names that come back

A node names a subscription with a JSON value, and the client gives this value back. The request
that ends the subscription has it as its only parameter, an event is routed by it, and no other
value is taken for it, however both are spelled or shown.
-/

namespace ChainRpc.Client

open Json (Means Written)
open Link (Connection frames)
open Rpc (Coder Envelope RequestId SubscriptionId)
open Text (Utf8.decode)

variable {β η : Type}

/-! ### Names that come in again -/

theorem subscriptionOf_eq_ok_iff_means {raw : String} {name : SubscriptionId} :
    subscriptionOf raw = .ok name ↔ Means raw name.toJson := by
  rw [subscriptionOf_eq_ok_iff_ofText]
  constructor
  · intro hdecoded
    obtain ⟨before, node, after, hwritten, hdecoded⟩ :=
      SubscriptionId.careful_decoder.written_of_ofText hdecoded
    exact ⟨before, node, after, hwritten, SubscriptionId.decoder_eq_ok_iff_means.mp hdecoded⟩
  · rintro ⟨before, node, after, hwritten, hmeans⟩
    rw [Json.Decoder.ofText_of_written _ hwritten]
    exact SubscriptionId.decoder_eq_ok_iff_means.mpr hmeans

theorem Names.means {raw : String} {name : SubscriptionId} (hnames : Names raw name) :
    Means raw name.toJson := subscriptionOf_eq_ok_iff_means.mp (subscriptionOf_eq_ok_iff.mpr hnames)

/-- The text is a request of the number and the method, and the name is its only parameter. -/
structure Returns (payload : String) (id : RequestId) (method : String)
    (name : SubscriptionId) : Prop where
  text : payload = Coder.encode id method [name.toJson]
  content : Json.Decoder.value.ofText payload = .ok (Coder.content id method [name.toJson])

theorem Returns.of_names {raw method : String} {name : SubscriptionId} {id : RequestId}
    (hnames : Names raw name) (hsmall : id.value < 2 ^ 64) :
    Returns (Coder.encode id method [name.toJson]) id method name where
  text := rfl
  content := by
    obtain ⟨-, node, -, -, hmeans⟩ := hnames.means
    refine Coder.ofText_encode hsmall ?_ ?_
    · intro param hmem
      rw [List.mem_singleton.mp hmem]
      exact SubscriptionId.isFaithful_toJson (SubscriptionId.fits_of_means hmeans)
    · have hflat := name.depth_toJson
      simp [Coder.request, Json.Value.depth, Json.membersDepth, Json.itemsDepth, hflat,
        RequestId.toJson, Json.Value.nat, Json.nestingLimit]

theorem Ends.returns {origin : Client β η} {history : List (Action β η)} {place : Nat}
    {ticket : Ticket} {method : String} {params : List Json.Value} {id : RequestId}
    (hends : Ends origin history place ticket method params) (hsmall : id.value < 2 ^ 64) :
    ∃ raw name, Answered origin history place ticket method raw ∧ Means raw name.toJson ∧
      Returns (Coder.encode id method params) id method name := by
  obtain ⟨raw, name, hanswered, hnames, rfl⟩ := hends
  exact ⟨raw, name, hanswered, hnames.means, .of_names hnames hsmall⟩

/-- The message keeps to the limit and is the text of an event, in which the name is spelled as this
member and the result is this value. -/
def Carries (limit : Nat) (bytes : List UInt8) (method : String) (member result : Json.Node) :
    Prop :=
  ∃ text before members after, bytes.length ≤ limit ∧ Utf8.decode bytes = .ok text ∧
    Written text before (.object members) after ∧
    Envelope.Notifies members method member result

section Carries

variable {connection : Connection (Waiter β) Ticket} {bytes : List UInt8} {method : String}
  {member result : Json.Node}

theorem envelopeOf_of_carries {limit : Nat} (hcarries : Carries limit bytes method member result) :
    (∀ given name raw, Link.envelopeOf limit bytes = some (.notification given name raw) ↔
      given = method ∧ raw = String.ofList result.text ∧ member.meaning? = some name.toJson) ∧
    ∀ id outcome, Link.envelopeOf limit bytes ≠ some (.response id outcome) := by
  obtain ⟨text, before, members, after, hwithin, hdecoded, hwritten, hnotifies⟩ := hcarries
  have hread : Link.envelopeOf limit bytes = (Envelope.parse text).toOption := by
    unfold Link.envelopeOf
    rw [if_neg (Nat.not_lt.mpr hwithin), hdecoded]
    rfl
  simp only [hread, ne_eq, Json.toOption_eq_some_iff]
  exact Envelope.parse_of_notifies hwritten hnotifies

/-- An event bears on the subscription whose name its member means. -/
theorem bearing_eq_event_iff
    (hcarries : Carries connection.assembly.limit bytes method member result)
    {name : SubscriptionId} {registration : Link.Registration Ticket}
    (hregistered : connection.subscriptions.find? name = some registration) :
    connection.bearing bytes = .event name registration method (String.ofList result.text) ↔
      member.meaning? = some name.toJson := by
  obtain ⟨hnotification, -⟩ := envelopeOf_of_carries hcarries
  constructor
  · intro hbears
    have hspec := connection.bearing_spec bytes
    rw [hbears] at hspec
    exact ((hnotification ..).mp hspec.1).2.2
  · intro hmeans
    unfold Connection.bearing
    rw [(hnotification method name _).mpr ⟨rfl, rfl, hmeans⟩]
    dsimp only
    rw [hregistered]

/-- An event whose member means no name that is registered bears on nothing. -/
theorem bearing_eq_nothing
    (hcarries : Carries connection.assembly.limit bytes method member result)
    (hunknown : ∀ name registration, connection.subscriptions.find? name = some registration →
      member.meaning? ≠ some name.toJson) : connection.bearing bytes = .nothing := by
  obtain ⟨hnotification, hnoResponse⟩ := envelopeOf_of_carries hcarries
  have hspec := connection.bearing_spec bytes
  cases hbears : connection.bearing bytes with
  | answer id request outcome =>
      rw [hbears] at hspec
      obtain ⟨reply, hread, -⟩ := hspec
      exact absurd hread (hnoResponse id reply)
  | event name registration given raw =>
      rw [hbears] at hspec
      obtain ⟨hread, hregistered⟩ := hspec
      exact absurd ((hnotification ..).mp hread).2.2 (hunknown name registration hregistered)
  | nothing => rfl

end Carries

/-- What happens to one name leaves whoever holds another one. -/
theorem registered?_step_of_not_takes (address : Address) (options : Options)
    (history : List (Action β η)) {action : Action β η} {place : Nat} {name : SubscriptionId}
    (hpasses : ¬(((fresh address options).run history).1.occurrence action).Takes place name) :
    (((fresh address options).run history).1.step action).1.registered? place name
      = ((fresh address options).run history).1.registered? place name := by
  have htracks := (Tracks.fresh address options : Tracks (_ : Client β η) []).run
    (kept_links address options []) history
  have hafter := (htracks.step (kept_links address options history) action).1
  rw [hafter.registered, htracks.registered, holder_of_not_takes hpasses]

/-- The occurrence is about a name: its subscription is opened or closed, or nobody holds it. -/
def Occurrence.About (place : Nat) (name : SubscriptionId) : Occurrence β η → Prop
  | .opened link id _ _ | .orphaned link id | .closed link id => link = place ∧ id = name
  | .ended _ | .attached _ _ | .notice _ _ _ _ | .nothing => False

theorem Occurrence.About.not_takes {occurrence : Occurrence β η} {place link : Nat}
    {name other : SubscriptionId} (habout : occurrence.About place name)
    (hdifferent : name ≠ other) : ¬occurrence.Takes link other := by
  cases occurrence with
  | opened | orphaned | closed =>
      intro htakes
      exact hdifferent (habout.2.symm.trans htakes.2)
  | _ => exact habout.elim

/-- Names come back as they came, and no two are taken for one another. After any history:

* The answer to a subscribe call gives a name if it is JSON, in any spelling, for a string or for
  a whole number of 64 bits, and the name is this value.
* When a connection writes the request that closes a subscription, the node has answered the
  subscribe call of the handle on this connection, and the request has the method that this call
  named and one parameter, the value that the answer means. The same goes for the request that ends
  a subscription which nobody holds.
* Whatever is registered was named by an answer to the call that listens. An event goes to
  a registered subscription exactly if the member for the name means the same value as this answer,
  however it is spelled, and if it means no name that is registered, it goes nowhere.
* What happens to one name takes no other one away. A number is another name than the string of its
  digits, although both are shown alike.
* The text of a name is read as the name.
* If every operation has a ticket of its own, one call has one answer, so one listener has one
  name. -/
theorem names_come_back (address : Address) (options : Options) (history : List (Action β η)) :
    let origin : Client β η := fresh address options
    let client := (origin.run history).1
    (∀ raw name, subscriptionOf raw = .ok name ↔ Means raw name.toJson) ∧
    (∀ (place : Nat) (connection : Connection (Waiter β) Ticket) (turn : Link.Turn)
        (payload : String), client.links[place]? = some connection →
      .text payload ∈ frames (connection.turn turn).2 →
      ∃ id request queue, connection.queue = .send id payload request :: queue ∧
        (∀ closing, request.owner = .closer closing →
          ∃ before handle after raw name,
            history = before ++ .unsubscribe closing handle :: after ∧
            Answered origin before place handle request.method raw ∧ Means raw name.toJson ∧
            Returns payload id request.method name) ∧
        (request.owner = .nobody →
          ∃ ticket raw name, Answered origin history place ticket request.method raw ∧
            Means raw name.toJson ∧ Returns payload id request.method name)) ∧
    (∀ (place : Nat) (connection : Connection (Waiter β) Ticket),
      client.links[place]? = some connection →
      (∀ name registration, connection.subscriptions.find? name = some registration →
        ∃ unsubscribe raw, Answered origin history place registration.listener unsubscribe raw ∧
          Means raw name.toJson) ∧
      ∀ bytes method member result,
        Carries connection.assembly.limit bytes method member result →
        (∀ name registration, connection.subscriptions.find? name = some registration →
          (connection.bearing bytes = .event name registration method (String.ofList result.text) ↔
            member.meaning? = some name.toJson) ∧
          (member.meaning? = some name.toJson →
            client.turn place (.message bytes) = (client,
              client.deliver registration.listener method (String.ofList result.text)))) ∧
        ((∀ name registration, connection.subscriptions.find? name = some registration →
            member.meaning? ≠ some name.toJson) →
          client.turn place (.message bytes) = (client, []))) ∧
    (∀ name other : SubscriptionId, name ≠ other →
      name.toJson ≠ other.toJson ∧
      ∀ (place : Nat) (action : Action β η), (client.occurrence action).About place name →
        ∀ link, (client.step action).1.registered? link other = client.registered? link other) ∧
    (∀ n : Nat, SubscriptionId.number n ≠ .string (toString n) ∧
      (SubscriptionId.number n).text = (SubscriptionId.string (toString n)).text) ∧
    (∀ name : SubscriptionId, name.Fits →
      SubscriptionId.decoder.ofText name.toJson.text = .ok name) ∧
    ((tickets history).Nodup → ∀ ticket place unsubscribe raw place' unsubscribe' raw',
      Answered origin history place ticket unsubscribe raw →
      Answered origin history place' ticket unsubscribe' raw' →
      place = place' ∧ unsubscribe = unsubscribe' ∧ raw = raw') := by
  intro origin client
  have hkept : AllLinks Kept client := kept_links address options history
  have hprovenance : Provenance origin history := provenance_run address options history
  refine ⟨fun raw name => subscriptionOf_eq_ok_iff_means, ?_, ?_, ?_, ?_, ?_, ?_⟩
  · intro place connection turn payload hfound hwritten
    obtain ⟨id, request, queue, hnext, -, -, -⟩ := connection.registered_before_written hwritten
    have hmem : .send id payload request ∈ connection.queue := hnext ▸ List.mem_cons_self
    obtain ⟨hsmall, params, rfl, hsourced⟩ :=
      hprovenance.queued place connection id payload request hfound hmem
    refine ⟨id, request, queue, hnext, ?_, ?_⟩
    · intro closing howner
      rw [howner] at hsourced
      obtain ⟨before, handle, later, hsplit, hends⟩ := hsourced
      obtain ⟨raw, name, hanswered, hmeans, hreturns⟩ := hends.returns hsmall
      exact ⟨before, handle, later, raw, name, hsplit, hanswered, hmeans, hreturns⟩
    · intro howner
      rw [howner] at hsourced
      obtain ⟨ticket, hends⟩ := hsourced
      obtain ⟨raw, name, hanswered, hmeans, hreturns⟩ := hends.returns hsmall
      exact ⟨ticket, raw, name, hanswered, hmeans, hreturns⟩
  · intro place connection hfound
    have hkeeps := hkept connection (List.mem_of_getElem? hfound)
    refine ⟨?_, fun bytes method member result hcarries => ⟨?_, ?_⟩⟩
    · intro name registration hlistens
      have hregistered : client.registered? place name = some registration.listener := by
        unfold registered?
        rw [hfound, Option.bind_some, hlistens]
        rfl
      obtain ⟨unsubscribe, raw, hanswered, hnames⟩ := answered_of_registered hregistered
      exact ⟨unsubscribe, raw, hanswered, hnames.means⟩
    · intro name registration hlistens
      have hrouted := bearing_eq_event_iff hcarries hlistens
      refine ⟨hrouted, fun hmeans => ?_⟩
      rw [turn_message hfound hkeeps (hkeeps.running_of_registered hlistens), hrouted.mpr hmeans]
    · intro hunknown
      by_cases hended : connection.ended = true
      · exact turn_of_ended hfound hended _
      · rw [turn_message hfound hkeeps (by simpa using hended),
          bearing_eq_nothing hcarries hunknown]
  · intro name other hdifferent
    refine ⟨fun hsame => hdifferent (SubscriptionId.toJson_injective hsame), ?_⟩
    intro place action habout link
    exact registered?_step_of_not_takes address options history (habout.not_takes hdifferent)
  · intro n
    exact ⟨nofun, rfl⟩
  · intro name hfits
    exact SubscriptionId.restores.ofText_text hfits (by rw [name.depth_toJson]; exact Nat.zero_le _)
  · intro hdistinct ticket place unsubscribe raw place' unsubscribe' raw' hanswered hagain
    exact hanswered.unique hdistinct hagain

/-- The node names two subscriptions, with a number and with the string of its digit. -/
def sampleDigits : List (Action String Bool) :=
  [.beginConnect, .endConnect .accepted] ++
  Action.wholeSubscribe 0 sampleSubscribe ++ Action.wholeSubscribe 1 sampleSubscribe ++
  [.turn 0 (.command none), .turn 0 (.command none),
   .turn 0 (.message (Text.Utf8.encode "\x7b\"id\":0,\"result\":7\x7d")),
   .turn 0 (.message (Text.Utf8.encode "\x7b\"id\":1,\"result\":\"\\u0037\"\x7d")),
   .setHandler 0 (some false), .setHandler 1 (some true)]

/-- An event that spells the string in another way is the second one's, and the first one is ended
by its number. -/
example :
    let client := ((fresh sampleAddress {} : Client String Bool).run sampleDigits).1
    let event := "\x7b\"method\":\"m\",\"params\":\x7b\"subscription\":\"7\",\"result\":1\x7d\x7d"
    let after := (client.run (Action.wholeUnsubscribe 2 0 ++ [.turn 0 (.command none)])).2
    events (client.turn 0 (.message (Text.Utf8.encode event))).2 = [(true, "m", "1")] ∧
      framesOn 0 after = [.text (Coder.encode ⟨2⟩ "unsubscribe" [.nat 7])] := by
  decide +kernel

end ChainRpc.Client
