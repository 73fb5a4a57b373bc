import ChainRpc.Client.Barrier
import ChainRpc.Proofs.Client.Correlation
import ChainRpc.Proofs.Client.Frames

/-!
# What one message does to a client

A message answers one request, or it is an event for one subscription, or it is dropped. An answer
takes its request out of the registry and tells the owner; what else it may do is to register the
subscription that it names, or to forget that subscription and queue its unsubscribe call when
nobody waits for it any more. An event reaches one handler at most. Neither the decoders nor
the handlers have a say in what becomes of the connection, even if they panic.
-/

namespace ChainRpc.Client

open Link (Bearing Connection Outcome)
open Rpc (Coder)

variable {β η : Type}

/-! ### The barrier -/

theorem turnUnder_eq (client : Client β η) (conduct : Link.Conduct (Waiter β) Ticket) (link : Nat)
    (turn : Link.Turn) : client.turnUnder conduct link turn = .ok (client.turn link turn) := by
  unfold turnUnder Client.turn onLink
  cases client.links[link]? with
  | none => rfl
  | some connection =>
      dsimp only
      rw [Connection.turnUnder_eq]
      rfl

theorem stepUnder_eq (client : Client β η) (happening : Happening β η) :
    client.stepUnder happening = .ok (client.step happening.2) := by
  obtain ⟨conduct, action⟩ := happening
  cases action with
  | turn link turn => exact client.turnUnder_eq conduct link turn
  | _ => rfl

/-- However the code of the callers ends, no panic gets through, and everything happens as if
there were none. -/
theorem runUnder_eq (client : Client β η) (happenings : List (Happening β η)) :
    client.runUnder happenings = .ok (client.run (happenings.map Prod.snd)) := by
  induction happenings generalizing client with
  | nil => rfl
  | cons happening happenings ih =>
      simp only [runUnder, stepUnder_eq, bind, Except.bind, ih]
      rfl

/-! ### One message -/

theorem set_of_getElem? {α : Type} {items : List α} {place : Nat} {item : α}
    (hfound : items[place]? = some item) : items.set place item = items := by
  obtain ⟨hinside, hhere⟩ := List.getElem?_eq_some_iff.mp hfound
  rw [← hhere, List.set_getElem_self]

theorem modify_set {α : Type} (items : List α) (place : Nat) (item : α) (change : α → α) :
    (items.set place item).modify place change = items.set place (change item) := by
  apply List.ext_getElem?
  intro other
  grind

/-- What the completer of a request does to its connection. -/
def completerOn (client : Client β η) (waiter : Waiter β) (outcome : Outcome)
    (connection : Connection (Waiter β) Ticket) : Connection (Waiter β) Ticket :=
  match waiter with
  | .subscriber ticket unsubscribe _ =>
      match outcome.bind subscriptionOf with
      | .ok id =>
          if client.awaited.contains ticket then connection.register id ⟨unsubscribe, ticket⟩
          else
            dismiss id client.coder.peek (Coder.encode client.coder.peek unsubscribe [id.toJson])
              unsubscribe connection
      | .error _ => connection
  | .call _ _ | .closer _ | .nobody => connection

/-- The effect tells the operation of a ticket how it ended. -/
def Effect.Answers (ticket : Ticket) (effect : Effect β η) : Prop :=
  (∃ result, effect = .resolved ticket result) ∨ ∃ id, effect = .subscribed ticket id

section Message

variable {client : Client β η} {link : Nat} {connection : Connection (Waiter β) Ticket}

/-- A loop that has ended does nothing with what its socket still brings. -/
theorem turn_of_ended (hfound : client.links[link]? = some connection)
    (hended : connection.ended = true) (turn : Link.Turn) :
    client.turn link turn = (client, []) := by
  unfold Client.turn onLink
  rw [hfound]
  dsimp only
  rw [Connection.turn_of_ended hended]
  dsimp only
  rw [set_of_getElem? hfound]
  rfl

theorem turn_message (hfound : client.links[link]? = some connection) (hkept : Kept connection)
    (hrunning : connection.ended = false) (bytes : List UInt8) :
    client.turn link (.message bytes) =
      match connection.bearing bytes with
      | .answer id request outcome =>
          (client.relink link (connection.answered id request outcome)).react link
            (.completed request.owner outcome)
      | .event _ registration method raw =>
          (client, client.deliver registration.listener method raw)
      | .nothing => (client, []) := by
  have hsame := set_of_getElem? hfound
  unfold Client.turn onLink
  rw [hfound]
  dsimp only
  rw [hkept.orderly.turn_message hrunning]
  cases connection.bearing bytes with
  | answer id request outcome => exact Prod.ext rfl (List.append_nil _)
  | event id registration method raw =>
      dsimp only
      rw [hsame]
      exact Prod.ext rfl (List.append_nil _)
  | nothing =>
      dsimp only
      rw [hsame]
      rfl

theorem links_react_answer (client : Client β η) (link : Nat)
    (connection : Connection (Waiter β) Ticket) {request : Link.Request (Waiter β) Ticket}
    (hgenuine : request.registers = request.owner.registers) (id : Rpc.RequestId)
    (outcome : Outcome) :
    ((client.relink link (connection.answered id request outcome)).react link
        (.completed request.owner outcome)).1.links =
      client.links.set link (client.completerOn request.owner outcome
        { connection with pending := connection.pending.erase id }) := by
  have hsettled := settle_eq hgenuine outcome connection.subscriptions
  cases howner : request.owner with
  | call ticket result =>
      rw [howner] at hsettled
      unfold react completerOn Connection.answered
      dsimp only
      rw [tell_fst, hsettled]
      rfl
  | closer ticket =>
      rw [howner] at hsettled
      unfold react completerOn answered Connection.answered
      dsimp only
      rw [hsettled]
      split <;> rfl
  | nobody =>
      rw [howner] at hsettled
      unfold react completerOn Connection.answered
      dsimp only
      rw [hsettled]
      rfl
  | subscriber ticket unsubscribe event =>
      rw [howner, Waiter.opens?] at hsettled
      unfold react completerOn opened Connection.answered
      dsimp only
      cases hnamed : outcome.bind subscriptionOf with
      | error error =>
          rw [hnamed] at hsettled
          dsimp only
          rw [tell_fst, hsettled]
          rfl
      | ok name =>
          replace hsettled : request.settle outcome connection.subscriptions
              = connection.subscriptions.insert name ⟨unsubscribe, ticket⟩ := by
            rw [hsettled, hnamed]
            rfl
          dsimp only
          rw [hsettled]
          by_cases hwanted : client.awaited.contains ticket = true
          · rw [if_pos hwanted, if_pos (by exact hwanted), tell_fst]
            rfl
          · rw [if_neg hwanted, if_neg (by exact hwanted)]
            change (client.links.set link _).modify link _ = client.links.set link _
            rw [modify_set]
            unfold dismiss Connection.unregister
            dsimp only
            rw [Link.Registry.erase_insert]
            rfl

/-- The completer of a request leaves the loop, the fragments and the requests that wait alone. -/
theorem completerOn_frame (client : Client β η) (waiter : Waiter β) (outcome : Outcome)
    (connection : Connection (Waiter β) Ticket) :
    ∃ subscriptions queue, client.completerOn waiter outcome connection
      = { connection with subscriptions, queue } := by
  unfold completerOn
  split
  next =>
    split
    next =>
      split
      next => exact ⟨_, _, rfl⟩
      next =>
        unfold dismiss Connection.send
        split <;> exact ⟨_, _, rfl⟩
    next => exact ⟨_, _, rfl⟩
  all_goals exact ⟨_, _, rfl⟩

/-- An answer is told to the operation of its request alone, and once at most. -/
theorem effects_react_answer (client : Client β η) (link : Nat) (waiter : Waiter β)
    (outcome : Outcome) :
    (client.react link (.completed waiter outcome)).2 = [] ∨
      ∃ ticket effect, waiter.ticket? = some ticket ∧ effect.Answers ticket ∧
        (client.react link (.completed waiter outcome)).2 = [effect] := by
  have hreacts := client.reacts link (.completed waiter outcome)
  generalize client.react link (.completed waiter outcome) = next at hreacts ⊢
  cases hreacts with
  | resolves ticket | refuses ticket => exact .inr ⟨ticket, _, rfl, .inl ⟨_, rfl⟩, rfl⟩
  | opens ticket unsubscribe event outcome id =>
      exact .inr ⟨ticket, _, rfl, .inr ⟨id, rfl⟩, rfl⟩
  | _ => exact .inl rfl

theorem deliver_le_one (client : Client β η) (listener : Ticket) (method raw : String) :
    client.deliver listener method raw = [] ∨
      ∃ handler value, client.deliver listener method raw = [.event handler method value] := by
  unfold deliver
  split
  next =>
    split
    next handler _ _ value _ => exact .inr ⟨handler, value, rfl⟩
    next => exact .inl rfl
  next => exact .inl rfl

end Message

/-- Any message on any connection that runs, at any time, does one thing.

* It answers a request that waits. The request leaves the registry and its owner is told, and
  the completer of the request may change the subscriptions and the queue: it does so for an answer
  that names a new subscription, and for no other.
* It is an event for a subscription that is registered. The client stays as it is, and one handler
  at most gets the event.
* It is anything else. The client stays as it is and nobody is told anything.

However the decoders and handlers end that it calls, the same comes of it and of all that happens
later, and the loop goes on. -/
theorem message_has_one_effect (address : Address) (options : Options)
    (history : List (Action β η)) (link : Nat) (connection : Connection (Waiter β) Ticket)
    (hfound : ((fresh address options : Client β η).run history).1.links[link]? = some connection)
    (hrunning : connection.ended = false) (bytes : List UInt8) :
    let client := ((fresh address options : Client β η).run history).1
    let after := client.turn link (.message bytes)
    (match connection.bearing bytes with
      | .answer id request outcome =>
          (∃ reply, Link.envelopeOf connection.assembly.limit bytes = some (.response id reply) ∧
            connection.pending.find? id = some request ∧ outcome = reply.mapError .rpc) ∧
          (connection.turn (.message bytes)).2 = [.completed request.owner outcome] ∧
          (∃ subscriptions queue,
            client.completerOn request.owner outcome
                { connection with pending := connection.pending.erase id }
              = { connection with
                  pending := connection.pending.erase id, subscriptions, queue } ∧
            after.1.links = client.links.set link
              { connection with
                  pending := connection.pending.erase id, subscriptions, queue }) ∧
          (after.2 = [] ∨ ∃ ticket effect, request.owner.ticket? = some ticket ∧
            effect.Answers ticket ∧ after.2 = [effect])
      | .event id registration method raw =>
          (Link.envelopeOf connection.assembly.limit bytes = some (.notification method id raw) ∧
            connection.subscriptions.find? id = some registration) ∧
          (connection.turn (.message bytes)).2 = [.delivered registration.listener method raw] ∧
          after.1 = client ∧
          (after.2 = [] ∨ ∃ handler value, after.2 = [.event handler method value])
      | .nothing =>
          ((∀ id reply,
              Link.envelopeOf connection.assembly.limit bytes = some (.response id reply) →
              connection.pending.find? id = none) ∧
            ∀ method id raw,
              Link.envelopeOf connection.assembly.limit bytes
                = some (.notification method id raw) →
              connection.subscriptions.find? id = none) ∧
          (connection.turn (.message bytes)).2 = [] ∧
          after = (client, [])) ∧
    ∀ (conduct : Link.Conduct (Waiter β) Ticket) (later : List (Happening β η)),
      client.runUnder ((conduct, .turn link (.message bytes)) :: later)
        = .ok (client.run (.turn link (.message bytes) :: later.map Prod.snd)) := by
  intro client after
  have hkept : Kept connection :=
    kept_links address options history connection (List.mem_of_getElem? hfound)
  have hturned : after = _ := turn_message hfound hkept hrunning bytes
  have hspoken := hkept.orderly.turn_message hrunning bytes
  have hmeans := connection.bearing_spec bytes
  refine ⟨?_, fun conduct later =>
    client.runUnder_eq ((conduct, .turn link (.message bytes)) :: later)⟩
  rw [hturned, hspoken]
  cases hbears : connection.bearing bytes with
  | nothing =>
      rw [hbears] at hmeans
      exact ⟨hmeans, rfl, rfl⟩
  | event id registration method raw =>
      rw [hbears] at hmeans
      exact ⟨hmeans, rfl, rfl, client.deliver_le_one registration.listener method raw⟩
  | answer id request outcome =>
      rw [hbears] at hmeans
      obtain ⟨reply, hread, hwaits, hsame⟩ := hmeans
      have hgenuine : request.registers = request.owner.registers := by
        apply hkept.waiting request
        have hheld := (Link.Registry.find?_eq_some_iff _ _ _).mp hwaits
        exact List.mem_map_of_mem hheld
      obtain ⟨subscriptions, queue, hframe⟩ := client.completerOn_frame request.owner outcome
        { connection with pending := connection.pending.erase id }
      refine ⟨⟨reply, hread, hwaits, hsame⟩, rfl, ⟨subscriptions, queue, hframe, ?_⟩,
        effects_react_answer _ link request.owner outcome⟩
      dsimp only
      rw [← hframe]
      exact links_react_answer client link connection hgenuine id outcome

/-- Bytes that are no text change nothing, and the two calls that wait get their answers even if
everybody panics from then on. -/
theorem sampleGarbage_has_one_effect :
    let client := ((fresh sampleAddress {} : Client String Unit).run sampleHistory).1
    let everybody : Link.Conduct (Waiter String) Ticket := fun _ => .panicked
    client.turn 0 (.message [255]) = (client, []) ∧
      client.runUnder ((everybody, .turn 0 (.message [255])) ::
          (arrivals 0 sampleMessages).map fun action => (everybody, action))
        = .ok (client.run (.turn 0 (.message [255]) ::
            ((arrivals 0 sampleMessages).map fun action => (everybody, action)).map Prod.snd)) := by
  intro client everybody
  obtain ⟨connection, hfound, hrunning, hlimit⟩ : ∃ connection,
      client.links[0]? = some connection ∧ connection.ended = false ∧
        connection.assembly.limit = 64 * 2 ^ 20 := ⟨_, rfl, rfl, rfl⟩
  have hunread : Link.envelopeOf (64 * 2 ^ 20) [255] = none :=
    Option.isNone_iff_eq_none.mp (by decide +kernel)
  have hnothing : connection.bearing [255] = .nothing := by
    unfold Connection.bearing
    rw [hlimit, hunread]
  obtain ⟨heffect, hcontained⟩ :=
    message_has_one_effect sampleAddress {} sampleHistory 0 connection hfound hrunning [255]
  rw [hnothing] at heffect
  exact ⟨heffect.2.2, hcontained everybody _⟩

end ChainRpc.Client
