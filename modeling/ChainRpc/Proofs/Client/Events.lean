import ChainRpc.Proofs.Client.Messages
import ChainRpc.Proofs.Client.Occurrences

/-!
# Who gets the events

At any time the client knows of its subscriptions what the past says: who is registered under a
name, and which handler is attached. So the handlers get the events that the past brings them, no
other ones, and in the order in which they come.
-/

namespace ChainRpc.Client

open Link (Connection Registry)
open Rpc (ResultType SubscriptionId)

variable {β η : Type}

/-! ### What the client knows -/

/-- Who is registered under a name. -/
def registered? (client : Client β η) (link : Nat) (id : SubscriptionId) : Option Ticket :=
  client.links[link]?.bind fun connection =>
    (connection.subscriptions.find? id).map (·.listener)

/-- What a caller holds of a subscription: the type of its events, and the handler. -/
def held? (client : Client β η) (ticket : Ticket) : Option (ResultType β × Option η) :=
  (client.handles.find? ticket).map fun handle => (handle.event, handle.handler)

/-- The client knows of its subscriptions what the past says. -/
structure Tracks (client : Client β η) (past : List (Occurrence β η)) : Prop where
  registered : ∀ link id, client.registered? link id = holder link id past
  held : ∀ ticket, client.held? ticket = reception ticket past

/-- What changes no subscription means nothing. -/
theorem Tracks.of_same {client after : Client β η} {past : List (Occurrence β η)}
    (htracks : Tracks client past)
    (hregistered : ∀ link id, after.registered? link id = client.registered? link id)
    (hhandles : after.handles = client.handles) : Tracks after (.nothing :: past) where
  registered link id := (hregistered link id).trans (htracks.registered link id)
  held ticket := by
    unfold held?
    rw [hhandles]
    exact htracks.held ticket

theorem registered?_set (client : Client β η) {link : Nat}
    {before : Connection (Waiter β) Ticket} (hfound : client.links[link]? = some before)
    (connection : Connection (Waiter β) Ticket) (place : Nat) (id : SubscriptionId) :
    ({ client with links := client.links.set link connection } : Client β η).registered? place id
      = if place = link then (connection.subscriptions.find? id).map (·.listener)
        else client.registered? place id := by
  unfold registered?
  dsimp only
  by_cases hsame : place = link
  · subst hsame
    rw [if_pos rfl, List.getElem?_set_self (List.getElem?_eq_some_iff.mp hfound).1]
    rfl
  · rw [if_neg hsame, List.getElem?_set_ne (Ne.symm hsame)]

theorem registered?_modify (client : Client β η) (link : Nat)
    (change : Connection (Waiter β) Ticket → Connection (Waiter β) Ticket) (place : Nat)
    (id : SubscriptionId) :
    (client.modifyLink link change).registered? place id =
      client.links[place]?.bind fun connection =>
        ((if link = place then change connection else connection).subscriptions.find? id).map
          (·.listener) := by
  unfold registered? modifyLink
  dsimp only
  rw [List.getElem?_modify]
  cases client.links[place]? with
  | none => rfl
  | some connection => split <;> simp_all

/-! ### What each action tells -/

variable {client : Client β η} {past : List (Occurrence β η)}

theorem events_answer (client : Client β η) (link : Nat) (waiter : Waiter β)
    (outcome : Link.Outcome) : events (client.react link (.completed waiter outcome)).2 = [] := by
  obtain hsilent | ⟨ticket, effect, -, hanswers, htold⟩ :=
    client.effects_react_answer link waiter outcome
  · rw [hsilent]
    rfl
  · rw [htold]
    obtain ⟨result, rfl⟩ | ⟨id, rfl⟩ := hanswers
    · rfl
    · rfl

/-- An answer gives out one handle at most. -/
theorem held?_answer (client : Client β η) (link : Nat) (waiter : Waiter β)
    (outcome : Link.Outcome) (past : List (Occurrence β η))
    (htracks : ∀ ticket, client.held? ticket = reception ticket past) (ticket : Ticket) :
    (client.react link (.completed waiter outcome)).1.held? ticket =
      reception ticket (client.answerOccurrence link waiter outcome :: past) := by
  have hreacts := client.reacts link (.completed waiter outcome)
  generalize client.react link (.completed waiter outcome) = next at hreacts ⊢
  cases hreacts with
  | refuses own unsubscribe event outcome error hunnamed
  | misses own unsubscribe event outcome error hunnamed =>
      rw [answerOccurrence_of_unnamed link hunnamed]
      exact htracks ticket
  | opens own unsubscribe event outcome name hnamed hwanted =>
      rw [answerOccurrence_of_wanted link hnamed hwanted]
      simp only [held?, forget, reception, Registry.find?_insert]
      by_cases hsame : own = ticket
      · rw [if_pos hsame.symm, if_pos hsame]
        rfl
      · rw [if_neg (Ne.symm hsame), if_neg hsame]
        exact htracks ticket
  | abandons own unsubscribe event outcome name hnamed hunwanted =>
      rw [answerOccurrence_of_unwanted link hnamed hunwanted]
      exact htracks ticket
  | _ => exact htracks ticket

theorem registered?_answer {link : Nat}
    {connection : Connection (Waiter β) Ticket} (hfound : client.links[link]? = some connection)
    {request : Link.Request (Waiter β) Ticket}
    (hgenuine : request.registers = request.owner.registers) (id : Rpc.RequestId)
    (outcome : Link.Outcome) (past : List (Occurrence β η))
    (htracks : ∀ place name, client.registered? place name = holder place name past)
    (place : Nat) (name : SubscriptionId) :
    ((client.relink link (connection.answered id request outcome)).react link
        (.completed request.owner outcome)).1.registered? place name =
      holder place name (client.answerOccurrence link request.owner outcome :: past) := by
  have hlinks := links_react_answer client link connection hgenuine id outcome
  have hhere : client.registered? link name
      = (connection.subscriptions.find? name).map (·.listener) := by
    unfold registered?
    rw [hfound]
    rfl
  have hafter := client.registered?_set hfound
    (client.completerOn request.owner outcome
      { connection with pending := connection.pending.erase id }) place name
  unfold registered? at hafter ⊢
  rw [hlinks]
  refine hafter.trans ?_
  clear hlinks hafter hgenuine
  have hsame : (if place = link then (connection.subscriptions.find? name).map (·.listener)
      else client.registered? place name) = holder place name past := by
    rw [← htracks place name]
    split
    next hatLink => rw [hatLink, hhere]
    next => rfl
  unfold completerOn answerOccurrence
  cases request.owner with
  | call ticket result => exact hsame
  | closer ticket => exact hsame
  | nobody => exact hsame
  | subscriber ticket unsubscribe event =>
      dsimp only
      cases outcome.bind subscriptionOf with
      | error error => exact hsame
      | ok opened =>
          dsimp only
          by_cases hwanted : client.awaited.contains ticket = true
          · -- The new entry takes the place of any other of the name.
            rw [if_pos hwanted, if_pos hwanted]
            simp only [Connection.register, Registry.find?_insert, holder, ← hsame]
            by_cases hatLink : place = link
            · by_cases hnamed : name = opened
              · simp [hatLink, hnamed]
              · simp [hatLink, hnamed, Ne.symm hnamed]
            · simp [hatLink, Ne.symm hatLink]
              rfl
          · -- Nobody holds the new entry, so the name is free afterwards.
            rw [if_neg hwanted, if_neg hwanted]
            have herased : ∀ number payload method,
                (dismiss opened number payload method
                  { connection with pending := connection.pending.erase id }).subscriptions
                  = connection.subscriptions.erase opened := by
              intro number payload method
              unfold dismiss Connection.send
              split <;> rfl
            rw [herased]
            simp only [Registry.find?_erase, holder, ← hsame]
            by_cases hatLink : place = link
            · by_cases hnamed : name = opened
              · simp [hatLink, hnamed]
              · simp [hatLink, hnamed, Ne.symm hnamed]
            · simp [hatLink, Ne.symm hatLink]
              rfl

theorem brings_answer (client : Client β η) (link : Nat) (waiter : Waiter β)
    (outcome : Link.Outcome) (past : List (Occurrence β η)) :
    brings past (client.answerOccurrence link waiter outcome) = [] := by
  cases waiter with
  | subscriber ticket unsubscribe event =>
      unfold answerOccurrence
      dsimp only
      cases outcome.bind subscriptionOf with
      | error error => rfl
      | ok id =>
          dsimp only
          split <;> rfl
  | _ => rfl

/-- A notification brings the event that the past says. -/
theorem events_deliver
    (htracks : Tracks client past) {link : Nat} {id : SubscriptionId} {listener : Ticket}
    (hholds : holder link id past = some listener) (method raw : String) :
    events (client.deliver listener method raw)
      = (brings past (.notice link id method raw)).map Prod.snd := by
  unfold brings deliver
  dsimp only
  rw [hholds]
  dsimp only
  rw [← htracks.held listener]
  unfold held?
  cases client.handles.find? listener with
  | none => rfl
  | some handle =>
      obtain ⟨name, unsubscribe, event, place, epoch, handler⟩ := handle
      cases handler with
      | none => rfl
      | some handler =>
          simp only [Option.map_some]
          cases event.decode raw <;> rfl

theorem Tracks.notice
    (htracks : Tracks client past) (link : Nat) (id : SubscriptionId) (method raw : String) :
    Tracks client (.notice link id method raw :: past) :=
  ⟨htracks.registered, htracks.held⟩

theorem Tracks.nothing
    (htracks : Tracks client past) : Tracks client (.nothing :: past) :=
  ⟨htracks.registered, htracks.held⟩

theorem Tracks.message
    (htracks : Tracks client past) {link : Nat} {connection : Connection (Waiter β) Ticket}
    (hfound : client.links[link]? = some connection) (hkept : Kept connection)
    (hrunning : connection.ended = false) (bytes : List UInt8) :
    Tracks (client.turn link (.message bytes)).1
        (client.messageOccurrence link connection bytes :: past) ∧
      events (client.turn link (.message bytes)).2
        = (brings past (client.messageOccurrence link connection bytes)).map Prod.snd := by
  rw [turn_message hfound hkept hrunning]
  unfold messageOccurrence Connection.bearing
  have hregistered : ∀ id, holder link id past
      = (connection.subscriptions.find? id).map (·.listener) := by
    intro id
    rw [← htracks.registered link id]
    unfold registered?
    rw [hfound]
    rfl
  cases Link.envelopeOf connection.assembly.limit bytes with
  | none => exact ⟨htracks.nothing, rfl⟩
  | some envelope =>
      cases envelope with
      | response id reply =>
          dsimp only
          cases hwaits : connection.pending.find? id with
          | none => exact ⟨htracks.nothing, rfl⟩
          | some request =>
              have hgenuine := hkept.waiting_of_found hwaits
              refine ⟨⟨?_, ?_⟩, ?_⟩
              · exact registered?_answer hfound hgenuine id _ past htracks.registered
              · exact held?_answer _ link request.owner _ past htracks.held
              · rw [brings_answer]
                exact events_answer _ link request.owner _
      | notification method id raw =>
          dsimp only
          cases hlistens : connection.subscriptions.find? id with
          | none =>
              refine ⟨htracks.notice link id method raw, ?_⟩
              unfold brings
              dsimp only
              rw [hregistered id, hlistens]
              rfl
          | some registration =>
              refine ⟨htracks.notice link id method raw, ?_⟩
              apply events_deliver htracks
              rw [hregistered id, hlistens]
              rfl

/-- A turn of a loop without a message. -/
theorem Tracks.turn_quiet
    (htracks : Tracks client past) {link : Nat} {connection : Connection (Waiter β) Ticket}
    (hfound : client.links[link]? = some connection) (hkept : Kept connection)
    (hrunning : connection.ended = false) (turn : Link.Turn)
    (hother : ∀ bytes, turn ≠ .message bytes) :
    Tracks (client.turn link turn).1
        ((if (connection.turn turn).1.ended then .ended link else .nothing) :: past) ∧
      events (client.turn link turn).2 = [] := by
  obtain ⟨⟨awaited, farewells, hframe⟩, hsilent⟩ :=
    onLink_quiet hfound (·.turn turn) (connection.turn_quiet hother)
  refine ⟨?_, hsilent⟩
  -- Only the subscriptions of this connection may change, and they do when its loop ends.
  have hframe : (client.turn link turn).1 = _ := hframe
  have hregistered : ∀ place id, (client.turn link turn).1.registered? place id
      = if place = link then
          ((connection.turn turn).1.subscriptions.find? id).map (·.listener)
        else client.registered? place id := by
    rw [hframe]
    exact client.registered?_set hfound (connection.turn turn).1
  have hheld : (client.turn link turn).1.handles = client.handles := by rw [hframe]
  cases hstopped : (connection.turn turn).1.ended with
  | true =>
      refine ⟨?_, ?_⟩
      · intro place id
        rw [hregistered, (hkept.turn turn).forgotten hstopped]
        simp only [if_true, holder]
        by_cases hsame : place = link
        · rw [if_pos hsame, if_pos hsame.symm]
          rfl
        · rw [if_neg hsame, if_neg (Ne.symm hsame)]
          exact htracks.registered place id
      · intro ticket
        unfold held?
        rw [hheld]
        exact htracks.held ticket
  | false =>
      refine htracks.of_same ?_ hheld
      intro place id
      rw [hregistered]
      split
      next hsame =>
        subst hsame
        cases hends : connection.ending? turn with
        | some reason =>
            obtain ⟨frames, hfinished, -⟩ := Connection.turn_of_ending hrunning hends
            rw [hfinished] at hstopped
            contradiction
        | none =>
            obtain ⟨pending, queue, keepalive, hgoesOn, -⟩ :=
              Connection.turn_of_going_on hrunning hends hother
            rw [hgoesOn]
            unfold registered?
            rw [hfound]
            rfl
      next => rfl

theorem Tracks.turn
    (htracks : Tracks client past) (hkept : AllLinks Kept client) (link : Nat) (turn : Link.Turn) :
    Tracks (client.turn link turn).1 (client.occurrence (.turn link turn) :: past) ∧
      events (client.turn link turn).2
        = (brings past (client.occurrence (.turn link turn))).map Prod.snd := by
  unfold occurrence
  dsimp only
  cases hfound : client.links[link]? with
  | none =>
      have hsame : client.turn link turn = (client, []) := by
        unfold Client.turn onLink
        rw [hfound]
      rw [hsame]
      exact ⟨htracks.nothing, rfl⟩
  | some connection =>
      have hkeeps := hkept connection (List.mem_of_getElem? hfound)
      dsimp only
      cases hended : connection.ended with
      | true =>
          rw [turn_of_ended hfound hended, if_pos rfl]
          exact ⟨htracks.nothing, rfl⟩
      | false =>
          rw [if_neg (by simp)]
          have hquiet := htracks.turn_quiet hfound hkeeps hended turn
          cases turn with
          | message bytes => exact htracks.message hfound hkeeps hended bytes
          | _ =>
              obtain ⟨htracked, hsilent⟩ := hquiet (by simp)
              refine ⟨htracked, hsilent.trans ?_⟩
              dsimp only
              split <;> rfl

/-- A change of a connection that keeps its subscriptions. -/
theorem Tracks.modify {client after : Client β η} {past : List (Occurrence β η)}
    (htracks : Tracks client past) {link : Nat}
    {change : Connection (Waiter β) Ticket → Connection (Waiter β) Ticket}
    (hkeeps : ∀ connection, (change connection).subscriptions = connection.subscriptions)
    (hlinks : after.links = client.links.modify link change)
    (hhandles : after.handles = client.handles) : Tracks after (.nothing :: past) := by
  refine htracks.of_same ?_ hhandles
  intro place id
  have hmodified := client.registered?_modify link change place id
  unfold registered? modifyLink at hmodified
  unfold registered?
  rw [hlinks]
  refine hmodified.trans ?_
  congr 1
  funext connection
  split
  next => rw [hkeeps]
  next => rfl

theorem Tracks.enqueue
    (htracks : Tracks client past) (ticket : Ticket) :
    Tracks (client.enqueue ticket).1 (.nothing :: past) ∧
      events (client.enqueue ticket).2 = [] := by
  unfold Client.enqueue
  split
  next link method params waiter id _ =>
    cases hfound : client.links[link]? with
    | none =>
        unfold onLink
        dsimp only
        rw [hfound]
        exact ⟨⟨htracks.registered, htracks.held⟩, rfl⟩
    | some connection =>
        let taken : Client β η := { client with submissions := client.submissions.erase ticket }
        let queue (connection : Connection (Waiter β) Ticket) :=
          connection.send id (Rpc.Coder.encode id method params) (waiter.request method)
        have hsent : (queue connection).1.subscriptions = connection.subscriptions := by
          unfold queue Connection.send
          split <;> rfl
        obtain ⟨⟨awaited, farewells, hframe⟩, hsilent⟩ :=
          onLink_quiet (show taken.links[link]? = some connection from hfound) queue
            (connection.send_quiet _ _ _)
        refine ⟨?_, hsilent⟩
        change Tracks (taken.onLink link queue).1 (.nothing :: past)
        rw [hframe]
        refine htracks.of_same ?_ rfl
        intro place name
        refine (registered?_set taken hfound (queue connection).1 place name).trans ?_
        split
        next hsame =>
          subst hsame
          rw [hsent]
          unfold registered?
          rw [hfound]
          rfl
        next => rfl
  next => exact ⟨htracks.nothing, rfl⟩

theorem Tracks.setHandler
    (htracks : Tracks client past) (handle : Ticket) (handler : Option η) :
    Tracks (client.setHandler handle handler) (.attached handle handler :: past) := by
  have hknown := htracks.held handle
  unfold held? at hknown
  unfold Client.setHandler
  cases hfound : client.handles.find? handle with
  | none =>
      rw [hfound] at hknown
      refine ⟨htracks.registered, ?_⟩
      intro ticket
      dsimp only
      rw [reception, htracks.held ticket]
      split
      next hsame =>
        subst hsame
        rw [← hknown]
        rfl
      next => rfl
  | some held =>
      rw [hfound] at hknown
      refine ⟨htracks.registered, ?_⟩
      intro ticket
      rw [reception]
      simp only [held?, Registry.find?_insert]
      by_cases hsame : handle = ticket
      · rw [if_pos hsame, if_pos hsame.symm, ← hsame, ← hknown]
        rfl
      · rw [if_neg hsame, if_neg (Ne.symm hsame)]
        exact htracks.held ticket

theorem Tracks.retire
    (htracks : Tracks client past) (ticket : Ticket) :
    Tracks (client.retire ticket).1 (client.occurrence (.retire ticket) :: past) ∧
      events (client.retire ticket).2
        = (brings past (client.occurrence (.retire ticket))).map Prod.snd := by
  unfold Client.retire occurrence
  dsimp only
  cases client.farewells.find? ticket with
  | none => exact ⟨htracks.nothing, rfl⟩
  | some farewell =>
      obtain ⟨link, id, answer⟩ := farewell
      cases answer with
      | none => exact ⟨htracks.nothing, rfl⟩
      | some answer =>
          refine ⟨⟨?_, htracks.held⟩, rfl⟩
          intro place name
          refine (client.registered?_modify link (·.unregister id) place name).trans ?_
          rw [holder, ← htracks.registered place name]
          unfold registered?
          cases client.links[place]? with
          | none => simp
          | some connection =>
              simp only [Option.bind_some]
              by_cases hhere : link = place
              · rw [if_pos hhere]
                by_cases hnamed : id = name
                · rw [if_pos ⟨hhere, hnamed⟩, Connection.unregister]
                  dsimp only
                  rw [Registry.find?_erase, if_pos hnamed.symm]
                  rfl
                · rw [if_neg fun hboth => hnamed hboth.2, Connection.unregister]
                  dsimp only
                  rw [Registry.find?_erase, if_neg (Ne.symm hnamed)]
              · rw [if_neg hhere, if_neg fun hboth => hhere hboth.1]

/-- Every action tells what its occurrence means. -/
theorem Tracks.step
    (htracks : Tracks client past) (hkept : AllLinks Kept client) (action : Action β η) :
    Tracks (client.step action).1 (client.occurrence action :: past) ∧
      events (client.step action).2 = (brings past (client.occurrence action)).map Prod.snd := by
  cases action with
  | beginConnect =>
      unfold Client.step beginConnect
      dsimp only
      split
      next => exact ⟨htracks.nothing, rfl⟩
      next => split <;> exact ⟨⟨htracks.registered, htracks.held⟩, rfl⟩
  | endConnect handshake =>
      unfold Client.step endConnect
      dsimp only
      split
      next previous _ =>
        split
        next => exact ⟨⟨htracks.registered, htracks.held⟩, rfl⟩
        next =>
          refine ⟨⟨?_, htracks.held⟩, by split <;> rfl⟩
          intro link id
          refine Eq.trans ?_ (htracks.registered link id)
          unfold registered? openLink
          dsimp only
          by_cases hinside : link < client.links.length
          · rw [List.getElem?_append_left hinside]
          · have houtside : client.links[link]? = none := List.getElem?_eq_none (by omega)
            rw [List.getElem?_append_right (by omega), houtside]
            cases link - client.links.length <;> rfl
      next => exact ⟨htracks.nothing, rfl⟩
  | beginClose =>
      unfold Client.step beginClose
      dsimp only
      split
      next => exact ⟨htracks.nothing, rfl⟩
      next => split <;> exact ⟨⟨htracks.registered, htracks.held⟩, rfl⟩
  | proceed =>
      have hshut : ∀ reason (connection : Connection (Waiter β) Ticket),
          (connection.shutdown reason).subscriptions = connection.subscriptions := by
        intro reason connection
        unfold Connection.shutdown
        split <;> rfl
      unfold Client.step proceed
      dsimp only
      split
      next old _ => exact ⟨htracks.modify (hshut .reset) rfl rfl, rfl⟩
      next => split <;> exact ⟨⟨htracks.registered, htracks.held⟩, rfl⟩
      next old _ =>
        refine ⟨?_, rfl⟩
        cases old with
        | none => exact htracks.of_same (fun _ _ => rfl) rfl
        | some link => exact htracks.modify (hshut .closed) rfl rfl
      next =>
        split
        next => exact ⟨⟨htracks.registered, htracks.held⟩, by dsimp only; split <;> rfl⟩
        next => exact ⟨htracks.nothing, rfl⟩
      next => exact ⟨htracks.nothing, rfl⟩
      next => exact ⟨htracks.nothing, rfl⟩
  | call ticket call =>
      unfold Client.step Client.call
      dsimp only
      split <;> exact ⟨⟨htracks.registered, htracks.held⟩, rfl⟩
  | subscribe ticket call =>
      unfold Client.step Client.subscribe
      dsimp only
      split <;> exact ⟨⟨htracks.registered, htracks.held⟩, rfl⟩
  | number ticket =>
      unfold Client.step Client.number
      dsimp only
      split
      next => split <;> exact ⟨⟨htracks.registered, htracks.held⟩, rfl⟩
      next => exact ⟨htracks.nothing, rfl⟩
  | enqueue ticket => exact htracks.enqueue ticket
  | forget ticket => exact ⟨⟨htracks.registered, htracks.held⟩, rfl⟩
  | setHandler handle handler => exact ⟨htracks.setHandler handle handler, rfl⟩
  | unsubscribe ticket handle =>
      unfold Client.step Client.unsubscribe
      dsimp only
      split
      next => split <;> exact ⟨⟨htracks.registered, htracks.held⟩, rfl⟩
      next => exact ⟨htracks.nothing, rfl⟩
  | retire ticket => exact htracks.retire ticket
  | turn link turn => exact htracks.turn hkept link turn

theorem Tracks.run
    (htracks : Tracks client past) (hkept : AllLinks Kept client) (history : List (Action β η)) :
    Tracks (client.run history).1 ((client.occurrences history).reverse ++ past) := by
  induction history generalizing client past with
  | nil => exact htracks
  | cons action history ih =>
      rw [occurrences, List.reverse_cons, List.append_assoc, List.singleton_append]
      exact ih (htracks.step hkept action).1 (kept_step hkept action)

theorem Tracks.fresh (address : Address) (options : Options) :
    Tracks (Client.fresh address options : Client β η) [] where
  registered _ _ := rfl
  held _ := rfl

/-- Every history tells what its occurrences mean, in their order. -/
theorem events_run
    (htracks : Tracks client past) (hkept : AllLinks Kept client) (history : List (Action β η)) :
    events (client.run history).2
      = (received past (client.occurrences history)).map Prod.snd := by
  induction history generalizing client past with
  | nil => rfl
  | cons action history ih =>
      obtain ⟨htracked, htold⟩ := htracks.step hkept action
      have hlater := ih htracked
        (kept_step hkept action)
      change events ((client.step action).2 ++ ((client.step action).1.run history).2) = _
      rw [events_append, htold, hlater, occurrences, received, List.map_append]

/-- For every run of a client, however the decoders and handlers of its callers end meanwhile:

* the events that reach handlers are those that the past brings, in the order in which the
  notifications come, and each once;
* a notification is brought to a subscription exactly if its call was answered with the name of the
  notification, no other answer, closing or end of the loop took the name away since, the handler
  that was attached last is one, and the event is of the type of the subscription. It goes to
  that handler. -/
theorem events_are_exact (address : Address) (options : Options)
    (happenings : List (Happening β η)) :
    (∃ after effects,
      (fresh address options).runUnder happenings = .ok (after, effects) ∧
      events effects = (received []
        ((fresh address options).occurrences (happenings.map Prod.snd))).map Prod.snd) ∧
    ∀ (past : List (Occurrence β η)) (link : Nat) (id : SubscriptionId) (method raw : String),
      (brings past (.notice link id method raw)).length ≤ 1 ∧
      ∀ (ticket : Ticket) (handler : η) (value : β),
        brings past (.notice link id method raw) = [(ticket, handler, method, value)] ↔
          (∃ recent, Since (fun occurrence => ∃ event, occurrence = .opened link id ticket event)
            (Occurrence.Takes link id) past recent) ∧
          ∃ event,
            (∃ recent, Since
                (fun occurrence => ∃ link id, occurrence = .opened link id ticket event)
                (Occurrence.HandsOut ticket) past recent ∧
              lastAttached ticket recent = some handler) ∧
            event.decode raw = .ok value := by
  refine ⟨⟨_, _, runUnder_eq _ happenings, ?_⟩, ?_⟩
  · exact events_run (.fresh address options) (kept_links address options []) _
  · intro past link id method raw
    refine ⟨length_brings_le past _, ?_⟩
    intro ticket handler value
    rw [brings_notice, holder_eq_some_iff]
    simp only [reception_eq_some_iff]

end ChainRpc.Client
