import ChainRpc.Proofs.Client.Links
import ChainRpc.Proofs.Link.Messages

/-!
# What happens to a client by the way

Only a message can open a subscription or carry an event. Whatever else a connection tells its
client is the end of a request: somebody stops waiting, or a closing gets its answer, and the rest
of the client stays as it is.

A connection keeps the requests of its client as the client made them, and one that has ended has no
subscriptions.
-/

namespace ChainRpc.Client

open Link (Connection Request)
open Link.Connection (IsQuiet)

variable {β η : Type}

/-! ### Quiet effects -/

/-- The event that an effect is. -/
def Effect.event? : Effect β η → Option (η × String × β)
  | .event handler method value => some (handler, method, value)
  | .wrote _ _ | .resolved _ _ | .subscribed _ _ | .unsubscribed _ _ | .connected _ | .closed
  | .notified => none

/-- The events that handlers get, with the handler of each. -/
def events (effects : List (Effect β η)) : List (η × String × β) :=
  effects.filterMap Effect.event?

@[simp] theorem events_nil : events ([] : List (Effect β η)) = [] := rfl

@[simp] theorem events_append (first second : List (Effect β η)) :
    events (first ++ second) = events first ++ events second := List.filterMap_append

/-- What a request that fails changes: who waits, and which closings have their answer. -/
theorem react_quiet (client : Client β η) (link : Nat)
    {effect : Link.Effect (Waiter β) Ticket} (hquiet : IsQuiet effect) :
    (∃ awaited farewells, (client.react link effect).1 = { client with awaited, farewells }) ∧
      events (client.react link effect).2 = [] := by
  have hreacts := client.reacts link effect
  generalize client.react link effect = next at hreacts ⊢
  cases hreacts with
  | delivers => contradiction
  | opens ticket unsubscribe event outcome id hnamed
  | abandons ticket unsubscribe event outcome id hnamed =>
      obtain ⟨error, rfl⟩ := hquiet
      contradiction
  | _ => exact ⟨⟨_, _, rfl⟩, rfl⟩

theorem reactAll_cons (client : Client β η) (link : Nat) (effect : Link.Effect (Waiter β) Ticket)
    (effects : List (Link.Effect (Waiter β) Ticket)) :
    client.reactAll link (effect :: effects) =
      (((client.react link effect).1.reactAll link effects).1,
        (client.react link effect).2 ++ ((client.react link effect).1.reactAll link effects).2) :=
  rfl

theorem reactAll_quiet (client : Client β η) (link : Nat)
    {effects : List (Link.Effect (Waiter β) Ticket)} (hquiet : ∀ effect ∈ effects, IsQuiet effect) :
    (∃ awaited farewells, (client.reactAll link effects).1 = { client with awaited, farewells }) ∧
      events (client.reactAll link effects).2 = [] := by
  induction effects generalizing client with
  | nil => exact ⟨⟨_, _, rfl⟩, rfl⟩
  | cons effect effects ih =>
      obtain ⟨⟨awaited, farewells, hfirst⟩, hsilent⟩ :=
        client.react_quiet link (hquiet effect List.mem_cons_self)
      obtain ⟨⟨awaited', farewells', hlater⟩, halso⟩ :=
        ih (client.react link effect).1 fun later hmem => hquiet later (List.mem_cons_of_mem _ hmem)
      rw [reactAll_cons, events_append, hsilent, halso]
      refine ⟨⟨awaited', farewells', ?_⟩, rfl⟩
      rw [hlater, hfirst]

/-- What happens to a connection without a message changes nothing else of note. -/
theorem onLink_quiet {client : Client β η} {link : Nat}
    {connection : Connection (Waiter β) Ticket} (hfound : client.links[link]? = some connection)
    (happen : Connection (Waiter β) Ticket →
      Connection (Waiter β) Ticket × List (Link.Effect (Waiter β) Ticket))
    (hquiet : ∀ effect ∈ (happen connection).2, IsQuiet effect) :
    (∃ awaited farewells, (client.onLink link happen).1 =
      { client with links := client.links.set link (happen connection).1, awaited, farewells }) ∧
      events (client.onLink link happen).2 = [] := by
  unfold onLink
  rw [hfound]
  exact reactAll_quiet { client with links := client.links.set link (happen connection).1 } link
    hquiet

/-! ### Answers -/

/-- The subscription that the outcome of a request opens for its owner. -/
def Waiter.opens? (waiter : Waiter β) (outcome : Link.Outcome) :
    Option (Rpc.SubscriptionId × Link.Registration Ticket) :=
  match waiter with
  | .subscriber ticket unsubscribe _ =>
      (outcome.bind subscriptionOf).toOption.map fun id => (id, ⟨unsubscribe, ticket⟩)
  | .call _ _ | .closer _ | .nobody => none

/-- An answer registers the subscription that it opens. -/
theorem settle_eq {request : Request (Waiter β) Ticket}
    (hgenuine : request.registers = request.owner.registers) (outcome : Link.Outcome)
    (subscriptions : Link.Subscriptions Ticket) :
    request.settle outcome subscriptions =
      match request.owner.opens? outcome with
      | some (id, registration) => subscriptions.insert id registration
      | none => subscriptions := by
  unfold Request.settle
  rw [hgenuine]
  cases outcome with
  | error error => cases request.owner <;> rfl
  | ok raw =>
      cases request.owner with
      | subscriber ticket unsubscribe event =>
          unfold Waiter.registers Waiter.opens? Except.bind
          dsimp only
          cases subscriptionOf raw <;> rfl
      | _ => rfl

/-! ### What connections keep -/

/-- What a connection keeps between the steps of its client. -/
structure Kept (connection : Connection (Waiter β) Ticket) : Prop where
  orderly : connection.Orderly
  /-- A loop that has ended left no subscription behind. -/
  forgotten : connection.ended = true → connection.subscriptions = .empty
  /-- The client can still queue commands. -/
  held : connection.released = false
  /-- Requests that wait register what their owners say. -/
  waiting : ∀ request ∈ connection.pending.values, request.registers = request.owner.registers
  queued : ∀ command ∈ connection.queue, ∀ request, command.request? = some request →
    request.registers = request.owner.registers

namespace Kept

variable {connection : Connection (Waiter β) Ticket}

theorem start (epoch : Rpc.Epoch) (settings : Link.Settings) :
    Kept (Connection.start epoch settings : Connection (Waiter β) Ticket) where
  orderly := .start epoch settings
  forgotten := by simp [Connection.start]
  held := rfl
  waiting := by simp [Connection.start, Link.Registry.values, Link.Registry.empty]
  queued := by simp [Connection.start]

/-- Where a subscription is registered, the loop runs. -/
theorem running_of_registered (hkept : Kept connection) {name : Rpc.SubscriptionId}
    {registration : Link.Registration Ticket}
    (hregistered : connection.subscriptions.find? name = some registration) :
    connection.ended = false := by
  by_contra hended
  rw [hkept.forgotten (by simpa using hended)] at hregistered
  contradiction

theorem waiting_of_found (hkept : Kept connection) {id : Rpc.RequestId}
    {request : Request (Waiter β) Ticket} (hwaits : connection.pending.find? id = some request) :
    request.registers = request.owner.registers :=
  hkept.waiting request (List.mem_map_of_mem ((Link.Registry.find?_eq_some_iff _ _ _).mp hwaits))

theorem answered (hkept : Kept connection) (hrunning : connection.ended = false)
    (id : Rpc.RequestId) (request : Request (Waiter β) Ticket) (outcome : Link.Outcome) :
    Kept (connection.answered id request outcome) where
  orderly := .of_running hkept.orderly.whole (by simp [Connection.answered, hrunning])
  forgotten hended := by
    simp [Connection.answered, hrunning] at hended
  held := hkept.held
  waiting other hmem := hkept.waiting other ((connection.pending.values_erase_sublist id).mem hmem)
  queued := hkept.queued

theorem finish (hkept : Kept connection) (reason : Link.CloseReason) :
    Kept (connection.finish reason).1 where
  orderly := hkept.orderly.finish reason
  forgotten _ := rfl
  held := hkept.held
  waiting := by simp [Connection.finish, Link.Registry.values, Link.Registry.empty]
  queued := by simp [Connection.finish]

theorem turn (hkept : Kept connection) (turn : Link.Turn) : Kept (connection.turn turn).1 := by
  cases hended : connection.ended with
  | true =>
      rw [Connection.turn_of_ended hended]
      exact hkept
  | false =>
      by_cases hmessage : ∃ bytes, turn = .message bytes
      · obtain ⟨bytes, rfl⟩ := hmessage
        rw [hkept.orderly.turn_message hended]
        cases connection.bearing bytes with
        | answer id request outcome => exact hkept.answered hended id request outcome
        | event id registration method raw => exact hkept
        | nothing => exact hkept
      · cases hends : connection.ending? turn with
        | some reason =>
            obtain ⟨frames, hsame, -⟩ := Connection.turn_of_ending hended hends
            rw [hsame]
            exact hkept.finish reason
        | none =>
            obtain ⟨pending, queue, keepalive, hframe, hfewer, hwaits⟩ :=
              Connection.turn_of_going_on hended hends fun bytes hsame => hmessage ⟨bytes, hsame⟩
            rw [hframe]
            refine ⟨.of_running hkept.orderly.whole (by simp [hended]), ?_, hkept.held, ?_, ?_⟩
            · intro hstopped
              simp [hended] at hstopped
            · intro request hmem
              obtain hold | ⟨command, hmem, hsame⟩ := hwaits request hmem
              · exact hkept.waiting request hold
              · exact hkept.queued command hmem request hsame
            · intro command hmem
              exact hkept.queued command (hfewer command hmem)

/-- Every step that a client lets a connection take. -/
theorem step (hkept : Kept connection) {step : Connection.Step (Waiter β) Ticket}
    (hgenuine : Genuine step) : Kept (connection.step step).1 := by
  have horderly := hkept.orderly.step step
  cases step with
  | send id payload request =>
      unfold Connection.step Connection.send at horderly ⊢
      dsimp only at horderly ⊢
      split at horderly
      next hended =>
        rw [if_pos hended]
        exact hkept
      next hrunning =>
        rw [if_neg hrunning]
        refine ⟨horderly, hkept.forgotten, hkept.held, hkept.waiting, ?_⟩
        intro command hmem other hsame
        rcases List.mem_append.mp hmem with hold | hnew
        · exact hkept.queued command hold other hsame
        · obtain ⟨waiter, method, rfl⟩ := hgenuine
          rw [List.mem_singleton.mp hnew] at hsame
          cases hsame
          rfl
  | shutdown reason =>
      unfold Connection.step Connection.shutdown at horderly ⊢
      dsimp only at horderly ⊢
      split at horderly
      next hended =>
        rw [if_pos hended]
        exact hkept
      next hrunning =>
        rw [if_neg hrunning]
        refine ⟨horderly, hkept.forgotten, hkept.held, hkept.waiting, ?_⟩
        intro command hmem other hsame
        rcases List.mem_append.mp hmem with hold | hnew
        · exact hkept.queued command hold other hsame
        · rw [List.mem_singleton.mp hnew] at hsame
          contradiction
  | release => contradiction
  | register id registration => contradiction
  | unregister id =>
      refine ⟨horderly, ?_, hkept.held, hkept.waiting, hkept.queued⟩
      intro hended
      change connection.subscriptions.erase id = .empty
      rw [hkept.forgotten hended]
      rfl
  | turn turn => exact hkept.turn turn

end Kept

theorem kept_step {client : Client β η} (hkept : AllLinks Kept client) (action : Action β η) :
    AllLinks Kept (client.step action).1 :=
  step_allLinks (fun _ _ hgenuine hkept => hkept.step hgenuine) Kept.start hkept action

theorem kept_run {client : Client β η} (hkept : AllLinks Kept client)
    (history : List (Action β η)) : AllLinks Kept (client.run history).1 :=
  run_allLinks (fun _ _ hgenuine hkept => hkept.step hgenuine) Kept.start hkept history

theorem kept_links (address : Address) (options : Options) (history : List (Action β η)) :
    AllLinks Kept ((fresh address options : Client β η).run history).1 := by
  refine kept_run ?_ history
  intro connection hmem
  contradiction

end ChainRpc.Client
