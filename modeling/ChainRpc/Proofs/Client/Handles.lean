import ChainRpc.Proofs.Client.Messages
import ChainRpc.Proofs.Client.Occurrences
import ChainRpc.Proofs.Client.Steps

/-!
# Handles and closings

A caller holds a subscription from the answer to its subscribe call on, and nothing but the handler
of it changes. A closing is about the name that the handle has, until it is over.
-/

namespace ChainRpc.Client

open Link (Connection Registry)
open Rpc (SubscriptionId)

variable {β η : Type}

/-! ### Handles -/

/-- The action gives a handle to the caller of a subscribe call. -/
structure Opens (client : Client β η) (action : Action β η) (ticket : Ticket)
    (held : Handle β η) : Prop where
  occurrence : client.occurrence action = .opened held.link held.id ticket held.event
  /-- The subscription belongs to a connection of the client. -/
  placed : ∃ connection, client.links[held.link]? = some connection ∧
    held.epoch = connection.epoch

/-- An answer gives a handle to the caller of the subscribe call that it answers, or to nobody. -/
theorem handles_answer (client : Client β η) (link : Nat) (waiter : Waiter β)
    (outcome : Link.Outcome) {ticket : Ticket} {held : Handle β η}
    (hafter : (client.react link (.completed waiter outcome)).1.handles.find? ticket = some held) :
    client.handles.find? ticket = some held ∨
      held.link = link ∧ held.epoch = ((client.links[link]?).map (·.epoch)).getD client.epoch ∧
        client.answerOccurrence link waiter outcome = .opened link held.id ticket held.event := by
  have hreacts := client.reacts link (.completed waiter outcome)
  generalize client.react link (.completed waiter outcome) = next at hreacts hafter
  cases hreacts with
  | opens owner unsubscribe event outcome id hnamed hwanted =>
      rw [forget, Registry.find?_insert] at hafter
      split at hafter
      next hsame =>
        subst hsame
        cases hafter
        exact .inr ⟨rfl, rfl, answerOccurrence_of_wanted link hnamed hwanted⟩
      next => exact .inl hafter
  | _ => exact .inl hafter

/-- Without a message nobody gets a handle. -/
theorem handles_onLink_quiet (client : Client β η) (link : Nat)
    (happen : Connection (Waiter β) Ticket →
      Connection (Waiter β) Ticket × List (Link.Effect (Waiter β) Ticket))
    (hquiet : ∀ connection, client.links[link]? = some connection →
      ∀ effect ∈ (happen connection).2, Connection.IsQuiet effect) :
    (client.onLink link happen).1.handles = client.handles := by
  cases hfound : client.links[link]? with
  | none =>
      unfold onLink
      rw [hfound]
  | some connection =>
      obtain ⟨⟨awaited, farewells, hframe⟩, -⟩ := onLink_quiet hfound happen (hquiet _ hfound)
      rw [hframe]

theorem handles_turn {client : Client β η} (hkept : AllLinks Kept client) (link : Nat)
    (turn : Link.Turn) {ticket : Ticket} {held : Handle β η}
    (hafter : (client.turn link turn).1.handles.find? ticket = some held) :
    client.handles.find? ticket = some held ∨ client.Opens (.turn link turn) ticket held := by
  by_cases hmessage : ∃ connection bytes, client.links[link]? = some connection ∧
      connection.ended = false ∧ turn = .message bytes
  · obtain ⟨connection, bytes, hfound, hrunning, rfl⟩ := hmessage
    rw [turn_message hfound (hkept connection (List.mem_of_getElem? hfound)) hrunning] at hafter
    have hmeans := connection.bearing_spec bytes
    cases hbears : connection.bearing bytes with
    | answer id request outcome =>
        rw [hbears] at hmeans hafter
        obtain ⟨reply, hread, hwaits, rfl⟩ := hmeans
        obtain hbefore | ⟨rfl, hepoch, hopened⟩ :=
          handles_answer (client.relink link (connection.answered id request _)) link
            request.owner _ hafter
        · exact .inl hbefore
        · refine .inr ⟨?_, connection, hfound, ?_⟩
          · rw [occurrence_message hfound hrunning, messageOccurrence, hread]
            dsimp only
            rw [hwaits]
            exact hopened
          · unfold relink at hepoch
            dsimp only at hepoch
            rw [List.getElem?_set_self (List.getElem?_eq_some_iff.mp hfound).1] at hepoch
            exact hepoch
    | event id registration method raw =>
        rw [hbears] at hafter
        exact .inl hafter
    | nothing =>
        rw [hbears] at hafter
        exact .inl hafter
  · refine .inl ?_
    have hsame := client.handles_onLink_quiet link (·.turn turn) fun connection hfound => by
      obtain ⟨hrunning, bytes, hasked⟩ | hquiet := connection.message_or_quiet turn
      · exact absurd ⟨connection, bytes, hfound, hrunning, hasked⟩ hmessage
      · exact hquiet
    exact hsame ▸ hafter

/-- A handle that is there after an action was there before, if not with the same handler, or the
action is a turn of a loop. -/
theorem handles_before_or_turn {client : Client β η} {action : Action β η} {ticket : Ticket}
    {held : Handle β η} (hafter : (client.step action).1.handles.find? ticket = some held) :
    (∃ before handler, client.handles.find? ticket = some before ∧
      held = { before with handler }) ∨
    ∃ link turn, action = .turn link turn ∧
      (client.turn link turn).1.handles.find? ticket = some held := by
  have hstepped := client.stepped action
  generalize client.step action = next at hstepped hafter
  cases hstepped with
  | attaches handle handler given hfound =>
      rw [Registry.find?_insert] at hafter
      split at hafter
      next hsame =>
        subst hsame
        cases hafter
        exact .inl ⟨given, handler, hfound, rfl⟩
      next => exact .inl ⟨held, held.handler, hafter, rfl⟩
  | sends owner submission id _ _ =>
      have hsame := handles_onLink_quiet
        { client with submissions := client.submissions.erase owner } submission.link
        (·.send id (Rpc.Coder.encode id submission.method submission.params)
          (submission.waiter.request submission.method))
        fun connection _ => connection.send_quiet _ _ _
      exact .inl ⟨held, held.handler, hsame ▸ hafter, rfl⟩
  | turns link turn => exact .inr ⟨link, turn, rfl, hafter⟩
  | closes old _ => cases old <;> exact .inl ⟨held, held.handler, hafter, rfl⟩
  | _ => exact .inl ⟨held, held.handler, hafter, rfl⟩

/-- Every handle that is there after an action was there before, if not with the same handler, or
the action has given it to its caller. -/
theorem handles_step {client : Client β η} (hkept : AllLinks Kept client) (action : Action β η)
    {ticket : Ticket} {held : Handle β η}
    (hafter : (client.step action).1.handles.find? ticket = some held) :
    (∃ before handler, client.handles.find? ticket = some before ∧
      held = { before with handler }) ∨ client.Opens action ticket held := by
  obtain hbefore | ⟨link, turn, rfl, hturned⟩ := handles_before_or_turn hafter
  · exact .inl hbefore
  · obtain hbefore | hopens := handles_turn hkept link turn hturned
    · exact .inl ⟨held, held.handler, hbefore, rfl⟩
    · exact .inr hopens

/-! ### Closings -/

/-- The connection and the name that a closing is about. -/
def closes? (client : Client β η) (closing : Ticket) : Option (Nat × SubscriptionId) :=
  (client.farewells.find? closing).map fun farewell => (farewell.link, farewell.id)

theorem closes?_react (client : Client β η) (link : Nat)
    (effect : Link.Effect (Waiter β) Ticket) (closing : Ticket) :
    (client.react link effect).1.closes? closing = client.closes? closing := by
  have hreacts := client.reacts link effect
  generalize client.react link effect = next at hreacts ⊢
  cases hreacts with
  | answers ticket outcome farewell hfound =>
      -- The farewell gets its answer and stays what it is otherwise.
      unfold closes?
      dsimp only
      rw [Registry.find?_insert]
      split
      next hsame =>
        rw [hsame, hfound]
        rfl
      next => rfl
  | _ => rfl

/-- What happens to a connection leaves the names of the closings alone. -/
theorem closes?_onLink (client : Client β η) (link : Nat)
    (happen : Connection (Waiter β) Ticket →
      Connection (Waiter β) Ticket × List (Link.Effect (Waiter β) Ticket)) (closing : Ticket) :
    (client.onLink link happen).1.closes? closing = client.closes? closing :=
  onLink_eq (·.closes? closing) (fun _ _ => rfl)
    (fun client effect => client.closes?_react link effect closing) client happen

/-- A closing is about what it was about before, or it begins and is about what its handle names. -/
theorem closes?_step (client : Client β η) (action : Action β η) {closing : Ticket}
    {name : Nat × SubscriptionId} (hcloses : (client.step action).1.closes? closing = some name) :
    client.closes? closing = some name ∨
      ∃ handle held, action = .unsubscribe closing handle ∧
        client.handles.find? handle = some held ∧ name = (held.link, held.id) := by
  have hstepped := client.stepped action
  generalize client.step action = next at hstepped hcloses
  cases hstepped with
  | parts ticket handle held hfound _ =>
      simp only [closes?, submit, Registry.find?_insert] at hcloses
      split at hcloses
      next hsame =>
        cases hcloses
        exact .inr ⟨handle, held, by rw [hsame], hfound, rfl⟩
      next => exact .inl hcloses
  | retires ticket farewell answer _ _ =>
      simp only [closes?, Registry.find?_erase] at hcloses
      split at hcloses
      next => contradiction
      next => exact .inl hcloses
  | sends ticket submission id _ _ =>
      rw [closes?_onLink] at hcloses
      exact .inl hcloses
  | turns link turn =>
      unfold Client.turn at hcloses
      rw [closes?_onLink] at hcloses
      exact .inl hcloses
  | closes old _ => cases old <;> exact .inl hcloses
  | _ => exact .inl hcloses

end ChainRpc.Client
