import ChainRpc.Proofs.Client.Steps
import ChainRpc.Proofs.Link.Completion

/-!
# Connections of a client

A client changes its connections by their own steps and in no other way, so what every step of a
connection preserves holds of all connections of a client at any time. Only some of the steps are a
client's: its requests register what their owners say, and nothing else does.
-/

namespace ChainRpc.Client

open Link (Connection)
open Rpc (RequestId SubscriptionId)

variable {β η : Type}

/-! ### Reactions -/

/-- The operation whose caller a waiter stands for. -/
def Waiter.ticket? : Waiter β → Option Ticket
  | .call ticket _ | .subscriber ticket _ _ | .closer ticket => some ticket
  | .nobody => none

/-- The operation that an effect of a connection has an answer for. -/
def answers? (effect : Link.Effect (Waiter β) Ticket) : Option Ticket :=
  effect.told?.bind Waiter.ticket?

/-- The unsubscribe call that a client makes for a subscription nobody holds. -/
def dismiss (id : SubscriptionId) (number : RequestId) (payload method : String)
    (connection : Connection (Waiter β) Ticket) : Connection (Waiter β) Ticket :=
  ((connection.unregister id).send number payload (Waiter.nobody.request method)).1

/-- A client after a reaction to what happened on a connection. The connections stay as they are,
unless a subscription was opened that nobody holds, and nobody but the caller of the answered
operation stops waiting. -/
structure Reacted (client : Client β η) (link : Nat) (answered : Option Ticket)
    (after : Client β η) : Prop where
  links : after.links = client.links ∨
    ∃ id number payload method,
      after.links = client.links.modify link (dismiss id number payload method)
  submissions : after.submissions = client.submissions
  fewer : ∀ ticket ∈ after.awaited, ticket ∈ client.awaited
  others : ∀ ticket ∈ client.awaited, answered ≠ some ticket → ticket ∈ after.awaited

/-- A reaction that leaves connections, requests and callers alone. -/
theorem reacted_of_eq {client after : Client β η} {link : Nat} {answered : Option Ticket}
    (hlinks : after.links = client.links) (hsubmissions : after.submissions = client.submissions)
    (hawaited : after.awaited = client.awaited) : Reacted client link answered after where
  links := .inl hlinks
  submissions := hsubmissions
  fewer _ hmem := hawaited ▸ hmem
  others _ hmem _ := hawaited ▸ hmem

theorem forget_reacted (client : Client β η) (link : Nat) (ticket : Ticket) :
    Reacted client link (some ticket) (client.forget ticket) where
  links := .inl rfl
  submissions := rfl
  fewer other hmem := List.mem_of_mem_filter hmem
  others other hmem hdifferent := by
    refine List.mem_filter.mpr ⟨hmem, ?_⟩
    simpa using fun hsame : other = ticket => hdifferent (hsame ▸ rfl)

theorem react_reacted (client : Client β η) (link : Nat)
    (effect : Link.Effect (Waiter β) Ticket) :
    Reacted client link (answers? effect) (client.react link effect).1 := by
  have hreacts := client.reacts link effect
  generalize client.react link effect = next at hreacts ⊢
  cases hreacts with
  | resolves ticket | refuses ticket => exact client.forget_reacted link ticket
  | opens ticket =>
      -- The new handle is none of the four parts.
      obtain ⟨hlinks, hsubmissions, hfewer, hothers⟩ := client.forget_reacted link ticket
      exact ⟨hlinks, hsubmissions, hfewer, hothers⟩
  | abandons ticket unsubscribe event outcome id =>
      exact ⟨.inr ⟨id, _, _, _, rfl⟩, rfl, fun _ hmem => hmem, fun _ hmem _ => hmem⟩
  | _ => exact reacted_of_eq rfl rfl rfl

/-- What no reaction changes, all of them leave alone. -/
theorem reactAll_eq {α : Type} (view : Client β η → α) {link : Nat}
    (hreact : ∀ (client : Client β η) (effect : Link.Effect (Waiter β) Ticket),
      view (client.react link effect).1 = view client)
    (client : Client β η) (effects : List (Link.Effect (Waiter β) Ticket)) :
    view (client.reactAll link effects).1 = view client := by
  induction effects generalizing client with
  | nil => rfl
  | cons effect effects ih => exact (ih _).trans (hreact client effect)

/-- What is none of the connections and is changed by no reaction stays as it is, whatever happens
to a connection. -/
theorem onLink_eq {α : Type} (view : Client β η → α) {link : Nat}
    (hrelinked : ∀ (client : Client β η) links, view { client with links } = view client)
    (hreact : ∀ (client : Client β η) (effect : Link.Effect (Waiter β) Ticket),
      view (client.react link effect).1 = view client)
    (client : Client β η)
    (happen : Connection (Waiter β) Ticket →
      Connection (Waiter β) Ticket × List (Link.Effect (Waiter β) Ticket)) :
    view (client.onLink link happen).1 = view client := by
  unfold onLink
  split
  next connection _ =>
    exact (reactAll_eq view hreact _ (happen connection).2).trans (hrelinked client _)
  next => rfl

/-! ### All connections -/

/-- A step that a client lets a connection take. -/
def Genuine : Connection.Step (Waiter β) Ticket → Prop
  | .send _ _ request => ∃ (waiter : Waiter β) (method : String), request = waiter.request method
  | .shutdown _ | .unregister _ | .turn _ => True
  | .release | .register _ _ => False

/-- A property of all connections that the client ever opened. -/
def AllLinks (P : Connection (Waiter β) Ticket → Prop) (client : Client β η) : Prop :=
  ∀ connection ∈ client.links, P connection

section AllLinks

variable {P : Connection (Waiter β) Ticket → Prop}

theorem allLinks_modify {client : Client β η} (hall : AllLinks P client) (link : Nat)
    {change : Connection (Waiter β) Ticket → Connection (Waiter β) Ticket}
    (hkeeps : ∀ connection, P connection → P (change connection)) :
    ∀ connection ∈ client.links.modify link change, P connection := by
  intro connection hmem
  obtain ⟨place, hfound⟩ := List.mem_iff_getElem?.mp hmem
  rw [List.getElem?_modify, Option.map_eq_map, Option.map_eq_some_iff] at hfound
  obtain ⟨before, hbefore, rfl⟩ := hfound
  have hheld := hall before (List.mem_of_getElem? hbefore)
  split
  next => exact hkeeps before hheld
  next => exact hheld

variable (hstep : ∀ connection step, Genuine step → P connection → P (connection.step step).1)
include hstep

theorem react_allLinks {client : Client β η} (hall : AllLinks P client) (link : Nat)
    (effect : Link.Effect (Waiter β) Ticket) : AllLinks P (client.react link effect).1 := by
  obtain ⟨hlinks | ⟨id, number, payload, method, hlinks⟩, -, -, -⟩ :=
    client.react_reacted link effect
  · unfold AllLinks
    rw [hlinks]
    exact hall
  · unfold AllLinks
    rw [hlinks]
    refine allLinks_modify hall link ?_
    -- The subscription is forgotten in one step, and its call is queued in another.
    intro connection hheld
    exact hstep _ (.send number payload (Waiter.nobody.request method)) ⟨_, _, rfl⟩
      (hstep _ (.unregister id) trivial hheld)

theorem reactAll_allLinks {client : Client β η} (hall : AllLinks P client) (link : Nat)
    (effects : List (Link.Effect (Waiter β) Ticket)) :
    AllLinks P (client.reactAll link effects).1 := by
  induction effects generalizing client with
  | nil => exact hall
  | cons effect effects ih => exact ih (react_allLinks hstep hall link effect)

theorem onLink_allLinks {client : Client β η} (hall : AllLinks P client) (link : Nat)
    (happening : Connection.Step (Waiter β) Ticket) (hgenuine : Genuine happening) :
    AllLinks P (client.onLink link (·.step happening)).1 := by
  unfold onLink
  split
  next connection hfound =>
    refine reactAll_allLinks hstep ?_ link _
    intro other hmem
    rcases List.mem_or_eq_of_mem_set hmem with hmem | rfl
    · exact hall other hmem
    · exact hstep connection happening hgenuine (hall connection (List.mem_of_getElem? hfound))
  next => exact hall

theorem shutDown_allLinks {client : Client β η} (hall : AllLinks P client) (link : Option Nat)
    (reason : Link.CloseReason) : AllLinks P (client.shutDown link reason) := by
  cases link with
  | none => exact hall
  | some link =>
      exact allLinks_modify hall link fun connection hheld =>
        hstep connection (.shutdown reason) trivial hheld

variable (hstart : ∀ epoch settings, P (Connection.start epoch settings))
include hstart

/-- What connections have from their start and keep in every step, all connections of a client
keep in each of its actions. -/
theorem step_allLinks {client : Client β η} (hall : AllLinks P client) (action : Action β η) :
    AllLinks P (client.step action).1 := by
  have hstepped := client.stepped action
  generalize client.step action = next at hstepped ⊢
  cases hstepped with
  | opens _ _ =>
      intro connection hmem
      rcases List.mem_append.mp hmem with hmem | hmem
      · exact hall connection hmem
      · rw [List.mem_singleton.mp hmem]
        exact hstart _ _
  | resets old _ => exact shutDown_allLinks hstep hall (some old) .reset
  | closes old _ => exact shutDown_allLinks hstep hall old .closed
  | sends ticket submission id _ _ =>
      have htaken : AllLinks P
          { client with submissions := client.submissions.erase ticket } := hall
      exact onLink_allLinks hstep htaken submission.link
        (.send id _ (submission.waiter.request submission.method)) ⟨_, _, rfl⟩
  | retires ticket farewell _ _ _ =>
      exact allLinks_modify hall farewell.link fun connection hheld =>
        hstep connection (.unregister farewell.id) trivial hheld
  | turns link turn => exact onLink_allLinks hstep hall link (.turn turn) trivial
  | _ => exact hall

theorem run_allLinks {client : Client β η} (hall : AllLinks P client)
    (history : List (Action β η)) : AllLinks P (client.run history).1 := by
  induction history generalizing client with
  | nil => exact hall
  | cons action history ih => exact ih (step_allLinks hstep hstart hall action)

end AllLinks

/-- A client that was just built. -/
def fresh (address : Address) (options : Options) : Client β η := { address, options }

/-- All connections of a client are orderly at any time. -/
theorem orderly_links (address : Address) (options : Options) (history : List (Action β η)) :
    AllLinks Connection.Orderly ((fresh address options : Client β η).run history).1 := by
  refine run_allLinks ?_ Connection.Orderly.start ?_ history
  · exact fun _ step _ horderly => horderly.step step
  · intro connection hmem
    contradiction

end ChainRpc.Client
