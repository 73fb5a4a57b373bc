import ChainRpc.Proofs.Client.Links
import Mathlib.Data.List.Nodup

/-!
# Tickets

The request of an operation is on its way to a connection, queued there, or waits there for its
answer. Whatever happens to a client, a request is in one of these places at a time, so when
every operation has a ticket of its own, no two requests carry the same ticket.
-/

namespace ChainRpc.Client

open Link (Connection filterMap_cons_toList)

variable {β η : Type}

/-- The ticket of the operation that an action starts. -/
def Action.ticket? : Action β η → Option Ticket
  | .call ticket _ | .subscribe ticket _ | .unsubscribe ticket _ => some ticket
  | .beginConnect | .endConnect _ | .beginClose | .proceed | .number _ | .enqueue _ | .forget _
  | .setHandler _ _ | .retire _ | .turn _ _ => none

/-- The tickets of the operations that a history starts. -/
def tickets (history : List (Action β η)) : List Ticket := history.filterMap Action.ticket?

/-- The tickets of the requests that are on their way to a connection. -/
def underway (client : Client β η) : List Ticket :=
  client.submissions.values.filterMap (·.waiter.ticket?)

/-- The tickets of the requests that a connection has not completed. -/
def carried (connection : Connection (Waiter β) Ticket) : List Ticket :=
  connection.outstanding.filterMap Waiter.ticket?

/-- The tickets of all requests that are not completed. -/
def openTickets (client : Client β η) : List Ticket :=
  client.underway ++ client.links.flatMap carried

/-! ### Places of a list -/

theorem count_flatMap_set {α : Type} (f : α → List Ticket) {items : List α} {place : Nat}
    {before : α} (hfound : items[place]? = some before) (after : α) (ticket : Ticket) :
    ((items.set place after).flatMap f).count ticket + (f before).count ticket
      = (items.flatMap f).count ticket + (f after).count ticket := by
  induction items generalizing place with
  | nil => contradiction
  | cons item items ih =>
      cases place with
      | zero =>
          rw [List.getElem?_cons_zero, Option.some.injEq] at hfound
          subst hfound
          simp only [List.set_cons_zero, List.flatMap_cons, List.count_append]
          omega
      | succ place =>
          rw [List.getElem?_cons_succ] at hfound
          have := ih hfound
          simp only [List.set_cons_succ, List.flatMap_cons, List.count_append]
          omega

theorem flatMap_modify {α : Type} (f : α → List Ticket) {change : α → α}
    (hsame : ∀ item, f (change item) = f item) (items : List α) (place : Nat) :
    (items.modify place change).flatMap f = items.flatMap f := by
  induction items generalizing place with
  | nil => simp
  | cons item items ih =>
      cases place with
      | zero => simp [hsame]
      | succ place => simp [ih]

/-! ### What each action does to the tickets -/

/-- A connection carries no ticket but those it had and the one of the request it is given. -/
theorem count_carried_step (connection : Connection (Waiter β) Ticket)
    (step : Connection.Step (Waiter β) Ticket) (ticket : Ticket) :
    (carried (connection.step step).1).count ticket
      ≤ (step.sent?.bind Waiter.ticket?).toList.count ticket
        + (carried connection).count ticket := by
  have hmoved := (connection.step_accounts step).filterMap Waiter.ticket?
  have hcounts := hmoved.count_eq ticket
  rw [List.filterMap_append, List.filterMap_append, List.count_append, List.count_append]
    at hcounts
  have hgiven : step.sent?.toList.filterMap Waiter.ticket?
      = (step.sent?.bind Waiter.ticket?).toList := by
    cases step.sent? with
    | none => rfl
    | some waiter => simp [filterMap_cons_toList]
  rw [hgiven] at hcounts
  unfold carried
  omega

/-- The unsubscribe call for a subscription nobody holds has no ticket. -/
theorem carried_dismiss (id : Rpc.SubscriptionId) (number : Rpc.RequestId)
    (payload method : String) (connection : Connection (Waiter β) Ticket) :
    carried (dismiss id number payload method connection) = carried connection := by
  unfold dismiss Connection.send
  split
  next => rfl
  next =>
    simp only [carried, Connection.outstanding, Connection.queued, Connection.waiting,
      Connection.unregister, List.filterMap_append, List.map_append]
    simp [Link.Command.request?, Waiter.request, Waiter.ticket?]

theorem react_openTickets (client : Client β η) (link : Nat)
    (effect : Link.Effect (Waiter β) Ticket) :
    (client.react link effect).1.openTickets = client.openTickets := by
  obtain ⟨hlinks, hsubmissions, -, -⟩ := client.react_reacted link effect
  unfold openTickets underway
  rw [hsubmissions]
  rcases hlinks with hlinks | ⟨id, number, payload, method, hlinks⟩
  · rw [hlinks]
  · rw [hlinks, flatMap_modify carried (carried_dismiss id number payload method)]

theorem reactAll_openTickets (client : Client β η) (link : Nat)
    (effects : List (Link.Effect (Waiter β) Ticket)) :
    (client.reactAll link effects).1.openTickets = client.openTickets :=
  reactAll_eq openTickets (fun client effect => client.react_openTickets link effect) client effects

theorem count_onLink (client : Client β η) (link : Nat)
    (happening : Connection.Step (Waiter β) Ticket) (ticket : Ticket) :
    (client.onLink link (·.step happening)).1.openTickets.count ticket
      ≤ (happening.sent?.bind Waiter.ticket?).toList.count ticket
        + client.openTickets.count ticket := by
  unfold onLink
  split
  next connection hfound =>
    dsimp only
    rw [reactAll_openTickets]
    have hreplaced := count_flatMap_set carried hfound (connection.step happening).1 ticket
    have hstep := count_carried_step connection happening ticket
    simp only [openTickets, underway, List.count_append]
    omega
  next => exact Nat.le_add_left _ _

theorem count_submit (client : Client β η) (ticket other : Ticket) (submission : Submission β)
    (hown : submission.waiter.ticket? = some ticket) :
    (client.submit ticket submission).openTickets.count other
      ≤ [ticket].count other + client.openTickets.count other := by
  have hkept := ((client.submissions.values_erase_sublist ticket).filterMap
    (·.waiter.ticket?)).count_le other
  simp only [submit, openTickets, underway, Link.Registry.values_insert, List.filterMap_append,
    filterMap_cons_toList, hown, Option.toList_some, List.filterMap_nil, List.append_nil,
    List.count_append]
  omega

/-- What is told of each request that is on its way is told of one of them and of the others. -/
theorem count_filterMap_submissions {α : Type} [DecidableEq α] (f : Submission β → Option α)
    {client : Client β η} {ticket : Ticket} {submission : Submission β}
    (hfound : client.submissions.find? ticket = some submission) (item : α) :
    (client.submissions.values.filterMap f).count item
      = (f submission).toList.count item
        + ((client.submissions.erase ticket).values.filterMap f).count item := by
  have hmoved := (Link.Registry.perm_values_erase hfound).filterMap f
  rw [filterMap_cons_toList] at hmoved
  rw [← List.count_append]
  exact hmoved.count_eq item

theorem count_number {client : Client β η} {ticket : Ticket} {submission : Submission β}
    (hfound : client.submissions.find? ticket = some submission) (coder : Rpc.Coder)
    (id : Option Rpc.RequestId) (other : Ticket) :
    ({ client with
        coder, submissions := client.submissions.insert ticket { submission with id } } :
      Client β η).openTickets.count other = client.openTickets.count other := by
  have hmoved := count_filterMap_submissions (·.waiter.ticket?) hfound other
  simp only [openTickets, underway, hmoved, Link.Registry.values_insert,
    List.filterMap_append, filterMap_cons_toList, List.filterMap_nil, List.append_nil,
    List.count_append]
  omega

/-- A request that is queued takes its ticket from the requests underway to the connection. -/
theorem count_enqueue {client : Client β η} {ticket : Ticket} {submission : Submission β}
    (hfound : client.submissions.find? ticket = some submission) (id : Rpc.RequestId)
    (payload : String) (other : Ticket) :
    ({ client with submissions := client.submissions.erase ticket }.onLink submission.link
        (·.send id payload (submission.waiter.request submission.method))).1.openTickets.count other
      ≤ client.openTickets.count other := by
  have hmoved := count_filterMap_submissions (·.waiter.ticket?) hfound other
  have hsent := count_onLink { client with submissions := client.submissions.erase ticket }
    submission.link (.send id payload (submission.waiter.request submission.method)) other
  refine Nat.le_trans hsent ?_
  simp only [openTickets, underway, List.count_append, hmoved, Connection.Step.sent?,
    Waiter.request, Option.bind_some]
  omega

theorem shutDown_openTickets (client : Client β η) (link : Option Nat)
    (reason : Link.CloseReason) :
    (client.shutDown link reason).openTickets = client.openTickets := by
  cases link with
  | none => rfl
  | some link =>
      have hsame : ∀ connection : Connection (Waiter β) Ticket,
          carried (connection.shutdown reason) = carried connection := by
        intro connection
        unfold Connection.shutdown
        split
        next => rfl
        next => simp [carried, Connection.outstanding, Connection.queued, Connection.waiting,
          Link.Command.request?]
      unfold shutDown modifyLink openTickets
      dsimp only
      rw [flatMap_modify carried hsame]
      rfl

/-- An action adds its own ticket to those of the open requests, and no other. -/
theorem count_openTickets_step (client : Client β η) (action : Action β η) (ticket : Ticket) :
    (client.step action).1.openTickets.count ticket
      ≤ action.ticket?.toList.count ticket + client.openTickets.count ticket := by
  have hstepped := client.stepped action
  generalize client.step action = next at hstepped ⊢
  have hamong {after : Client β η}
      (hfewer : after.openTickets.count ticket ≤ client.openTickets.count ticket) :
      after.openTickets.count ticket
        ≤ action.ticket?.toList.count ticket + client.openTickets.count ticket :=
    Nat.le_trans hfewer (Nat.le_add_left _ _)
  cases hstepped with
  | opens _ _ =>
      have hempty : carried (Connection.start client.epoch.next client.options.settings :
        Connection (Waiter β) Ticket) = [] := rfl
      simp only [openLink, openTickets, List.flatMap_append, List.flatMap_cons, hempty,
        List.flatMap_nil, List.append_nil]
      exact Nat.le_add_left _ _
  | resets old _ =>
      exact hamong (Nat.le_of_eq (congrArg _ (client.shutDown_openTickets (some old) .reset)))
  | closes old _ =>
      exact hamong (Nat.le_of_eq (congrArg _ (client.shutDown_openTickets old .closed)))
  | calls own call _ _ => exact client.count_submit own ticket _ rfl
  | subscribes own call _ _ => exact client.count_submit own ticket _ rfl
  | parts own handle held _ _ => exact count_submit _ own ticket _ rfl
  | numbers own submission hfound _ =>
      exact hamong (Nat.le_of_eq (count_number hfound client.coder.take.2 _ ticket))
  | sends own submission id hfound _ => exact hamong (count_enqueue hfound id _ ticket)
  | retires own farewell _ _ _ =>
      have hsame : (client.links.modify farewell.link (·.unregister farewell.id)).flatMap carried
          = client.links.flatMap carried := by
        refine flatMap_modify carried ?_ client.links farewell.link
        exact fun _ => rfl
      unfold modifyLink openTickets
      dsimp only
      rw [hsame]
      exact Nat.le_add_left _ _
  | turns link turn => exact client.count_onLink link (.turn turn) ticket
  | _ => exact Nat.le_add_left _ _

/-- A history adds the tickets of its operations, and no other. -/
theorem count_openTickets_run (client : Client β η) (history : List (Action β η))
    (ticket : Ticket) :
    (client.run history).1.openTickets.count ticket
      ≤ (tickets history).count ticket + client.openTickets.count ticket := by
  induction history generalizing client with
  | nil => exact Nat.le_add_left _ _
  | cons action history ih =>
      have hstep := client.count_openTickets_step action ticket
      have hlater := ih (client.step action).1
      unfold tickets
      rw [filterMap_cons_toList, List.count_append]
      change ((client.step action).1.run history).1.openTickets.count ticket ≤ _
      unfold tickets at hlater
      omega

/-- When every operation has a ticket of its own, so has every open request. -/
theorem openTickets_nodup (address : Address) (options : Options) {history : List (Action β η)}
    (hdistinct : (tickets history).Nodup) :
    ((fresh address options : Client β η).run history).1.openTickets.Nodup := by
  rw [List.nodup_iff_count_le_one] at hdistinct ⊢
  intro ticket
  have hadded := count_openTickets_run (fresh address options : Client β η) history ticket
  have hnone : (fresh address options : Client β η).openTickets.count ticket = 0 := rfl
  have := hdistinct ticket
  omega

/-- The tickets of the requests that wait on a connection. -/
def waitingTickets (connection : Connection (Waiter β) Ticket) : List Ticket :=
  connection.waiting.filterMap Waiter.ticket?

/-- No two requests that wait on a connection belong to the same operation. -/
theorem waitingTickets_nodup (address : Address) (options : Options)
    {history : List (Action β η)} (hdistinct : (tickets history).Nodup)
    {connection : Connection (Waiter β) Ticket}
    (hmem : connection ∈ ((fresh address options : Client β η).run history).1.links) :
    (waitingTickets connection).Nodup := by
  have hall := (openTickets_nodup address options hdistinct).sublist (List.sublist_append_right _ _)
  have hcarriedNodup : (carried connection).Nodup := (List.nodup_flatMap.mp hall).1 connection hmem
  refine hcarriedNodup.sublist ?_
  exact (List.sublist_append_right _ _).filterMap _

end ChainRpc.Client
