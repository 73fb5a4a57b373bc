import ChainRpc.Proofs.Client.Attendance
import ChainRpc.Proofs.Client.Openings
import ChainRpc.Proofs.Client.Wire
import Mathlib.Data.List.Pairwise

/-!
# Where the names of subscriptions come from

A name comes to a client in the answer to a subscribe call and in no other way. It is kept with the
handle and taken over by the request that closes the subscription. If nobody holds the subscription,
the request that ends it is made of the answer at once. As long as every operation has a ticket of
its own, a call has one answer.
-/

namespace ChainRpc.Client

open Link (Connection Registry)
open Rpc (Coder RequestId ResultType SubscriptionId)

variable {β η : Type}

/-! ### What an action does with names -/

/-- The action brings the answer to the subscribe call of a ticket, which waits on the connection of
the place and names a method to end the subscription. -/
def Answering (client : Client β η) (action : Action β η) (place : Nat) (ticket : Ticket)
    (unsubscribe raw : String) : Prop :=
  ∃ turn connection event, action = .turn place turn ∧ client.links[place]? = some connection ∧
    .completed (.subscriber ticket unsubscribe event) (.ok raw) ∈ (connection.turn turn).2

/-- A handle is there that was there before, if not with the same handler, or the answer to a
subscribe call has just named it. -/
inductive Hands (client : Client β η) (action : Action β η) (ticket : Ticket)
    (held : Handle β η) : Prop where
  | keeps (before : Handle β η) (hthere : client.handles.find? ticket = some before)
      (hsame : held = { before with handler := held.handler })
  | opens (raw : String)
      (hanswering : client.Answering action held.link ticket held.unsubscribe raw)
      (hnames : Names raw held.id)

theorem names_of_bind {outcome : Link.Outcome} {name : SubscriptionId}
    (hnamed : outcome.bind subscriptionOf = .ok name) :
    ∃ raw, outcome = .ok raw ∧ Names raw name := by
  cases outcome with
  | error error => cases hnamed
  | ok raw => exact ⟨raw, rfl, subscriptionOf_eq_ok_iff.mp hnamed⟩

/-- Among the effects of a connection a handle comes from the answer to its subscribe call. -/
theorem handle_of_reactAll {client : Client β η} {link : Nat} {ticket : Ticket}
    {held : Handle β η} {effects : List (Link.Effect (Waiter β) Ticket)}
    (hafter : (client.reactAll link effects).1.handles.find? ticket = some held) :
    client.handles.find? ticket = some held ∨
      held.link = link ∧ ∃ raw, Names raw held.id ∧
        .completed (.subscriber ticket held.unsubscribe held.event) (.ok raw) ∈ effects := by
  induction effects generalizing client with
  | nil => exact .inl hafter
  | cons effect effects ih =>
      rw [reactAll_cons] at hafter
      obtain hhere | ⟨hplace, raw, hnames, hmem⟩ := ih hafter
      · have hreacts := client.reacts link effect
        generalize client.react link effect = next at hreacts hhere
        cases hreacts with
        | opens owner unsubscribe event outcome name hnamed hwanted =>
            rw [forget, Registry.find?_insert] at hhere
            split at hhere
            next hsame =>
              subst hsame
              cases hhere
              obtain ⟨raw, rfl, hnames⟩ := names_of_bind hnamed
              exact .inr ⟨rfl, raw, hnames, List.mem_cons_self⟩
            next => exact .inl hhere
        | _ => exact .inl hhere
      · exact .inr ⟨hplace, raw, hnames, List.mem_cons_of_mem _ hmem⟩

theorem hands_of_step {client : Client β η} {action : Action β η} {ticket : Ticket}
    {held : Handle β η} (hafter : (client.step action).1.handles.find? ticket = some held) :
    Hands client action ticket held := by
  obtain ⟨before, handler, hthere, rfl⟩ | ⟨link, turn, rfl, hturned⟩ :=
    handles_before_or_turn hafter
  · exact .keeps before hthere rfl
  · unfold Client.turn onLink at hturned
    split at hturned
    next connection hfound =>
      obtain hbefore | ⟨rfl, raw, hnames, hmem⟩ := handle_of_reactAll hturned
      · exact .keeps held hbefore rfl
      · exact .opens raw ⟨turn, connection, held.event, rfl, hfound, hmem⟩ hnames
    next => exact .keeps held hturned rfl

/-- A request on its way was there before, or got its number just now, or has just begun. -/
inductive Submits (client : Client β η) (action : Action β η) (ticket : Ticket) :
    Submission β → Prop where
  | keeps (submission : Submission β)
      (hthere : client.submissions.find? ticket = some submission) :
      Submits client action ticket submission
  | numbers (submission : Submission β)
      (hthere : client.submissions.find? ticket = some submission) :
      Submits client action ticket { submission with id := some client.coder.peek }
  | calls (link : Nat) (method : String) (params : List Json.Value) (result : ResultType β) :
      Submits client action ticket { link, method, params, waiter := .call ticket result }
  | subscribes (link : Nat) (method : String) (params : List Json.Value) (unsubscribe : String)
      (event : ResultType β) :
      Submits client action ticket
        { link, method, params, waiter := .subscriber ticket unsubscribe event }
  | closes (handle : Ticket) (held : Handle β η) (hasked : action = .unsubscribe ticket handle)
      (hthere : client.handles.find? handle = some held) :
      Submits client action ticket
        { link := held.link, method := held.unsubscribe, params := [held.id.toJson]
          waiter := .closer ticket }

theorem submits_of_step {client : Client β η} {action : Action β η} {ticket : Ticket}
    {submission : Submission β}
    (hafter : (client.step action).1.submissions.find? ticket = some submission) :
    Submits client action ticket submission := by
  have hstepped := client.stepped action
  generalize client.step action = next at hstepped hafter
  cases hstepped with
  | calls owner call link _ =>
      simp only [submit, Registry.find?_insert] at hafter
      split at hafter
      next hsame =>
        subst hsame
        cases hafter
        exact .calls link call.method call.params call.result
      next => exact .keeps submission hafter
  | subscribes owner call link _ =>
      simp only [submit, Registry.find?_insert] at hafter
      split at hafter
      next hsame =>
        subst hsame
        cases hafter
        exact .subscribes link call.method call.params call.unsubscribe call.event
      next => exact .keeps submission hafter
  | parts owner handle held hfound _ =>
      simp only [submit, Registry.find?_insert] at hafter
      split at hafter
      next hsame =>
        subst hsame
        cases hafter
        exact .closes handle held rfl hfound
      next => exact .keeps submission hafter
  | numbers owner earlier hfound _ =>
      rw [Registry.find?_insert] at hafter
      split at hafter
      next hsame =>
        subst hsame
        cases hafter
        exact .numbers earlier hfound
      next => exact .keeps submission hafter
  | sends owner earlier id _ _ =>
      rw [submissions_onLink, Registry.find?_erase] at hafter
      split at hafter
      next => cases hafter
      next => exact .keeps submission hafter
  | turns link turn =>
      unfold Client.turn at hafter
      rw [submissions_onLink] at hafter
      exact .keeps submission hafter
  | resets old _ => exact .keeps submission (client.submissions_shutDown (some old) .reset ▸ hafter)
  | closes old _ => exact .keeps submission (client.submissions_shutDown old .closed ▸ hafter)
  | _ => exact .keeps submission hafter

/-- A request is sent on a connection: one of those on their way, or one that ends a subscription
which nobody holds. -/
inductive Sends (client : Client β η) (place : Nat) :
    Action β η → RequestId → String → Link.Request (Waiter β) Ticket → Prop where
  | enqueues (ticket : Ticket) (submission : Submission β) (id : RequestId)
      (hthere : client.submissions.find? ticket = some submission)
      (hhere : submission.link = place) (hnumbered : submission.id = some id) :
      Sends client place (.enqueue ticket) id
        (Coder.encode id submission.method submission.params)
        (submission.waiter.request submission.method)
  | dismisses (action : Action β η) (ticket : Ticket) (unsubscribe raw : String)
      (name : SubscriptionId) (hanswering : client.Answering action place ticket unsubscribe raw)
      (hnames : Names raw name) :
      Sends client place action client.coder.peek
        (Coder.encode client.coder.peek unsubscribe [name.toJson])
        (Waiter.nobody.request unsubscribe)

theorem sends_of_moves {client : Client β η} {place : Nat} {action : Action β η} {id : RequestId}
    {payload : String} {request : Link.Request (Waiter β) Ticket}
    (hmem : .send id payload request ∈ client.moves place action) :
    Sends client place action id payload request := by
  cases action with
  | enqueue ticket =>
      unfold moves at hmem
      dsimp only at hmem
      cases hfound : client.submissions.find? ticket with
      | none => simp [hfound] at hmem
      | some submission =>
          obtain ⟨link, method, params, waiter, number⟩ := submission
          cases number with
          | none => simp [hfound] at hmem
          | some number =>
              rw [hfound] at hmem
              dsimp only at hmem
              split at hmem
              next hhere =>
                have honly := List.mem_singleton.mp hmem
                obtain ⟨rfl, rfl, rfl⟩ := Connection.Step.send.inj honly
                exact .enqueues ticket ⟨link, method, params, waiter, some id⟩ id hfound hhere rfl
              next => contradiction
  | turn link turn =>
      unfold moves at hmem
      dsimp only at hmem
      split at hmem
      next connection hfound =>
        split at hmem
        next hsame =>
          subst hsame
          obtain hother | hmem := List.mem_cons.mp hmem
          · cases hother
          obtain ⟨effect, htold, hmem⟩ := List.mem_flatMap.mp hmem
          unfold dismissal at hmem
          split at hmem
          next ticket unsubscribe event outcome =>
            split at hmem
            next name hnamed =>
              split at hmem
              next => contradiction
              next =>
                obtain hother | hlast := List.mem_cons.mp hmem
                · cases hother
                obtain ⟨raw, rfl, hnames⟩ := names_of_bind hnamed
                obtain ⟨rfl, rfl, rfl⟩ := Connection.Step.send.inj (List.mem_singleton.mp hlast)
                exact .dismisses _ ticket unsubscribe raw name
                  ⟨turn, connection, event, rfl, hfound, htold⟩ hnames
            next => contradiction
          all_goals contradiction
        next => contradiction
      next => contradiction
  | proceed =>
      have hcause := cause_of_mem_moves hmem
      cases hcause
  | retire ticket =>
      have hcause := cause_of_mem_moves hmem
      cases hcause
  | _ => contradiction

/-- A connection that was not there before the action has nothing in its queue. -/
theorem queue_of_new {client : Client β η} {place : Nat} {action : Action β η}
    {connection : Connection (Waiter β) Ticket} (habsent : client.links[place]? = none)
    (hafter : (client.step action).1.links[place]? = some connection) : connection.queue = [] := by
  have houtside := List.getElem?_eq_none_iff.mp habsent
  have hinside := (List.getElem?_eq_some_iff.mp hafter).1
  by_cases hopens : action = .endConnect .accepted
  · subst hopens
    have hstepped := client.stepped (.endConnect .accepted)
    generalize client.step (.endConnect .accepted) = next at hstepped hafter hinside
    cases hstepped with
    | idle => exact absurd hinside (Nat.not_lt.mpr houtside)
    | fails _ previous error _ hfailed => cases hfailed
    | opens previous hshaking =>
        have hlast := List.mem_of_getElem? ((List.getElem?_append_right houtside).symm.trans hafter)
        rw [List.mem_singleton.mp hlast]
        rfl
  · rw [client.length_step hopens] at hinside
    exact absurd hinside (Nat.not_lt.mpr houtside)

/-- A request in a queue was there before the action, or is sent in it. -/
theorem sends_of_step {client : Client β η} (hkept : AllLinks Kept client) {place : Nat}
    {action : Action β η} {after : Connection (Waiter β) Ticket}
    (hfound : (client.step action).1.links[place]? = some after) {id : RequestId}
    {payload : String} {request : Link.Request (Waiter β) Ticket}
    (hmem : .send id payload request ∈ after.queue) :
    (∃ before, client.links[place]? = some before ∧ .send id payload request ∈ before.queue) ∨
      Sends client place action id payload request := by
  cases hthere : client.links[place]? with
  | none =>
      rw [queue_of_new hthere hfound] at hmem
      contradiction
  | some before =>
      obtain rfl := Option.some.inj ((links_step hkept hthere action).symm.trans hfound)
      obtain hqueued | hsent := Connection.send_of_run hmem
      · exact .inl ⟨before, rfl, hqueued⟩
      · exact .inr (sends_of_moves hsent)

/-! ### Where names come from -/

section Provenance

variable {origin : Client β η} {history : List (Action β η)} {place : Nat} {ticket : Ticket}
  {method raw : String} {params : List Json.Value}

/-- In the history the node has answered the subscribe call of the ticket on the connection of the
place. -/
def Answered (origin : Client β η) (history : List (Action β η)) (place : Nat) (ticket : Ticket)
    (unsubscribe raw : String) : Prop :=
  ∃ before action after, history = before ++ action :: after ∧
    (origin.run before).1.Answering action place ticket unsubscribe raw

/-- The request ends a subscription: its method is the one that the call named for this, and its
only parameter is what the answer to the call named. -/
def Ends (origin : Client β η) (history : List (Action β η)) (place : Nat) (ticket : Ticket)
    (method : String) (params : List Json.Value) : Prop :=
  ∃ raw name, Answered origin history place ticket method raw ∧ Names raw name ∧
    params = [name.toJson]

/-- A request that closes a subscription ends the one that it was asked to close, and a request that
nobody waits for ends one as well. -/
def Sourced (origin : Client β η) (history : List (Action β η)) (place : Nat) (method : String)
    (params : List Json.Value) : Waiter β → Prop
  | .closer closing =>
      ∃ before ticket after, history = before ++ .unsubscribe closing ticket :: after ∧
        Ends origin before place ticket method params
  | .nobody => ∃ ticket, Ends origin history place ticket method params
  | .call _ _ | .subscriber _ _ _ => True

theorem Answered.append (hanswered : Answered origin history place ticket method raw)
    (later : List (Action β η)) : Answered origin (history ++ later) place ticket method raw := by
  obtain ⟨before, action, after, rfl, hanswering⟩ := hanswered
  exact ⟨before, action, after ++ later, by simp, hanswering⟩

theorem Ends.append (hends : Ends origin history place ticket method params)
    (later : List (Action β η)) : Ends origin (history ++ later) place ticket method params := by
  obtain ⟨raw, name, hanswered, hnames, honly⟩ := hends
  exact ⟨raw, name, hanswered.append later, hnames, honly⟩

theorem Sourced.append {waiter : Waiter β}
    (hsourced : Sourced origin history place method params waiter) (later : List (Action β η)) :
    Sourced origin (history ++ later) place method params waiter := by
  cases waiter with
  | closer closing =>
      obtain ⟨before, ticket, after, rfl, hends⟩ := hsourced
      exact ⟨before, ticket, after ++ later, by simp, hends⟩
  | nobody =>
      obtain ⟨ticket, hends⟩ := hsourced
      exact ⟨ticket, hends.append later⟩
  | call | subscriber => trivial

/-- An answer has come if it came before or comes with the last action. -/
theorem answered_concat_iff {action : Action β η} :
    Answered origin (history ++ [action]) place ticket method raw ↔
      Answered origin history place ticket method raw ∨
        (origin.run history).1.Answering action place ticket method raw := by
  constructor
  · rintro ⟨before, last, after, hsplit, hanswering⟩
    obtain rfl | ⟨rest, final, rfl⟩ := List.eq_nil_or_concat after
    · obtain ⟨rfl, ⟨⟩⟩ := List.append_inj' hsplit rfl
      exact .inr hanswering
    · rw [List.concat_eq_append, ← List.cons_append, ← List.append_assoc] at hsplit
      obtain ⟨rfl, ⟨⟩⟩ := List.append_inj' hsplit rfl
      exact .inl ⟨before, last, rest, rfl, hanswering⟩
  · rintro (hanswered | hanswering)
    · exact hanswered.append [action]
    · exact ⟨history, action, [], rfl, hanswering⟩

/-- Every handle was named by an answer to its subscribe call, and every request that ends a
subscription, whether it is on its way or in a queue, has the name from there. -/
structure Provenance (origin : Client β η) (history : List (Action β η)) : Prop where
  counter : (origin.run history).1.coder.next < 2 ^ 64
  handles : ∀ ticket held, (origin.run history).1.handles.find? ticket = some held →
    Ends origin history held.link ticket held.unsubscribe [held.id.toJson]
  submissions : ∀ ticket submission,
    (origin.run history).1.submissions.find? ticket = some submission →
      (∀ id, submission.id = some id → id.value < 2 ^ 64) ∧
      Sourced origin history submission.link submission.method submission.params
        submission.waiter
  queued : ∀ place connection id payload request,
    (origin.run history).1.links[place]? = some connection →
    .send id payload request ∈ connection.queue →
      id.value < 2 ^ 64 ∧ ∃ params, payload = Coder.encode id request.method params ∧
        Sourced origin history place request.method params request.owner

theorem run_concat (origin : Client β η) (history : List (Action β η)) (action : Action β η) :
    (origin.run (history ++ [action])).1 = ((origin.run history).1.step action).1 := by
  rw [run_append]
  rfl

theorem Provenance.step (hprovenance : Provenance origin history)
    (hkept : AllLinks Kept (origin.run history).1) (action : Action β η) :
    Provenance origin (history ++ [action]) where
  counter := by
    rw [run_concat]
    cases counts_step hkept action with
    | keeps _ hcoder _ => exact hcoder ▸ hprovenance.counter
    | takes _ _ hcoder _ =>
        rw [hcoder]
        exact Nat.mod_lt _ (by decide)
    | restarts _ hcoder _ =>
        rw [hcoder]
        decide
  handles ticket held hafter := by
    rw [run_concat] at hafter
    cases hands_of_step hafter with
    | keeps before hthere hsame =>
        rw [hsame]
        exact (hprovenance.handles ticket before hthere).append [action]
    | opens raw hanswering hnames =>
        exact ⟨raw, held.id, answered_concat_iff.mpr (.inr hanswering), hnames, rfl⟩
  submissions ticket submission hafter := by
    rw [run_concat] at hafter
    cases submits_of_step hafter with
    | keeps _ hthere =>
        obtain ⟨hfits, hsourced⟩ := hprovenance.submissions ticket submission hthere
        exact ⟨hfits, hsourced.append [action]⟩
    | numbers earlier hthere =>
        obtain ⟨-, hsourced⟩ := hprovenance.submissions ticket earlier hthere
        refine ⟨?_, hsourced.append [action]⟩
        rintro id ⟨⟩
        exact hprovenance.counter
    | calls | subscribes => exact ⟨nofun, trivial⟩
    | closes handle held hasked hthere =>
        subst hasked
        exact ⟨nofun, history, handle, [], rfl, hprovenance.handles handle held hthere⟩
  queued place connection id payload request hfound hmem := by
    rw [run_concat] at hfound
    obtain ⟨before, hthere, hmem⟩ | hsent := sends_of_step hkept hfound hmem
    · obtain ⟨hfits, params, htext, hsourced⟩ :=
        hprovenance.queued place before id payload request hthere hmem
      exact ⟨hfits, params, htext, hsourced.append [action]⟩
    · cases hsent with
      | enqueues ticket submission id hthere hhere hnumbered =>
          obtain ⟨hfits, hsourced⟩ := hprovenance.submissions ticket submission hthere
          rw [hhere] at hsourced
          exact ⟨hfits id hnumbered, submission.params, rfl, hsourced.append _⟩
      | dismisses _ ticket unsubscribe raw name hanswering hnames =>
          exact ⟨hprovenance.counter, _, rfl, ticket, raw, name,
            answered_concat_iff.mpr (.inr hanswering), hnames, rfl⟩

theorem provenance_run (address : Address) (options : Options) (history : List (Action β η)) :
    Provenance (fresh address options) history := by
  induction history using List.reverseRecOn with
  | nil =>
      have hnext : (0 : Nat) < 2 ^ 64 := by decide
      refine ⟨hnext, ?_, ?_, ?_⟩
      · intro ticket held hfound
        cases hfound
      · intro ticket submission hfound
        cases hfound
      · intro place connection id payload request hfound
        cases hfound
  | append_singleton history action ih =>
      exact ih.step (kept_links address options history) action

section Opened

variable {client : Client β η} {link : Nat} {name : SubscriptionId} {event : ResultType β}

theorem opened_of_answerOccurrence {waiter : Waiter β} {outcome : Link.Outcome}
    (hopened : client.answerOccurrence link waiter outcome = .opened place name ticket event) :
    link = place ∧ ∃ unsubscribe raw, waiter = .subscriber ticket unsubscribe event ∧
      outcome = .ok raw ∧ Names raw name := by
  cases waiter with
  | subscriber own unsubscribe type =>
      unfold answerOccurrence at hopened
      dsimp only at hopened
      split at hopened
      next hnamed =>
        split at hopened
        next =>
          cases hopened
          obtain ⟨raw, hgiven, hnames⟩ := names_of_bind hnamed
          exact ⟨rfl, unsubscribe, raw, rfl, hgiven, hnames⟩
        next => contradiction
      next => contradiction
  | _ => contradiction

theorem opened_of_messageOccurrence {connection : Connection (Waiter β) Ticket}
    (horderly : connection.Orderly) (hrunning : connection.ended = false) {bytes : List UInt8}
    (hopened : client.messageOccurrence link connection bytes = .opened place name ticket event) :
    link = place ∧ ∃ unsubscribe raw, Names raw name ∧
      .completed (.subscriber ticket unsubscribe event) (.ok raw)
        ∈ (connection.turn (.message bytes)).2 := by
  have hturned := horderly.turn_message hrunning bytes
  unfold messageOccurrence at hopened
  unfold Connection.bearing at hturned
  split at hopened
  next id reply hread =>
    rw [hread] at hturned
    dsimp only at hturned
    split at hopened
    next request hwaits =>
      obtain ⟨hhere, unsubscribe, raw, hasked, hgiven, hnames⟩ := opened_of_answerOccurrence hopened
      rw [hwaits] at hturned
      dsimp only at hturned
      rw [hturned, hasked, hgiven]
      exact ⟨hhere, unsubscribe, raw, hnames, List.mem_singleton_self _⟩
    next => contradiction
  all_goals contradiction

/-- A subscription is opened by the answer to its subscribe call. -/
theorem answering_of_opened (hkept : AllLinks Kept client) {action : Action β η}
    (hopened : client.occurrence action = .opened place name ticket event) :
    ∃ unsubscribe raw, client.Answering action place ticket unsubscribe raw ∧
      Names raw name := by
  cases action with
  | turn link turn =>
      unfold occurrence at hopened
      dsimp only at hopened
      split at hopened
      next connection hfound =>
        split at hopened
        next => contradiction
        next hrunning =>
          split at hopened
          next bytes =>
            have horderly := (hkept connection (List.mem_of_getElem? hfound)).orderly
            obtain ⟨rfl, unsubscribe, raw, hnames, hcompleted⟩ :=
              opened_of_messageOccurrence horderly (by simpa using hrunning) hopened
            exact ⟨unsubscribe, raw, ⟨_, connection, event, rfl, hfound, hcompleted⟩, hnames⟩
          next => split at hopened <;> contradiction
      next => contradiction
  | retire =>
      unfold occurrence at hopened
      dsimp only at hopened
      split at hopened <;> contradiction
  | _ => contradiction

end Opened

section Registered

variable {address : Address} {options : Options} {name : SubscriptionId}

theorem answered_of_opened {event : ResultType β}
    (hmem : .opened place name ticket event ∈ (fresh address options).occurrences history) :
    ∃ unsubscribe raw, Answered (fresh address options : Client β η) history place ticket
      unsubscribe raw ∧ Names raw name := by
  induction history using List.reverseRecOn with
  | nil => cases hmem
  | append_singleton history action ih =>
      rw [occurrences_append] at hmem
      rcases List.mem_append.mp hmem with hbefore | hnow
      · obtain ⟨unsubscribe, raw, hanswered, hnames⟩ := ih hbefore
        exact ⟨unsubscribe, raw, hanswered.append [action], hnames⟩
      · obtain ⟨unsubscribe, raw, hanswering, hnames⟩ :=
          answering_of_opened (kept_links address options history) (List.mem_singleton.mp hnow).symm
        exact ⟨unsubscribe, raw, answered_concat_iff.mpr (.inr hanswering), hnames⟩

/-- A name is registered for the call whose answer gave it. -/
theorem answered_of_registered
    (hregistered :
      ((fresh address options : Client β η).run history).1.registered? place name = some ticket) :
    ∃ unsubscribe raw, Answered (fresh address options : Client β η) history place ticket
      unsubscribe raw ∧ Names raw name := by
  have htracks := (Tracks.fresh address options : Tracks (_ : Client β η) []).run
    (kept_links address options []) history
  rw [List.append_nil] at htracks
  rw [htracks.registered] at hregistered
  obtain ⟨recent, item, earlier, hsplit, ⟨event, rfl⟩, -⟩ := holder_eq_some_iff.mp hregistered
  have hmem : .opened place name ticket event
      ∈ ((fresh address options : Client β η).occurrences history).reverse := by
    rw [hsplit]
    exact List.mem_append_right _ List.mem_cons_self
  exact answered_of_opened (List.mem_reverse.mp hmem)

end Registered

/-! ### One answer for each call -/

section Answers

variable {client : Client β η} {connection : Connection (Waiter β) Ticket}
  {waiter other : Waiter β} {outcome last : Link.Outcome}

/-- If every open request has a ticket of its own, a turn completes one request of a ticket. -/
theorem completed_once (hdistinct : client.openTickets.Nodup)
    (hfound : client.links[place]? = some connection) {turn : Link.Turn}
    (hmem : .completed waiter outcome ∈ (connection.turn turn).2)
    (hmem' : .completed other last ∈ (connection.turn turn).2)
    (hown : waiter.ticket? = some ticket) (hown' : other.ticket? = some ticket) :
    waiter = other ∧ outcome = last := by
  have honce : ((connection.turn turn).2.filterMap answers?).Nodup := by
    rw [List.nodup_iff_count_le_one] at hdistinct ⊢
    intro ticket
    have hcounted := count_turn hfound turn ticket
    rw [Link.told, List.filterMap_filterMap] at hcounted
    exact Nat.le_trans (Nat.le.intro hcounted) (hdistinct ticket)
  by_contra hdifferent
  have hapart := List.pairwise_filterMap.mp honce
  have hsymmetric : Std.Symm fun first second : Link.Effect (Waiter β) Ticket =>
      ∀ a, answers? first = some a → ∀ b, answers? second = some b → a ≠ b :=
    ⟨fun _ _ hunequal a hone b htwo => (hunequal b htwo a hone).symm⟩
  refine hapart.forall hmem hmem' ?_ ticket hown ticket hown' rfl
  intro hsame
  cases hsame
  exact hdifferent ⟨rfl, rfl⟩

/-- A request that is completed was open, and is so no longer. -/
theorem count_completed (hfound : client.links[place]? = some connection) {turn : Link.Turn}
    (hmem : .completed waiter outcome ∈ (connection.turn turn).2)
    (hown : waiter.ticket? = some ticket) :
    (client.turn place turn).1.openTickets.count ticket < client.openTickets.count ticket := by
  have hcounted := count_turn hfound turn ticket
  have htold : ticket ∈ (Link.told (connection.turn turn).2).filterMap Waiter.ticket? :=
    List.mem_filterMap.mpr ⟨waiter, List.mem_filterMap.mpr ⟨_, hmem, rfl⟩, hown⟩
  have := List.count_pos_iff.mpr htold
  omega

theorem Answering.mem_openTickets {action : Action β η}
    (hanswering : client.Answering action place ticket method raw) :
    ticket ∈ client.openTickets := by
  obtain ⟨turn, connection, event, rfl, hfound, hcompleted⟩ := hanswering
  exact List.count_pos_iff.mp (Nat.zero_lt_of_lt (count_completed hfound hcompleted rfl))

end Answers

section Unique

variable {address : Address} {options : Options} {place' : Nat} {method' raw' : String}

/-- If every operation has a ticket of its own, the ticket of a call that was answered is not open
any more. -/
theorem Answered.not_mem_openTickets (hdistinct : (tickets history).Nodup)
    (hanswered : Answered (fresh address options : Client β η) history place ticket method raw) :
    ticket ∉ ((fresh address options : Client β η).run history).1.openTickets := by
  obtain ⟨before, -, after, rfl, turn, connection, event, rfl, hfound, hcompleted⟩ := hanswered
  -- The ticket is none of those that were used after the turn, and the turn has completed it.
  have hdrops := count_completed hfound hcompleted rfl
  have hfirst := count_openTickets_run (fresh address options : Client β η) before ticket
  have hnone : (fresh address options : Client β η).openTickets.count ticket = 0 := rfl
  have hrest := count_openTickets_run
    (((fresh address options : Client β η).run before).1.turn place turn).1 after ticket
  have honce := List.nodup_iff_count_le_one.mp hdistinct ticket
  have hparts : tickets (before ++ .turn place turn :: after) = tickets before ++ tickets after :=
    List.filterMap_append
  rw [hparts, List.count_append] at honce
  rw [run_append, ← List.count_eq_zero]
  change ((((fresh address options : Client β η).run before).1.turn place turn).1.run
    after).1.openTickets.count ticket = 0
  omega

/-- If every operation has a ticket of its own, a subscribe call is answered once. -/
theorem Answered.unique (hdistinct : (tickets history).Nodup)
    (hanswered : Answered (fresh address options : Client β η) history place ticket method raw)
    (hagain : Answered (fresh address options : Client β η) history place' ticket method' raw') :
    place = place' ∧ method = method' ∧ raw = raw' := by
  induction history using List.reverseRecOn with
  | nil =>
      obtain ⟨before, action, after, hsplit, -⟩ := hanswered
      simp at hsplit
  | append_singleton history action ih =>
      have hsooner : (tickets history).Nodup :=
        hdistinct.sublist ((List.sublist_append_left _ _).filterMap _)
      rw [answered_concat_iff] at hanswered hagain
      obtain hbefore | hnow := hanswered <;> obtain hbefore' | hnow' := hagain
      · exact ih hsooner hbefore hbefore'
      · exact absurd hnow'.mem_openTickets (hbefore.not_mem_openTickets hsooner)
      · exact absurd hnow.mem_openTickets (hbefore'.not_mem_openTickets hsooner)
      · obtain ⟨turn, connection, event, rfl, hfound, hcompleted⟩ := hnow
        obtain ⟨turn', connection', event', ⟨⟩, hfound', hcompleted'⟩ := hnow'
        obtain rfl := Option.some.inj (hfound.symm.trans hfound')
        obtain ⟨⟨⟩, ⟨⟩⟩ := completed_once (openTickets_nodup address options hsooner) hfound
          hcompleted hcompleted' rfl rfl
        exact ⟨rfl, rfl, rfl⟩

end Unique

end Provenance

end ChainRpc.Client
