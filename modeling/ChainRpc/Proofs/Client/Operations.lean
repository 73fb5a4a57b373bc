import ChainRpc.Proofs.Client.Lifecycle
import ChainRpc.Proofs.Client.Numbers
import ChainRpc.Proofs.Link.Wire

/-!
# Whole operations

If nothing comes in between the steps of an operation, the client accepts it or refuses it at once.
A call that is accepted takes the next number and is queued with it, in the order in which the calls
are accepted; one that is refused takes nothing. Besides its callers, the client makes calls of its
own, for subscriptions that nobody holds, and these are numbered along with the others.
-/

namespace ChainRpc.Client

open Link (Connection Registry)
open Link.Connection (given issued issued_append)
open Rpc (Call Coder RequestId SubscribeCall)

variable {β η : Type}

/-! ### Operations -/

/-- The action is an operation by itself. It starts no request, it opens no connection, and it is
no turn of a loop. -/
def Action.Alone : Action β η → Prop
  | .beginConnect | .beginClose | .proceed | .forget _ | .setHandler _ _ | .retire _ => True
  | .endConnect handshake => handshake ≠ .accepted
  | .call _ _ | .subscribe _ _ | .number _ | .enqueue _ | .unsubscribe _ _ | .turn _ _ => False

/-- One operation of a caller, or one turn of a loop. -/
inductive Operation (β η : Type) where
  | call (ticket : Ticket) (call : Call β)
  | subscribe (ticket : Ticket) (call : SubscribeCall β)
  /-- A subscription is closed, up to the answer of the node. -/
  | close (ticket handle : Ticket)
  | turn (link : Nat) (turn : Link.Turn)
  | other (action : Action β η) (halone : action.Alone)

namespace Operation

/-- The actions of an operation of which nothing comes in between. -/
def actions : Operation β η → List (Action β η)
  | call ticket asked => Action.wholeCall ticket asked
  | subscribe ticket asked => Action.wholeSubscribe ticket asked
  | close ticket handle => Action.wholeUnsubscribe ticket handle
  | turn link taken => [.turn link taken]
  | other action _ => [action]

/-- The actions of operations in their order. -/
def history (operations : List (Operation β η)) : List (Action β η) := operations.flatMap actions

/-- The operation asks the client for a call. -/
def Asks : Operation β η → Prop
  | call _ _ | subscribe _ _ | close _ _ => True
  | turn _ _ | other _ _ => False

end Operation

/-- A call that a client has accepted, with the place of the connection that it is for. -/
structure Accepted where
  place : Nat
  method : String
  params : List Json.Value

/-- The number of a call and its text, if it is for the connection. -/
def Accepted.issue? (place : Nat) : Accepted × Nat → Option (RequestId × String)
  | (call, number) =>
      if call.place = place then some (⟨number⟩, Coder.encode ⟨number⟩ call.method call.params)
      else none

/-- The call by which a client ends a subscription that nobody holds. -/
def cleanUp? (client : Client β η) (link : Nat) :
    Link.Effect (Waiter β) Ticket → Option Accepted
  | .completed (.subscriber ticket unsubscribe _) outcome =>
      match outcome.bind subscriptionOf with
      | .ok id =>
          if client.awaited.contains ticket then none else some ⟨link, unsubscribe, [id.toJson]⟩
      | .error _ => none
  | .completed (.call _ _) _ | .completed (.closer _) _ | .completed .nobody _ | .registered _
  | .wrote _ | .delivered _ _ _ => none

/-- The calls that a client accepts in an operation: those of its callers while it is open, the
unsubscribe calls for subscriptions that are registered, and the calls of its own. -/
def accepted (client : Client β η) : Operation β η → List Accepted
  | .call _ call => client.current?.toList.map fun link => ⟨link, call.method, call.params⟩
  | .subscribe _ call => client.current?.toList.map fun link => ⟨link, call.method, call.params⟩
  | .close _ handle =>
      ((client.handles.find? handle).filter client.isActive).toList.map fun held =>
        ⟨held.link, held.unsubscribe, [held.id.toJson]⟩
  | .turn link turn =>
      match client.links[link]? with
      | some connection => (connection.turn turn).2.filterMap (client.cleanUp? link)
      | none => []
  | .other _ _ => []

/-- The calls that a client accepts in operations, in their order. -/
def calls (client : Client β η) : List (Operation β η) → List Accepted
  | [] => []
  | operation :: operations =>
      client.accepted operation ++ (client.run operation.actions).1.calls operations

/-! ### Numbers -/

theorem course_append (client : Client β η) (place : Nat) (first second : List (Action β η)) :
    client.course place (first ++ second)
      = client.course place first ++ (client.run first).1.course place second := by
  induction first generalizing client with
  | nil => rfl
  | cons action first ih =>
      rw [List.cons_append, course, ih, course, List.append_assoc]
      rfl

theorem given_eq (steps : List (Connection.Step (Waiter β) Ticket)) :
    given steps = (issued steps).map Prod.fst := by
  unfold given issued
  rw [List.map_filterMap]
  congr 1
  funext step
  cases step <;> rfl

theorem unchanged_of_idle {client : Client β η} (hidle : client.submissions = .empty)
    (ticket : Ticket) :
    client.number ticket = client ∧ client.enqueue ticket = (client, []) := by
  have habsent : client.submissions.find? ticket = none := by
    rw [hidle]
    rfl
  unfold number enqueue
  rw [habsent]
  exact ⟨rfl, rfl⟩

/-- A history gives these calls the next numbers, one after the other, and queues each of them on
its connection. No request is on its way at the end. -/
structure Numbers (client : Client β η) (history : List (Action β η)) (calls : List Accepted) :
    Prop where
  counter : ∀ taken, client.coder.next = taken % 2 ^ 64 →
    (client.run history).1.coder.next = (taken + calls.length) % 2 ^ 64
  queued : ∀ taken, client.coder.next = taken % 2 ^ 64 → taken + calls.length ≤ 2 ^ 64 → ∀ place,
    issued (client.course place history) = (calls.zipIdx taken).filterMap (Accepted.issue? place)
  idle : (client.run history).1.submissions = .empty

/-- The next number is the count of those that were taken, as long as there is one left. -/
theorem peek_eq (client : Client β η) {taken : Nat} (hnext : client.coder.next = taken % 2 ^ 64)
    (hfew : taken + 1 ≤ 2 ^ 64) : client.coder.peek = ⟨taken⟩ := by
  rw [Nat.mod_eq_of_lt hfew] at hnext
  exact congrArg RequestId.mk hnext

namespace Numbers

variable {client : Client β η}

theorem nil (hidle : client.submissions = .empty) : Numbers client [] [] where
  counter _ hnext := hnext
  queued _ _ _ _ := rfl
  idle := hidle

theorem append {first second : List (Action β η)} {calls later : List Accepted}
    (hone : Numbers client first calls) (htwo : Numbers (client.run first).1 second later) :
    Numbers client (first ++ second) (calls ++ later) where
  counter taken hnext := by
    rw [run_append, List.length_append, ← Nat.add_assoc]
    exact htwo.counter _ (hone.counter taken hnext)
  queued taken hnext hfew place := by
    rw [List.length_append] at hfew
    rw [course_append, issued_append, hone.queued taken hnext (by omega) place,
      htwo.queued _ (hone.counter taken hnext) (by omega) place, List.zipIdx_append,
      List.filterMap_append]
  idle := by
    rw [run_append]
    exact htwo.idle

/-- An action that takes no number and queues nothing comes first. -/
theorem cons {action : Action β η} {history : List (Action β η)} {calls : List Accepted}
    (hcoder : (client.step action).1.coder = client.coder)
    (hnothing : ∀ place, issued (client.moves place action) = [])
    (hlater : Numbers (client.step action).1 history calls) :
    Numbers client (action :: history) calls where
  counter taken hnext := hlater.counter taken (by rw [hcoder, hnext])
  queued taken hnext hfew place := by
    rw [course, issued_append, hnothing, List.nil_append]
    exact hlater.queued taken (by rw [hcoder, hnext]) hfew place
  idle := hlater.idle

/-- Without a request on its way there is nothing to number and to queue. -/
theorem of_idle (hidle : client.submissions = .empty) (ticket : Ticket) :
    Numbers client [.number ticket, .enqueue ticket] [] := by
  obtain ⟨hnumber, henqueue⟩ := unchanged_of_idle hidle ticket
  have habsent : client.submissions.find? ticket = none := by
    rw [hidle]
    rfl
  refine cons (congrArg Client.coder hnumber) (fun _ => rfl) ?_
  change Numbers (client.number ticket) _ _
  rw [hnumber]
  refine cons (congrArg (fun next => next.1.coder) henqueue) ?_ ?_
  · intro place
    unfold moves
    dsimp only
    rw [habsent]
    rfl
  · change Numbers (client.enqueue ticket).1 [] []
    rw [henqueue]
    exact .nil hidle

/-- A request that was just taken on gets the next number and is queued with it. -/
theorem of_submission {ticket : Ticket} {submission : Submission β}
    (hone : client.submissions = Registry.empty.insert ticket submission)
    (hunnumbered : submission.id = none) :
    Numbers client [.number ticket, .enqueue ticket]
      [⟨submission.link, submission.method, submission.params⟩] := by
  obtain ⟨link, method, params, waiter, id⟩ := submission
  dsimp only at hunnumbered
  subst hunnumbered
  let numbered : Client β η := { client with
    coder := client.coder.take.2
    submissions := client.submissions.insert ticket
      { link, method, params, waiter, id := some client.coder.peek } }
  have hnumber : client.number ticket = numbered := by
    unfold number
    rw [hone, Registry.find?_insert, if_pos rfl]
    dsimp only [numbered]
    rw [hone]
    rfl
  have hfound : numbered.submissions.find? ticket
      = some { link, method, params, waiter, id := some client.coder.peek } :=
    (Registry.find?_insert ..).trans (if_pos rfl)
  have hleft : numbered.submissions.erase ticket = .empty := by
    dsimp only [numbered]
    rw [hone, Registry.erase_insert, Registry.erase_insert,
      Registry.erase_of_find?_eq_none (Registry.find?_empty ticket)]
  have hafter : (client.run [.number ticket, .enqueue ticket]).1 = (numbered.enqueue ticket).1 :=
    congrArg (fun client : Client β η => (client.enqueue ticket).1) hnumber
  constructor
  · intro taken hnext
    rw [hafter, coder_enqueue]
    change (client.coder.next + 1) % 2 ^ 64 = (taken + 1) % 2 ^ 64
    rw [hnext, Nat.mod_add_mod]
  · intro taken hnext hfew place
    have hpeek : client.coder.peek = ⟨taken⟩ := client.peek_eq hnext hfew
    have hcourse : client.course place [.number ticket, .enqueue ticket]
        = numbered.moves place (.enqueue ticket) := by
      change [] ++ ((client.number ticket).moves place (.enqueue ticket) ++ []) = _
      rw [List.nil_append, List.append_nil, hnumber]
    rw [hcourse]
    unfold moves
    dsimp only
    rw [hfound]
    dsimp only
    rw [hpeek]
    unfold Accepted.issue?
    by_cases hhere : link = place
    · simp [hhere, issued, Connection.Step.issue?]
    · simp [hhere, issued]
  · rw [hafter]
    unfold enqueue
    rw [hfound]
    dsimp only
    rw [submissions_onLink]
    exact hleft

/-- A client that is not asked for a call, and is no turn, numbers and queues nothing. -/
theorem of_other (hidle : client.submissions = .empty) {action : Action β η}
    (halone : action.Alone) : Numbers client [action] [] := by
  have hunqueued : ∀ ticket, action ≠ .enqueue ticket := by
    rintro ticket rfl
    exact halone
  have hunturned : ∀ link turn, action ≠ .turn link turn := by
    rintro link turn rfl
    exact halone
  have hnothing (place : Nat) : issued (client.moves place action) = [] := by
    have hnone := client.given_moves_of_other place hunqueued hunturned
    rw [given_eq] at hnone
    exact List.map_eq_nil_iff.mp hnone
  obtain ⟨hcoder, hsubmissions⟩ : (client.step action).1.coder = client.coder ∧
      (client.step action).1.submissions = client.submissions := by
    have hstepped := client.stepped action
    generalize client.step action = next at hstepped ⊢
    cases hstepped with
    | opens previous hshaking => exact absurd rfl halone
    | resets old _ =>
        exact ⟨client.coder_shutDown (some old) .reset,
          client.submissions_shutDown (some old) .reset⟩
    | closes old _ =>
        exact ⟨client.coder_shutDown old .closed, client.submissions_shutDown old .closed⟩
    | calls | subscribes | parts | numbers | sends | turns => exact halone.elim
    | _ => exact ⟨rfl, rfl⟩
  exact cons hcoder hnothing (.nil (hsubmissions.trans hidle))

end Numbers

/-! ### Calls of the client itself -/

section CleanUp

variable {client : Client β η} {link : Nat}

theorem isSome_cleanUp? (client : Client β η) (link : Nat) (waiter : Waiter β)
    (outcome : Link.Outcome) :
    (client.cleanUp? link (.completed waiter outcome)).isSome
      = (client.answerOccurrence link waiter outcome).cleansUp := by
  cases waiter with
  | subscriber ticket unsubscribe event =>
      unfold cleanUp? answerOccurrence
      dsimp only
      cases outcome.bind subscriptionOf with
      | error error => rfl
      | ok id =>
          dsimp only
          split <;> rfl
  | _ => rfl

/-- What a client does about an effect of a connection is to queue its own call, if it makes one. -/
theorem issued_dismissal (client : Client β η) (link : Nat)
    (effect : Link.Effect (Waiter β) Ticket) :
    issued (client.dismissal effect) = (client.cleanUp? link effect).toList.map fun call =>
      (client.coder.peek, Coder.encode client.coder.peek call.method call.params) := by
  cases effect with
  | completed waiter outcome =>
      cases waiter with
      | subscriber ticket unsubscribe event =>
          unfold dismissal cleanUp?
          dsimp only
          cases outcome.bind subscriptionOf with
          | error error => rfl
          | ok id =>
              dsimp only
              split <;> rfl
      | _ => rfl
  | _ => rfl

theorem issued_dismissals (client : Client β η) (link : Nat)
    (effects : List (Link.Effect (Waiter β) Ticket)) :
    issued (effects.flatMap client.dismissal)
      = (effects.filterMap (client.cleanUp? link)).map fun call =>
          (client.coder.peek, Coder.encode client.coder.peek call.method call.params) := by
  induction effects with
  | nil => rfl
  | cons effect effects ih =>
      rw [List.flatMap_cons, issued_append, ih, issued_dismissal client link,
        Link.filterMap_cons_toList, List.map_append]

theorem cleanUp?_quiet (client : Client β η) (link : Nat)
    {effect : Link.Effect (Waiter β) Ticket} (hquiet : Connection.IsQuiet effect) :
    client.cleanUp? link effect = none := by
  cases effect with
  | completed waiter outcome =>
      obtain ⟨error, rfl⟩ := hquiet
      cases waiter <;> rfl
  | _ => rfl

theorem place_cleanUp {effect : Link.Effect (Waiter β) Ticket} {call : Accepted}
    (hown : client.cleanUp? link effect = some call) : call.place = link := by
  unfold cleanUp? at hown
  split at hown
  next =>
    split at hown
    next =>
      split at hown
      next => cases hown
      next =>
        cases hown
        rfl
    next => cases hown
  all_goals cases hown

/-- The calls that a client makes in a turn are for the connection whose turn it is. -/
theorem place_accepted_turn (client : Client β η) (link : Nat) (turn : Link.Turn) :
    ∀ call ∈ client.accepted (.turn link turn), call.place = link := by
  intro call hmem
  unfold accepted at hmem
  dsimp only at hmem
  split at hmem
  next =>
    obtain ⟨effect, -, hown⟩ := List.mem_filterMap.mp hmem
    exact place_cleanUp hown
  next => contradiction

/-- A client makes one call of its own in a turn if that leaves a subscription to nobody, and none
otherwise. -/
theorem length_accepted_turn (hkept : AllLinks Kept client) (link : Nat) (turn : Link.Turn) :
    (client.accepted (.turn link turn)).length
      = bif (client.occurrence (.turn link turn)).cleansUp then 1 else 0 := by
  unfold accepted
  dsimp only
  cases hfound : client.links[link]? with
  | none =>
      unfold occurrence
      dsimp only
      rw [hfound]
      rfl
  | some connection =>
      have hkept := hkept connection (List.mem_of_getElem? hfound)
      dsimp only
      by_cases hmessage : connection.ended = false ∧ ∃ bytes, turn = .message bytes
      · obtain ⟨hrunning, bytes, rfl⟩ := hmessage
        rw [occurrence_message hfound hrunning, hkept.orderly.turn_message hrunning]
        unfold messageOccurrence Connection.bearing
        cases Link.envelopeOf connection.assembly.limit bytes with
        | none => rfl
        | some envelope =>
            cases envelope with
            | response id reply =>
                dsimp only
                cases connection.pending.find? id with
                | none => rfl
                | some request =>
                    dsimp only
                    rw [← client.isSome_cleanUp? link, Link.filterMap_cons_toList]
                    cases client.cleanUp? link (.completed request.owner _) <;> rfl
            | notification method id raw =>
                dsimp only
                cases connection.subscriptions.find? id <;> rfl
      · have hquiet := (connection.message_or_quiet turn).resolve_left hmessage
        rw [not_cleansUp_without_message hfound hmessage, cond_false, List.length_eq_zero_iff,
          List.filterMap_eq_nil_iff]
        exact fun effect hmem => client.cleanUp?_quiet link (hquiet effect hmem)

theorem issued_moves_turn (client : Client β η) (link place : Nat) (turn : Link.Turn) :
    issued (client.moves place (.turn link turn)) =
      if link = place then
        (client.accepted (.turn link turn)).map fun call =>
          (client.coder.peek, Coder.encode client.coder.peek call.method call.params)
      else [] := by
  unfold moves accepted
  dsimp only
  by_cases hhere : link = place
  · subst hhere
    rw [if_pos rfl]
    cases client.links[link]? with
    | none => rfl
    | some connection =>
        dsimp only
        rw [if_pos rfl, ← issued_dismissals]
        rfl
  · rw [if_neg hhere]
    cases client.links[place]? with
    | none => rfl
    | some connection =>
        dsimp only
        rw [if_neg hhere]
        rfl

end CleanUp

namespace Numbers

variable {client : Client β η}

/-- A turn numbers and queues the call that the client makes in it, if it makes one. -/
theorem of_turn (hkept : AllLinks Kept client) (hidle : client.submissions = .empty) (link : Nat)
    (turn : Link.Turn) :
    Numbers client [.turn link turn] (client.accepted (.turn link turn)) := by
  have hunprompted : (Action.turn link turn : Action β η).Unprompted := trivial
  have hcoder := coder_unprompted hkept hunprompted
  have hcount := length_accepted_turn hkept link turn
  have hplaces := client.place_accepted_turn link turn
  have hqueued (place : Nat) := client.issued_moves_turn link place turn
  generalize client.accepted (.turn link turn) = calls at hcount hplaces hqueued ⊢
  constructor
  · intro taken hnext
    change (client.step (.turn link turn)).1.coder.next = _
    rw [hcoder, hcount]
    cases (client.occurrence (.turn link turn)).cleansUp with
    | false => exact hnext
    | true =>
        change (client.coder.next + 1) % 2 ^ 64 = (taken + 1) % 2 ^ 64
        rw [hnext, Nat.mod_add_mod]
  · intro taken hnext hfew place
    rw [course, issued_append, hqueued]
    change _ ++ [] = _
    rw [List.append_nil]
    -- There is one call at most, so that several calls of one number are of no concern.
    rcases calls with - | ⟨call, - | ⟨other, others⟩⟩
    · simp
    · have hhere := hplaces call (List.mem_singleton_self _)
      rw [client.peek_eq hnext hfew]
      unfold Accepted.issue?
      by_cases hsame : link = place
      · simp [hhere, hsame]
      · simp [hhere, hsame]
    · cases hcleans : (client.occurrence (.turn link turn)).cleansUp <;>
        simp [hcleans] at hcount
  · exact (client.submissions_onLink link (·.turn turn)).trans hidle

end Numbers

/-! ### Requests of callers -/

section Asks

variable {client : Client β η}

/-- What a client does when it is asked for a call: it leaves everything as it is, or it takes the
request on. -/
inductive Decides (client : Client β η) (operation : Operation β η) : Prop where
  | refuses (action : Action β η) (ticket : Ticket) (effects : List (Effect β η))
      (hactions : operation.actions = [action, .number ticket, .enqueue ticket])
      (hnone : client.accepted operation = []) (hunmoved : ∀ place, client.moves place action = [])
      (hsame : client.step action = (client, effects))
      (hunwritten : ∀ link frame, .wrote link frame ∉ effects)
  | accepts (action : Action β η) (ticket : Ticket) (farewells : Registry Ticket Farewell)
      (submission : Submission β)
      (hactions : operation.actions = [action, .number ticket, .enqueue ticket])
      (hone : client.accepted operation
        = [⟨submission.link, submission.method, submission.params⟩])
      (hunmoved : ∀ place, client.moves place action = []) (hunnumbered : submission.id = none)
      (htaken : client.step action = ({ client with farewells }.submit ticket submission, []))

/-- A client decides at once. -/
theorem decides (client : Client β η) {operation : Operation β η} (hasks : operation.Asks) :
    Decides client operation := by
  cases operation with
  | call ticket asked =>
      have hactions : (Operation.call ticket asked : Operation β η).actions
          = [.call ticket asked, .number ticket, .enqueue ticket] := rfl
      cases hcurrent : client.current? with
      | none =>
          have hrefused := (refuses_of_current? hcurrent ticket).1 asked
          refine .refuses _ ticket _ hactions ?_ (fun _ => rfl) hrefused (by simp)
          unfold accepted
          dsimp only
          rw [hcurrent]
          rfl
      | some link =>
          have htaken := call_of_current? hcurrent ticket asked
          refine .accepts _ ticket client.farewells _ hactions ?_ (fun _ => rfl) ?_ htaken
          · unfold accepted
            dsimp only
            rw [hcurrent]
            rfl
          · rfl
  | subscribe ticket asked =>
      have hactions : (Operation.subscribe ticket asked : Operation β η).actions
          = [.subscribe ticket asked, .number ticket, .enqueue ticket] := rfl
      cases hcurrent : client.current? with
      | none =>
          have hrefused := (refuses_of_current? hcurrent ticket).2 asked
          refine .refuses _ ticket _ hactions ?_ (fun _ => rfl) hrefused (by simp)
          unfold accepted
          dsimp only
          rw [hcurrent]
          rfl
      | some link =>
          have htaken := subscribe_of_current? hcurrent ticket asked
          refine .accepts _ ticket client.farewells _ hactions ?_ (fun _ => rfl) ?_ htaken
          · unfold accepted
            dsimp only
            rw [hcurrent]
            rfl
          · rfl
  | close ticket handle =>
      have hactions : (Operation.close ticket handle : Operation β η).actions
          = [.unsubscribe ticket handle, .number ticket, .enqueue ticket] := rfl
      cases hfound : client.handles.find? handle with
      | none =>
          have hrefused : client.unsubscribe ticket handle = (client, []) := by
            unfold Client.unsubscribe
            rw [hfound]
          refine .refuses _ ticket _ hactions ?_ (fun _ => rfl) hrefused (by simp)
          unfold accepted
          dsimp only
          rw [hfound]
          rfl
      | some held =>
          cases hactive : client.isActive held with
          | false =>
              have hrefused : client.unsubscribe ticket handle
                  = (client, [.unsubscribed ticket (.ok false)]) := by
                unfold Client.unsubscribe
                rw [hfound]
                exact if_neg (by simp [hactive])
              refine .refuses _ ticket _ hactions ?_ (fun _ => rfl) hrefused (by simp)
              unfold accepted
              dsimp only
              rw [hfound, Option.filter_some_neg (by simp [hactive])]
              rfl
          | true =>
              have htaken : client.unsubscribe ticket handle =
                  ({ client with
                      farewells := client.farewells.insert ticket
                        { link := held.link, id := held.id } }.submit ticket
                    { link := held.link, method := held.unsubscribe, params := [held.id.toJson]
                      waiter := .closer ticket }, []) := by
                unfold Client.unsubscribe
                rw [hfound]
                exact if_pos hactive
              refine .accepts _ ticket _ _ hactions ?_ (fun _ => rfl) ?_ htaken
              · unfold accepted
                dsimp only
                rw [hfound, Option.filter_some_pos hactive]
                rfl
              · rfl
  | turn link turn => exact hasks.elim
  | other action halone => exact hasks.elim

/-- What a client refuses leaves it as it is, and nothing is written. -/
theorem refused_operation (hidle : client.submissions = .empty) {operation : Operation β η}
    (hasks : operation.Asks) (hrefused : client.accepted operation = []) :
    ∃ effects, client.run operation.actions = (client, effects) ∧
      ∀ link frame, .wrote link frame ∉ effects := by
  cases client.decides hasks with
  | refuses action ticket effects hactions hnone hunmoved hsame hunwritten =>
      obtain ⟨hnumber, henqueue⟩ := unchanged_of_idle hidle ticket
      refine ⟨effects, ?_, hunwritten⟩
      rw [hactions, run_cons, hsame]
      dsimp only
      rw [run_cons]
      unfold Client.step
      dsimp only
      rw [hnumber, run_cons]
      unfold Client.step
      dsimp only
      rw [henqueue]
      exact Prod.ext rfl (List.append_nil _)
  | accepts action ticket farewells submission hactions hone =>
      rw [hone] at hrefused
      contradiction

end Asks

/-! ### Runs -/

namespace Numbers

variable {client : Client β η}

/-- Whatever is asked of a client that has no request on its way, the calls that it accepts get the
next numbers and are queued. -/
theorem of_asks (hidle : client.submissions = .empty) {operation : Operation β η}
    (hasks : operation.Asks) : Numbers client operation.actions (client.accepted operation) := by
  cases client.decides hasks with
  | refuses action ticket effects hactions hnone hunmoved hsame hunwritten =>
      rw [hactions, hnone]
      refine cons (by rw [hsame]) (fun place => congrArg issued (hunmoved place)) ?_
      rw [hsame]
      exact of_idle hidle ticket
  | accepts action ticket farewells submission hactions hone hunmoved hunnumbered htaken =>
      rw [hactions, hone]
      refine cons (by rw [htaken]; rfl) (fun place => congrArg issued (hunmoved place)) ?_
      rw [htaken]
      apply of_submission _ hunnumbered
      unfold submit
      dsimp only
      rw [hidle]

theorem of_operation (hkept : AllLinks Kept client) (hidle : client.submissions = .empty)
    (operation : Operation β η) :
    Numbers client operation.actions (client.accepted operation) := by
  cases operation with
  | call ticket asked => exact of_asks hidle trivial
  | subscribe ticket asked => exact of_asks hidle trivial
  | close ticket handle => exact of_asks hidle trivial
  | turn link turn => exact of_turn hkept hidle link turn
  | other action halone => exact of_other hidle halone

/-- So it is with any operations, one after the other. -/
theorem of_operations (hkept : AllLinks Kept client) (hidle : client.submissions = .empty)
    (operations : List (Operation β η)) :
    Numbers client (Operation.history operations) (client.calls operations) := by
  induction operations generalizing client with
  | nil => exact .nil hidle
  | cons operation operations ih =>
      have hfirst := of_operation hkept hidle operation
      exact hfirst.append (ih (kept_run hkept operation.actions) hfirst.idle)

end Numbers

end ChainRpc.Client
