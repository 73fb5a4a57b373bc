import ChainRpc.Proofs.Client.Tickets
import ChainRpc.Proofs.Link.Responses

/-!
# Correlation of responses

A response goes to the request whose id it carries, wherever it stands among the others. Each
call that waits on a connection gets the first outcome that carries its id, as its own type
decodes it; what else comes with the id changes nothing. So the order in which a node
answers different calls does not matter.
-/

namespace ChainRpc.Client

open Link (Connection Outcome Registry firstOutcome firstOutcome_cons_of_ne firstOutcome_cons_self
  firstOutcome_congr mentioned mentioned_congr responseOf)
open Rpc (RequestId ResultType)
open scoped List

variable {β η : Type}

/-! ### What callers learn -/

/-- What an effect tells the caller of an operation. -/
def Effect.resolution? (ticket : Ticket) : Effect β η → Option (Except Error β)
  | .resolved other result => if other = ticket then some result else none
  | .wrote _ _ | .subscribed _ _ | .unsubscribed _ _ | .event _ _ _ | .connected _ | .closed
  | .notified => none

/-- The results that the caller of an operation is told. -/
def resolutions (ticket : Ticket) (effects : List (Effect β η)) : List (Except Error β) :=
  effects.filterMap (Effect.resolution? ticket)

@[simp] theorem resolutions_nil (ticket : Ticket) :
    resolutions ticket ([] : List (Effect β η)) = [] := rfl

@[simp] theorem resolutions_append (ticket : Ticket) (first second : List (Effect β η)) :
    resolutions ticket (first ++ second)
      = resolutions ticket first ++ resolutions ticket second := List.filterMap_append

/-- Nobody but the caller of an operation is told its result. -/
theorem resolutions_resolved (ticket other : Ticket) (result : Except Error β) :
    resolutions other ([.resolved ticket result] : List (Effect β η))
      = if ticket = other then [result] else [] := by
  unfold resolutions Effect.resolution?
  split <;> simp_all

/-- A reaction resolves the operation that it answers, as long as its caller wants to know, and
no other. -/
theorem resolutions_react (client : Client β η) (link : Nat)
    (effect : Link.Effect (Waiter β) Ticket) (ticket : Ticket)
    (hother : answers? effect ≠ some ticket ∨ ticket ∉ client.awaited) :
    resolutions ticket (client.react link effect).2 = [] := by
  have hsilent {own : Ticket} (hanswers : answers? effect = some own)
      (hwanted : own ∈ client.awaited) (result : Except Error β) :
      resolutions ticket ([.resolved own result] : List (Effect β η)) = [] := by
    rw [resolutions_resolved, if_neg]
    rintro rfl
    exact hother.elim (fun hdifferent => hdifferent hanswers) (fun hunwanted => hunwanted hwanted)
  have hreacts := client.reacts link effect
  generalize client.react link effect = next at hreacts ⊢
  cases hreacts with
  | resolves own result outcome hwanted
  | refuses own unsubscribe event outcome error hunnamed hwanted => exact hsilent rfl hwanted _
  | delivers listener method raw =>
      unfold deliver
      split
      next => split <;> rfl
      next => rfl
  | _ => rfl

/-- Whoever does not wait is not told, and does not start to wait. -/
theorem reactAll_unawaited {client : Client β η} {ticket : Ticket}
    (hunawaited : ticket ∉ client.awaited) (link : Nat)
    (effects : List (Link.Effect (Waiter β) Ticket)) :
    resolutions ticket (client.reactAll link effects).2 = [] ∧
      ticket ∉ (client.reactAll link effects).1.awaited := by
  induction effects generalizing client with
  | nil => exact ⟨rfl, hunawaited⟩
  | cons effect effects ih =>
      have hstill : ticket ∉ (client.react link effect).1.awaited := fun hmem =>
        hunawaited ((client.react_reacted link effect).fewer ticket hmem)
      obtain ⟨hsilent, hlater⟩ := ih hstill
      refine ⟨?_, hlater⟩
      unfold reactAll
      dsimp only
      rw [resolutions_append, client.resolutions_react link effect ticket (.inr hunawaited),
        hsilent]
      rfl

/-- The client with another connection at a place. -/
def relink (client : Client β η) (link : Nat) (connection : Connection (Waiter β) Ticket) :
    Client β η := { client with links := client.links.set link connection }

theorem turn_unawaited {client : Client β η} {ticket : Ticket}
    (hunawaited : ticket ∉ client.awaited) (link : Nat) (turn : Link.Turn) :
    resolutions ticket (client.turn link turn).2 = [] ∧
      ticket ∉ (client.turn link turn).1.awaited := by
  unfold Client.turn onLink
  split
  next connection _ =>
    have hmoved : ticket ∉ (client.relink link (connection.turn turn).1).awaited := hunawaited
    exact reactAll_unawaited hmoved link _
  next => exact ⟨rfl, hunawaited⟩

/-! ### Messages in their order -/

/-- The arrival of messages on a connection. -/
def arrivals (link : Nat) (messages : List (List UInt8)) : List (Action β η) :=
  messages.map fun bytes => .turn link (.message bytes)

theorem run_arrivals_cons (client : Client β η) (link : Nat) (bytes : List UInt8)
    (messages : List (List UInt8)) :
    client.run (arrivals link (bytes :: messages)) =
      (((client.turn link (.message bytes)).1.run (arrivals link messages)).1,
        (client.turn link (.message bytes)).2
          ++ ((client.turn link (.message bytes)).1.run (arrivals link messages)).2) := rfl

theorem run_arrivals_unawaited {client : Client β η} {ticket : Ticket}
    (hunawaited : ticket ∉ client.awaited) (link : Nat) (messages : List (List UInt8)) :
    resolutions ticket (client.run (arrivals link messages)).2 = [] := by
  induction messages generalizing client with
  | nil => rfl
  | cons bytes messages ih =>
      obtain ⟨hsilent, hstill⟩ := turn_unawaited hunawaited link (.message bytes)
      rw [run_arrivals_cons, resolutions_append, hsilent, ih hstill]
      rfl

/-- A connection of a client, and what the client keeps to at any time. -/
structure Serves (client : Client β η) (link : Nat)
    (connection : Connection (Waiter β) Ticket) : Prop where
  found : client.links[link]? = some connection
  orderly : connection.Orderly
  distinct : (waitingTickets connection).Nodup

namespace Serves

variable {client : Client β η} {link : Nat} {connection : Connection (Waiter β) Ticket}

/-- What leaves the connection as it was is a matter of its effects alone. -/
theorem turn_of_same (hserves : Serves client link connection) {turn : Link.Turn}
    {effects : List (Link.Effect (Waiter β) Ticket)}
    (hsame : connection.turn turn = (connection, effects)) :
    client.turn link turn = client.reactAll link effects := by
  obtain ⟨hinside, hfound⟩ := List.getElem?_eq_some_iff.mp hserves.found
  have hkept : client.links.set link connection = client.links := by
    rw [← hfound, List.set_getElem_self]
  unfold Client.turn onLink
  rw [hserves.found]
  dsimp only
  rw [hsame]
  dsimp only
  rw [hkept]

/-- A response whose id does not wait changes nothing at all. -/
theorem turn_stranger (hserves : Serves client link connection) {bytes : List UInt8}
    {id : RequestId} {outcome : Outcome}
    (hresponse : responseOf connection.assembly.limit bytes = some (id, outcome))
    (habsent : connection.pending.find? id = none) :
    client.turn link (.message bytes) = (client, []) := by
  have hsame : connection.turn (.message bytes) = (connection, []) := by
    by_cases hended : connection.ended = true
    · unfold Connection.turn
      rw [if_pos hended]
    · rw [hserves.orderly.turn_response (by simpa using hended) hresponse]
      exact Connection.complete_of_absent habsent outcome
  exact hserves.turn_of_same hsame

/-- A message that is not a response changes nothing and resolves nothing. -/
theorem turn_other (hserves : Serves client link connection) {bytes : List UInt8}
    (hother : responseOf connection.assembly.limit bytes = none) :
    (client.turn link (.message bytes)).1 = client ∧
      ∀ ticket, resolutions ticket (client.turn link (.message bytes)).2 = [] := by
  obtain ⟨effects, hsame, hdelivered⟩ := hserves.orderly.turn_other hother
  rw [hserves.turn_of_same hsame]
  clear hsame
  induction effects with
  | nil => exact ⟨rfl, fun _ => rfl⟩
  | cons effect effects ih =>
      obtain ⟨listener, method, raw, rfl⟩ := hdelivered effect List.mem_cons_self
      obtain ⟨hsame, hsilent⟩ :=
        ih fun effect hmem => hdelivered effect (List.mem_cons_of_mem _ hmem)
      refine ⟨hsame, fun ticket => ?_⟩
      have hfirst := client.resolutions_react link (.delivered listener method raw) ticket
        (.inl (by simp [answers?, Link.Effect.told?]))
      unfold reactAll
      dsimp only
      rw [resolutions_append, hfirst]
      exact hsilent ticket

/-- A reaction leaves what waits on the connection alone. -/
theorem react (hserves : Serves client link connection)
    (effect : Link.Effect (Waiter β) Ticket) :
    ∃ after, Serves (client.react link effect).1 link after ∧
      after.pending = connection.pending ∧ after.assembly = connection.assembly := by
  obtain ⟨hlinks | ⟨id, number, payload, method, hlinks⟩, -, -, -⟩ :=
    client.react_reacted link effect
  · refine ⟨connection, ⟨?_, hserves.orderly, hserves.distinct⟩, rfl, rfl⟩
    rw [hlinks]
    exact hserves.found
  · obtain ⟨queue, hframe⟩ : ∃ queue, dismiss id number payload method connection
        = { connection with queue, subscriptions := connection.subscriptions.erase id } := by
      unfold dismiss Connection.send
      split
      next => exact ⟨connection.queue, rfl⟩
      next => exact ⟨_, rfl⟩
    have horderly : (dismiss id number payload method connection).Orderly :=
      (hserves.orderly.step (.unregister id)).step
        (.send number payload (Waiter.nobody.request method))
    rw [hframe] at horderly
    refine ⟨_, ⟨?_, horderly, hserves.distinct⟩, rfl, rfl⟩
    rw [hlinks, List.getElem?_modify_eq, hserves.found, Option.map_eq_map, Option.map_some, hframe]

/-- Two requests that wait under different ids belong to different operations. -/
theorem tickets_ne (hserves : Serves client link connection) {id other : RequestId}
    {request second : Link.Request (Waiter β) Ticket} {ticket : Ticket}
    (hfound : connection.pending.find? id = some request)
    (hfoundSecond : connection.pending.find? other = some second) (hdifferent : other ≠ id)
    (hown : second.owner.ticket? = some ticket) : request.owner.ticket? ≠ some ticket := by
  intro hsame
  have hremains : (connection.pending.erase id).find? other = some second := by
    rw [Registry.find?_erase, if_neg hdifferent, hfoundSecond]
  have hmoved := (Registry.perm_values_erase hfound).trans
    ((Registry.perm_values_erase hremains).cons request)
  have hnodup := ((hmoved.map Link.Request.owner).filterMap Waiter.ticket?).nodup_iff.mp
    hserves.distinct
  simp [hsame, hown] at hnodup

/-- The response to a request that waits is a reaction to its outcome. -/
theorem turn_found (hserves : Serves client link connection) {bytes : List UInt8}
    {id : RequestId} {outcome : Outcome} {request : Link.Request (Waiter β) Ticket}
    (hresponse : responseOf connection.assembly.limit bytes = some (id, outcome))
    (hfound : connection.pending.find? id = some request) :
    client.turn link (.message bytes) =
      (client.relink link (connection.answered id request outcome)).react link
        (.completed request.owner outcome) := by
  have hturned := hserves.orderly.turn_found hresponse hfound
  unfold Client.turn onLink
  rw [hserves.found]
  dsimp only
  rw [hturned]
  exact Prod.ext rfl (List.append_nil _)

theorem relink_answered (hserves : Serves client link connection) {bytes : List UInt8}
    {id : RequestId} {outcome : Outcome} {request : Link.Request (Waiter β) Ticket}
    (hresponse : responseOf connection.assembly.limit bytes = some (id, outcome))
    (hfound : connection.pending.find? id = some request) :
    Serves (client.relink link (connection.answered id request outcome)) link
      (connection.answered id request outcome) := by
  refine ⟨?_, ?_, ?_⟩
  · have hinside := (List.getElem?_eq_some_iff.mp hserves.found).1
    exact List.getElem?_set_self hinside
  · have horderly := hserves.orderly.turn (.message bytes)
    rw [hserves.orderly.turn_found hresponse hfound] at horderly
    exact horderly
  · have hkept := (connection.pending.values_erase_sublist id).map Link.Request.owner
    exact hserves.distinct.sublist (hkept.filterMap _)

/-- The response to a request that waits takes it out of the registry, and tells its caller and
no other. -/
theorem turn_known (hserves : Serves client link connection) {bytes : List UInt8}
    {id : RequestId} {outcome : Outcome} {request : Link.Request (Waiter β) Ticket}
    (hresponse : responseOf connection.assembly.limit bytes = some (id, outcome))
    (hfound : connection.pending.find? id = some request) :
    ∃ after, Serves (client.turn link (.message bytes)).1 link after ∧
      after.pending = connection.pending.erase id ∧ after.assembly = connection.assembly ∧
      (∀ ticket, request.owner.ticket? ≠ some ticket →
        resolutions ticket (client.turn link (.message bytes)).2 = [] ∧
          (ticket ∈ (client.turn link (.message bytes)).1.awaited ↔ ticket ∈ client.awaited)) ∧
      ∀ ticket result, request.owner = .call ticket result →
        resolutions ticket (client.turn link (.message bytes)).2
            = (if ticket ∈ client.awaited then [outcome.bind result.decode] else []) ∧
          ticket ∉ (client.turn link (.message bytes)).1.awaited := by
  obtain ⟨after, hserving, hpending, hassembly⟩ :=
    (hserves.relink_answered hresponse hfound).react (.completed request.owner outcome)
  rw [hserves.turn_found hresponse hfound]
  refine ⟨after, hserving, hpending, hassembly, ?_, ?_⟩
  · intro ticket hdifferent
    have hreacted := (client.relink link (connection.answered id request outcome)).react_reacted
      link (.completed request.owner outcome)
    refine ⟨resolutions_react _ link _ ticket (.inl hdifferent), ?_, ?_⟩
    · intro hmem
      exact hreacted.fewer ticket hmem
    · intro hmem
      exact hreacted.others ticket hmem hdifferent
  · intro ticket result howner
    rw [howner]
    refine ⟨?_, ?_⟩
    · unfold Client.react
      dsimp only
      by_cases hwanted : ticket ∈ client.awaited
      · rw [tell_of_wanted (by exact hwanted), resolutions_resolved, if_pos rfl, if_pos hwanted]
      · rw [tell_of_unwanted (by exact hwanted), if_neg hwanted]
        rfl
    · change ticket ∉ (tell _ ticket _).1.awaited
      rw [tell_fst]
      simp [forget]

/-- The outcome of a run of messages: what waits after it, and what callers were told. -/
theorem run_arrivals (hserves : Serves client link connection) (messages : List (List UInt8)) :
    ∃ final, Serves (client.run (arrivals link messages)).1 link final ∧
      final.assembly = connection.assembly ∧
      (∀ id, final.pending.find? id =
        if id ∈ mentioned (messages.filterMap (responseOf connection.assembly.limit)) then none
        else connection.pending.find? id) ∧
      ∀ id request ticket result, connection.pending.find? id = some request →
        request.owner = .call ticket result →
        resolutions ticket (client.run (arrivals link messages)).2 =
          if ticket ∈ client.awaited then
            ((firstOutcome id (messages.filterMap (responseOf connection.assembly.limit))).map
              (·.bind result.decode)).toList
          else [] := by
  -- Every message may change the client and the connection; the ids that wait get fewer.
  induction messages generalizing client connection with
  | nil =>
      refine ⟨connection, hserves, rfl, fun id => rfl, ?_⟩
      intro id request ticket result _ _
      split <;> rfl
  | cons bytes messages ih =>
      rw [run_arrivals_cons]
      dsimp only
      cases hresponse : responseOf connection.assembly.limit bytes with
      | none =>
          obtain ⟨hsame, hsilent⟩ := hserves.turn_other hresponse
          rw [hsame, List.filterMap_cons_none hresponse]
          obtain ⟨final, hserving, hassembly, hpending, htold⟩ := ih hserves
          refine ⟨final, hserving, hassembly, hpending, ?_⟩
          intro id request ticket result hfound howner
          rw [resolutions_append, hsilent ticket, List.nil_append]
          exact htold id request ticket result hfound howner
      | some carried =>
          obtain ⟨named, outcome⟩ := carried
          rw [List.filterMap_cons_some hresponse]
          cases hknown : connection.pending.find? named with
          | none =>
              rw [hserves.turn_stranger hresponse hknown]
              obtain ⟨final, hserving, hassembly, hpending, htold⟩ := ih hserves
              refine ⟨final, hserving, hassembly, ?_, ?_⟩
              · intro id
                rw [hpending id]
                by_cases hsame : id = named
                · subst hsame
                  simp [hknown]
                · simp [hsame]
              · intro id request ticket result hfound howner
                have hdifferent : named ≠ id := by
                  rintro rfl
                  rw [hknown] at hfound
                  contradiction
                rw [List.nil_append, firstOutcome_cons_of_ne hdifferent]
                exact htold id request ticket result hfound howner
          | some answered =>
              obtain ⟨after, hserving, herased, hassembly, hothers, hown⟩ :=
                hserves.turn_known hresponse hknown
              obtain ⟨final, hready, hsame, hpending, htold⟩ := ih hserving
              rw [hassembly] at hsame hpending htold
              rw [herased] at hpending htold
              refine ⟨final, hready, hsame, ?_, ?_⟩
              · intro id
                rw [hpending id, Registry.find?_erase]
                by_cases hsame : id = named
                · simp [hsame]
                · simp [hsame]
              · intro id request ticket result hfound howner
                rw [resolutions_append]
                by_cases hsame : id = named
                · -- The call is answered now, and deaf to what comes later.
                  subst hsame
                  rw [hknown, Option.some.injEq] at hfound
                  subst hfound
                  obtain ⟨hnow, hunawaited⟩ := hown ticket result howner
                  rw [hnow, run_arrivals_unawaited hunawaited, List.append_nil,
                    firstOutcome_cons_self]
                  rfl
                · have hdifferent := hserves.tickets_ne hknown hfound hsame (by rw [howner]; rfl)
                  obtain ⟨hsilent, hawaited⟩ := hothers ticket hdifferent
                  have hremains : (connection.pending.erase named).find? id = some request := by
                    rw [Registry.find?_erase, if_neg hsame, hfound]
                  rw [hsilent, List.nil_append, htold id request ticket result hremains howner,
                    firstOutcome_cons_of_ne (Ne.symm hsame)]
                  simp only [hawaited]

end Serves

/-- The connections of a client, at any time, when every operation has a ticket of its own. -/
theorem serves_of_found (address : Address) (options : Options) {history : List (Action β η)}
    (hdistinct : (tickets history).Nodup) {link : Nat}
    {connection : Connection (Waiter β) Ticket}
    (hfound : ((fresh address options : Client β η).run history).1.links[link]? = some connection) :
    Serves ((fresh address options : Client β η).run history).1 link connection where
  found := hfound
  orderly := orderly_links address options history connection (List.mem_of_getElem? hfound)
  distinct := waitingTickets_nodup address options hdistinct (List.mem_of_getElem? hfound)

/-- Responses are correlated by id. Take any connection of a client after any history, in which
every operation has a ticket of its own, and let any messages come in:

* each call that waits is told the first outcome that carries its id, as its own type decodes
  it, and nothing else; without such a response, or when its caller stopped waiting, it is told
  nothing;
* the requests left waiting are those whose id no response mentioned;
* a further response to an id that was mentioned, or that did not wait, changes nothing;
* messages whose responses to each id come in the same order, however they are mixed, tell every
  call the same and leave the same requests waiting. -/
theorem responses_resolve_by_id (address : Address) (options : Options)
    (history : List (Action β η)) (hdistinct : (tickets history).Nodup) (link : Nat)
    (connection : Connection (Waiter β) Ticket)
    (hfound : ((fresh address options : Client β η).run history).1.links[link]? = some connection)
    (messages : List (List UInt8)) :
    let client := ((fresh address options : Client β η).run history).1
    let limit := connection.assembly.limit
    let responses := messages.filterMap (responseOf limit)
    let after := client.run (arrivals link messages)
    ∃ final, after.1.links[link]? = some final ∧
      (∀ id request ticket result, connection.pending.find? id = some request →
        request.owner = .call ticket result →
        resolutions ticket after.2 =
          if ticket ∈ client.awaited then
            ((firstOutcome id responses).map (·.bind result.decode)).toList
          else []) ∧
      (∀ id, final.pending.find? id =
        if id ∈ mentioned responses then none else connection.pending.find? id) ∧
      (∀ bytes id outcome, responseOf limit bytes = some (id, outcome) →
        id ∈ mentioned responses ∨ connection.pending.find? id = none →
        after.1.turn link (.message bytes) = (after.1, [])) ∧
      ∀ mixed : List (List UInt8),
        (∀ id, (mixed.filterMap (responseOf limit)).filter (fun response => response.1 = id)
          = responses.filter fun response => response.1 = id) →
        ∃ last, (client.run (arrivals link mixed)).1.links[link]? = some last ∧
          (∀ id, last.pending.find? id = final.pending.find? id) ∧
          ∀ id request ticket result, connection.pending.find? id = some request →
            request.owner = .call ticket result →
            resolutions ticket (client.run (arrivals link mixed)).2
              = resolutions ticket after.2 := by
  intro client limit responses after
  have hserves : Serves client link connection := serves_of_found address options hdistinct hfound
  obtain ⟨final, hserving, hassembly, hpending, htold⟩ := hserves.run_arrivals messages
  refine ⟨final, hserving.found, htold, hpending, ?_, ?_⟩
  · intro bytes id outcome hresponse hstale
    refine hserving.turn_stranger (by rw [hassembly]; exact hresponse) ?_
    rw [hpending id]
    rcases hstale with hold | hunknown
    · exact if_pos hold
    · rw [hunknown]
      exact ite_self _
  · intro mixed hsame
    obtain ⟨last, halso, -, hpendingAlso, htoldAlso⟩ := hserves.run_arrivals mixed
    refine ⟨last, halso.found, ?_, ?_⟩
    · intro id
      rw [hpending id, hpendingAlso id]
      exact if_congr (mentioned_congr (hsame id)) rfl rfl
    · intro id request ticket result hwaits howner
      rw [htold id request ticket result hwaits howner,
        htoldAlso id request ticket result hwaits howner, firstOutcome_congr (hsame id)]

/-- An address of a node. -/
def sampleAddress : Address := { scheme := "ws", host := .domain "node", path := [""] }

/-- A call whose result is its text. -/
def sampleCall : Rpc.Call String := { method := "m", result := .custom "text" .ok }

/-- Two calls that wait on the first connection. -/
def sampleHistory : List (Action String Unit) :=
  [.beginConnect, .endConnect .accepted, .call 0 sampleCall, .call 1 sampleCall, .number 0,
   .number 1, .enqueue 1, .enqueue 0, .turn 0 (.command none), .turn 0 (.command none)]

/-- The second call is answered before the first one, and once more; nobody asked with id 9. -/
def sampleMessages : List (List UInt8) :=
  ["\x7b\"id\":1,\"result\":6\x7d", "\x7b\"id\":1,\"result\":7\x7d",
   "\x7b\"id\":9,\"result\":8\x7d", "\x7b\"id\":0,\"result\":5\x7d"].map Text.Utf8.encode

/-- Each of the two calls gets its own answer, and another answer changes nothing. -/
theorem sampleMessages_resolve_by_id :
    let client := ((fresh sampleAddress {} : Client String Unit).run sampleHistory).1
    let after := client.run (arrivals 0 sampleMessages)
    resolutions 0 after.2 = [.ok "5"] ∧ resolutions 1 after.2 = [.ok "6"] ∧
      after.1.turn 0 (.message (Text.Utf8.encode "\x7b\"id\":0,\"result\":4\x7d"))
        = (after.1, []) := by
  obtain ⟨final, -, htold, -, hstale, -⟩ :=
    responses_resolve_by_id sampleAddress {} sampleHistory (by decide) 0 _ rfl sampleMessages
  have hfirst : firstOutcome ⟨0⟩ (sampleMessages.filterMap (responseOf (64 * 2 ^ 20)))
      = some (.ok "5") := by decide +kernel
  have hsecond : firstOutcome ⟨1⟩ (sampleMessages.filterMap (responseOf (64 * 2 ^ 20)))
      = some (.ok "6") := by decide +kernel
  refine ⟨?_, ?_, ?_⟩
  · refine (htold ⟨0⟩ _ 0 _ rfl rfl).trans ?_
    rw [if_pos (by decide)]
    change ((firstOutcome ⟨0⟩ (sampleMessages.filterMap (responseOf (64 * 2 ^ 20)))).map _).toList
      = _
    rw [hfirst]
    rfl
  · refine (htold ⟨1⟩ _ 1 _ rfl rfl).trans ?_
    rw [if_pos (by decide)]
    change ((firstOutcome ⟨1⟩ (sampleMessages.filterMap (responseOf (64 * 2 ^ 20)))).map _).toList
      = _
    rw [hsecond]
    rfl
  · have hagain : responseOf (64 * 2 ^ 20)
        (Text.Utf8.encode "\x7b\"id\":0,\"result\":4\x7d") = some (⟨0⟩, .ok "4") := by
      decide +kernel
    have hnamed : (⟨0⟩ : RequestId)
        ∈ mentioned (sampleMessages.filterMap (responseOf (64 * 2 ^ 20))) := by decide +kernel
    exact hstale _ ⟨0⟩ (.ok "4") hagain (.inl hnamed)

end ChainRpc.Client
