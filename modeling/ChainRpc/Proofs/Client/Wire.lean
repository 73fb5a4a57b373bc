import ChainRpc.Proofs.Client.Namesakes
import ChainRpc.Proofs.Client.Operations

/-!
# What a client writes

What a client writes on a connection is what the connection writes in its course. The calls that a
client accepts in an epoch are numbered from zero, and each is queued with its number. So their
texts, and no others, go on the wire, in the order in which the calls were accepted.
-/

namespace ChainRpc.Client

open Link (Connection Frame frames frames_append texts)
open Link.Connection (issued)
open Rpc (Coder)

variable {β η : Type}

/-! ### Frames -/

/-- The frame that an effect writes on a connection. -/
def Effect.frameOn? (place : Nat) : Effect β η → Option Frame
  | .wrote link frame => if link = place then some frame else none
  | .resolved _ _ | .subscribed _ _ | .unsubscribed _ _ | .event _ _ _ | .connected _ | .closed
  | .notified => none

/-- The frames that are written on a connection, in their order. -/
def framesOn (place : Nat) (effects : List (Effect β η)) : List Frame :=
  effects.filterMap (Effect.frameOn? place)

@[simp] theorem framesOn_append (place : Nat) (first second : List (Effect β η)) :
    framesOn place (first ++ second) = framesOn place first ++ framesOn place second :=
  List.filterMap_append

theorem framesOn_react (client : Client β η) (link place : Nat)
    (effect : Link.Effect (Waiter β) Ticket) :
    framesOn place (client.react link effect).2 = if link = place then frames [effect] else [] := by
  have hreacts := client.reacts link effect
  generalize client.react link effect = next at hreacts ⊢
  cases hreacts with
  | writes frame =>
      unfold framesOn Effect.frameOn?
      by_cases hhere : link = place
      · simp [hhere, frames, Link.Effect.frame?]
      · simp [hhere]
  | delivers listener method raw =>
      rcases client.deliver_le_one listener method raw with hnone | ⟨handler, value, hone⟩
      · rw [hnone]
        exact (ite_self _).symm
      · rw [hone]
        exact (ite_self _).symm
  | _ => exact (ite_self _).symm

theorem framesOn_reactAll (client : Client β η) (link place : Nat)
    (effects : List (Link.Effect (Waiter β) Ticket)) :
    framesOn place (client.reactAll link effects).2
      = if link = place then frames effects else [] := by
  induction effects generalizing client with
  | nil => exact (ite_self _).symm
  | cons effect effects ih =>
      rw [reactAll_cons, framesOn_append, framesOn_react, ih]
      split
      next => exact (frames_append [effect] effects).symm
      next => rfl

/-- Without a turn of a loop nothing is written. -/
theorem framesOn_step_of_still (client : Client β η) (place : Nat) {action : Action β η}
    (hstill : ∀ link turn, action ≠ .turn link turn) :
    framesOn place (client.step action).2 = [] := by
  have hstepped := client.stepped action
  generalize client.step action = next at hstepped ⊢
  cases hstepped with
  | turns link turn => exact absurd rfl (hstill link turn)
  | sends ticket submission id hfound hnumbered =>
      unfold onLink
      split
      next connection _ =>
        dsimp only
        rw [framesOn_reactAll, connection.frames_send]
        exact ite_self _
      next => rfl
  | opens previous hshaking => split <;> rfl
  | leaves old hleaving hended => split <;> rfl
  | _ => rfl

section Course

variable {client : Client β η} {place : Nat} {connection : Connection (Waiter β) Ticket}

/-- What a client writes on a connection in an action is what the connection writes in its steps. -/
theorem framesOn_step (hfound : client.links[place]? = some connection) (action : Action β η) :
    framesOn place (client.step action).2
      = frames (connection.run (client.moves place action)).2 := by
  by_cases hturned : ∃ link turn, action = .turn link turn
  · obtain ⟨link, turn, rfl⟩ := hturned
    change framesOn place (client.turn link turn).2 = _
    unfold moves
    rw [hfound]
    dsimp only
    by_cases hhere : link = place
    · subst hhere
      have hstill : ∀ again, .turn again ∉ (connection.turn turn).2.flatMap client.dismissal := by
        intro again hmem
        obtain ⟨effect, -, hmem⟩ := List.mem_flatMap.mp hmem
        obtain ⟨id, hsame⟩ | ⟨id, payload, method, hsame⟩ := mem_dismissal hmem <;> cases hsame
      rw [if_pos rfl]
      unfold Client.turn onLink
      rw [hfound]
      dsimp only
      rw [framesOn_reactAll, if_pos rfl]
      change _ = frames ((connection.turn turn).2 ++ ((connection.turn turn).1.run _).2)
      rw [frames_append, Connection.frames_of_still _ hstill, List.append_nil]
    · rw [if_neg hhere]
      unfold Client.turn onLink
      split
      next other _ =>
        dsimp only
        rw [framesOn_reactAll, if_neg hhere]
        rfl
      next => rfl
  · have hstill : ∀ link turn, action ≠ .turn link turn :=
      fun link turn hsame => hturned ⟨link, turn, hsame⟩
    rw [client.framesOn_step_of_still place hstill, Connection.frames_of_still]
    intro turn hmem
    cases cause_of_mem_moves hmem with
    | turn => exact hstill place turn rfl

theorem framesOn_run (hkept : AllLinks Kept client)
    (hfound : client.links[place]? = some connection) (history : List (Action β η)) :
    framesOn place (client.run history).2
      = frames (connection.run (client.course place history)).2 := by
  induction history generalizing client connection with
  | nil => rfl
  | cons action history ih =>
      rw [run_cons, framesOn_append, framesOn_step hfound action,
        ih (kept_step hkept action) (links_step hkept hfound action), course,
        Connection.run_append, frames_append]

/-- A connection whose loop has ended writes nothing any more. -/
theorem framesOn_of_ended (hkept : AllLinks Kept client)
    (hfound : client.links[place]? = some connection) (hended : connection.ended = true)
    (history : List (Action β η)) : framesOn place (client.run history).2 = [] := by
  rw [framesOn_run hkept hfound]
  exact connection.frames_of_ended hended _

/-- With the command to close, a loop writes a close frame at most, and nothing later. -/
theorem framesOn_of_shutdown (hkept : AllLinks Kept client)
    (hfound : client.links[place]? = some connection) (hrunning : connection.ended = false)
    {reason : Link.CloseReason} {queue : List (Link.Command (Waiter β) Ticket)}
    (hnext : connection.queue = .shutdown reason :: queue) (failure : Option TransportFault)
    (later : List (Action β η)) :
    framesOn place (client.run (.turn place (.command failure) :: later)).2
      = if failure = none then [.close (some Frame.normalClosure)] else [] := by
  obtain ⟨hended, hwritten⟩ := connection.turn_shutdown hrunning hnext failure
  have hafter := links_step hkept hfound (.turn place (.command failure))
  have hfirst : client.moves place (.turn place (.command failure)) =
      .turn (.command failure) :: (connection.turn (.command failure)).2.flatMap
        client.dismissal := by
    unfold moves
    rw [hfound]
    exact if_pos rfl
  rw [hfirst] at hafter
  have hstopped : (connection.run (.turn (.command failure) ::
      (connection.turn (.command failure)).2.flatMap client.dismissal)).1.ended = true :=
    Connection.run_ended hended _
  rw [run_cons, framesOn_append,
    framesOn_of_ended (kept_step hkept _) hafter hstopped later, List.append_nil, ← hwritten]
  change framesOn place (client.turn place (.command failure)).2 = _
  unfold Client.turn onLink
  rw [hfound]
  dsimp only
  rw [framesOn_reactAll, if_pos rfl]

end Course

/-! ### One connection -/

/-- The operation opens no connection. -/
theorem opens_nothing {operation : Operation β η} {action : Action β η}
    (hmem : action ∈ operation.actions) : action ≠ .endConnect .accepted := by
  rintro rfl
  cases operation with
  | other action halone =>
      obtain rfl := List.mem_singleton.mp hmem
      exact halone rfl
  | turn link turn => cases List.mem_singleton.mp hmem
  | _ => simp [Operation.actions, Action.wholeCall, Action.wholeSubscribe,
      Action.wholeUnsubscribe] at hmem

theorem length_step (client : Client β η) {action : Action β η}
    (hopens : action ≠ .endConnect .accepted) :
    (client.step action).1.links.length = client.links.length := by
  by_cases hchange : action.IsChange
  · have hstepped := client.stepped action
    generalize client.step action = next at hstepped ⊢
    cases hstepped with
    | opens previous hshaking => exact absurd rfl hopens
    | resets old _ => exact client.length_shutDown (some old) .reset
    | closes old _ => exact client.length_shutDown old .closed
    | sends | retires | turns => exact hchange.elim
    | _ => rfl
  · exact (client.sameLinks_step action hchange).count

/-- Every other connection than that of the place has ended. -/
def Lone (client : Client β η) (place : Nat) : Prop :=
  ∀ other, other ≠ place → client.hasEnded other = true

theorem Lone.run {client : Client β η} {place : Nat} (hlone : client.Lone place)
    (hkept : AllLinks Kept client) {history : List (Action β η)}
    (hopens : ∀ action ∈ history, action ≠ .endConnect .accepted) :
    (client.run history).1.Lone place := by
  induction history generalizing client with
  | nil => exact hlone
  | cons action history ih =>
      have hcount := client.length_step (hopens action List.mem_cons_self)
      refine ih ?_ (kept_step hkept action) fun other hmem =>
        hopens other (List.mem_cons_of_mem _ hmem)
      intro other hdifferent
      exact hasEnded_of_count hkept hcount other (hlone other hdifferent)

/-- A call is accepted for a connection whose loop runs. -/
theorem running_of_accepted {client : Client β η} (hkept : AllLinks Kept client)
    {operation : Operation β η} {call : Accepted} (hmem : call ∈ client.accepted operation) :
    client.hasEnded call.place = false := by
  have hcurrent {link : Nat} (hcurrent : client.current? = some link) :
      client.hasEnded link = false := by
    unfold current? at hcurrent
    split at hcurrent
    next =>
      have hrunning := (Option.filter_eq_some_iff.mp hcurrent).2
      simpa using hrunning
    next => contradiction
  unfold accepted at hmem
  cases operation with
  | call ticket asked =>
      obtain ⟨link, hinUse, rfl⟩ := List.mem_map.mp hmem
      exact hcurrent (Option.mem_toList.mp hinUse)
  | subscribe ticket asked =>
      obtain ⟨link, hinUse, rfl⟩ := List.mem_map.mp hmem
      exact hcurrent (Option.mem_toList.mp hinUse)
  | close ticket handle =>
      obtain ⟨held, hholds, rfl⟩ := List.mem_map.mp hmem
      have hactive := (Option.filter_eq_some_iff.mp (Option.mem_toList.mp hholds)).2
      unfold isActive at hactive
      unfold hasEnded
      dsimp only
      cases hfound : client.links[held.link]? with
      | none =>
          rw [hfound] at hactive
          contradiction
      | some connection =>
          rw [hfound, Option.any_some] at hactive
          obtain ⟨registration, hregistered⟩ := Option.isSome_iff_exists.mp hactive
          have hkeeps := hkept connection (List.mem_of_getElem? hfound)
          rw [Option.all_some]
          exact hkeeps.running_of_registered hregistered
  | turn link turn =>
      have hplace := client.place_accepted_turn link turn call hmem
      dsimp only at hmem
      cases hfound : client.links[link]? with
      | none =>
          rw [hfound] at hmem
          contradiction
      | some connection =>
          rw [hfound] at hmem
          dsimp only at hmem
          rw [hplace]
          unfold hasEnded
          rw [hfound, Option.all_some]
          by_contra hended
          rw [Connection.turn_of_ended (by simpa using hended)] at hmem
          contradiction
  | other action halone => contradiction

/-- If one connection runs at most, all calls are for it. -/
theorem Lone.calls {client : Client β η} {place : Nat} (hlone : client.Lone place)
    (hkept : AllLinks Kept client) (operations : List (Operation β η)) :
    ∀ call ∈ client.calls operations, call.place = place := by
  induction operations generalizing client with
  | nil =>
      intro call hmem
      contradiction
  | cons operation operations ih =>
      intro call hmem
      rcases List.mem_append.mp hmem with hfirst | hlater
      · by_contra hother
        have hrunning := running_of_accepted hkept hfirst
        rw [hlone call.place hother] at hrunning
        contradiction
      · refine ih (hlone.run hkept ?_) (kept_run hkept operation.actions) call hlater
        exact fun action hmem => opens_nothing hmem

/-! ### The wire -/

/-- The calls are numbered one after the other, so that no two have one number. -/
theorem numbers_distinct (place taken : Nat) (calls : List Accepted) :
    (((calls.zipIdx taken).filterMap (Accepted.issue? place)).map Prod.fst).Nodup ∧
      ∀ id ∈ ((calls.zipIdx taken).filterMap (Accepted.issue? place)).map Prod.fst,
        taken ≤ id.value := by
  induction calls generalizing taken with
  | nil => exact ⟨.nil, by simp⟩
  | cons call calls ih =>
      obtain ⟨hdistinct, hleast⟩ := ih (taken + 1)
      have hlater : ∀ id ∈ ((calls.zipIdx (taken + 1)).filterMap (Accepted.issue? place)).map
          Prod.fst, taken ≤ id.value := fun id hmem => Nat.le_of_succ_le (hleast id hmem)
      rw [List.zipIdx_cons, List.filterMap_cons]
      by_cases hhere : call.place = place
      · simp only [Accepted.issue?, if_pos hhere, List.map_cons, List.nodup_cons, List.mem_cons]
        refine ⟨⟨fun hmem => ?_, hdistinct⟩, ?_⟩
        · exact Nat.lt_irrefl _ (hleast _ hmem)
        · rintro id (rfl | hmem)
          · exact Nat.le_refl _
          · exact hlater id hmem
      · simp only [Accepted.issue?, if_neg hhere]
        exact ⟨hdistinct, hlater⟩

/-- If all calls are for the connection, the text of each of them is. -/
theorem texts_of_calls {place : Nat} {calls : List Accepted}
    (hhere : ∀ call ∈ calls, call.place = place) :
    (calls.zipIdx.filterMap (Accepted.issue? place)).map Prod.snd
      = calls.zipIdx.map fun (call, number) => Coder.encode ⟨number⟩ call.method call.params := by
  have hissues : ∀ numbered ∈ calls.zipIdx, Accepted.issue? place numbered
      = some (⟨numbered.2⟩, Coder.encode ⟨numbered.2⟩ numbered.1.method numbered.1.params) := by
    intro numbered hmem
    exact if_pos (hhere _ (List.fst_mem_of_mem_zipIdx hmem))
  rw [List.filterMap_congr hissues]
  simp

theorem turn_of_mem_course {client : Client β η} {place : Nat} {turn : Link.Turn}
    {history : List (Action β η)} (hmem : .turn turn ∈ client.course place history) :
    .turn place turn ∈ history := by
  induction history generalizing client with
  | nil => contradiction
  | cons action history ih =>
      rcases List.mem_append.mp hmem with hfirst | hlater
      · cases cause_of_mem_moves hfirst with
        | turn => exact List.mem_cons_self
      · exact List.mem_cons_of_mem _ (ih hlater)

theorem turn_of_mem_history {place : Nat} {turn : Link.Turn} {operations : List (Operation β η)}
    (hmem : .turn place turn ∈ Operation.history operations) :
    .turn place turn ∈ operations := by
  obtain ⟨operation, hthere, hmem⟩ := List.mem_flatMap.mp hmem
  cases operation with
  | turn link taken =>
      cases List.mem_singleton.mp hmem
      exact hthere
  | other action halone =>
      obtain rfl := List.mem_singleton.mp hmem
      exact halone.elim
  | _ => simp [Operation.actions, Action.wholeCall, Action.wholeSubscribe,
      Action.wholeUnsubscribe] at hmem

/-- From the opening of a connection on, the texts that were written on it and those that are queued
are the texts of the calls that the client has accepted for it, each with its number. -/
theorem texts_of_operations {client : Client β η} (hkept : AllLinks Kept client) {place : Nat}
    {epoch : Rpc.Epoch} {settings : Link.Settings}
    (hstarted : client.links[place]? = some (.start epoch settings))
    (hzero : client.coder.next = 0) (hidle : client.submissions = .empty)
    {operations : List (Operation β η)}
    (htakes : ∀ cause, .turn place (.command (some cause)) ∉ operations)
    (hfew : (client.calls operations).length ≤ 2 ^ 64) {connection : Connection (Waiter β) Ticket}
    (hfound : (client.run (Operation.history operations)).1.links[place]? = some connection)
    (hrunning : connection.ended = false) :
    texts (framesOn place (client.run (Operation.history operations)).2)
        ++ connection.unsent.map Prod.snd
      = ((client.calls operations).zipIdx.filterMap (Accepted.issue? place)).map Prod.snd := by
  have hnumbers := Numbers.of_operations hkept hidle operations
  have hqueued := hnumbers.queued 0 hzero (by omega) place
  obtain rfl := Option.some.inj
    ((links_run hkept hstarted (Operation.history operations)).symm.trans hfound)
  have hdistinct : ((issued (client.course place (Operation.history operations))).map
      Prod.fst).Nodup := by
    rw [hqueued]
    exact (numbers_distinct place 0 _).1
  have htaken : ∀ cause, .turn (.command (some cause))
      ∉ client.course place (Operation.history operations) :=
    fun cause hmem => htakes cause (turn_of_mem_history (turn_of_mem_course hmem))
  rw [framesOn_run hkept hstarted,
    Connection.writes_in_order epoch settings hdistinct htaken hrunning, hqueued]

/-- A handshake succeeds while no request is on its way, and from then on callers call, subscribe,
close subscriptions and lose interest, in any order, while messages come and the loops take their
turns.

* As long as the loop of the new connection runs and its socket takes what is written, the texts
  written on it, followed by those that are queued, are the texts of the calls that the client has
  accepted for it: one for each call, with its own method and parameters, in the order in which the
  calls were accepted. The calls of the epoch are numbered from zero, whoever makes them. If all of
  them are for the new connection, as after a reconnect whose old connection nobody uses any more,
  its texts are numbered from zero without gaps, and once its queue is empty, all of them are on the
  wire. If the other connections have ended, all calls are for the new one.
* The counter has taken a number for each call that was accepted. What the client refuses, because
  it is not open or the subscription is not registered any more, leaves it as it is and writes
  nothing.
* A text is written right after its request was registered, which waits from then on.
* When the loop takes the command to close, it writes a close frame, if the socket takes that, and
  whatever happens later, nothing more is written. -/
theorem wire_is_call_history (address : Address) (options : Options) (history : List (Action β η))
    (previous : Phase)
    (hshaking : ((fresh address options : Client β η).run history).1.transition
      = some (.connecting previous))
    (hidle : ((fresh address options : Client β η).run history).1.submissions = .empty)
    (operations : List (Operation β η)) :
    let client := ((fresh address options : Client β η).run history).1
    let place := client.links.length
    let opened := (client.step (.endConnect .accepted)).1
    let after := opened.run (Operation.history operations)
    (∀ connection, after.1.links[place]? = some connection → connection.ended = false →
      (∀ cause, .turn place (.command (some cause)) ∉ operations) →
      (opened.calls operations).length ≤ 2 ^ 64 →
      texts (framesOn place after.2) ++ connection.unsent.map Prod.snd
          = ((opened.calls operations).zipIdx.filterMap (Accepted.issue? place)).map Prod.snd ∧
      ((∀ call ∈ opened.calls operations, call.place = place) →
        texts (framesOn place after.2) ++ connection.unsent.map Prod.snd
            = ((opened.calls operations).zipIdx.map fun (call, number) =>
                Coder.encode ⟨number⟩ call.method call.params) ∧
        (connection.queue = [] →
          texts (framesOn place after.2)
            = (opened.calls operations).zipIdx.map fun (call, number) =>
                Coder.encode ⟨number⟩ call.method call.params)) ∧
      (client.Lone place → ∀ call ∈ opened.calls operations, call.place = place)) ∧
    (after.1.coder.next = (opened.calls operations).length % 2 ^ 64 ∧
      ∀ operation : Operation β η, operation.Asks → after.1.accepted operation = [] →
        ∃ effects, after.1.run operation.actions = (after.1, effects) ∧
          ∀ link frame, .wrote link frame ∉ effects) ∧
    (∀ (connection : Connection (Waiter β) Ticket) (turn : Link.Turn) (payload : String),
      .text payload ∈ frames (connection.turn turn).2 →
      ∃ id request queue, connection.queue = .send id payload request :: queue ∧
        connection.pending.find? id = none ∧
        (connection.turn turn).2 = [.registered id, .wrote (.text payload)] ∧
        (connection.turn turn).1.pending.find? id = some request) ∧
    ∀ connection reason queue failure (later : List (Action β η)),
      after.1.links[place]? = some connection →
      connection.queue = .shutdown reason :: queue →
      framesOn place (after.1.run (.turn place (.command failure) :: later)).2
        = if failure = none then [.close (some Frame.normalClosure)] else [] := by
  intro client place opened after
  have hkept : AllLinks Kept client := kept_links address options history
  have hkeeps : AllLinks Kept opened := kept_step hkept _
  have hsame : opened = client.openLink := by
    change (client.endConnect .accepted).1 = _
    unfold endConnect
    rw [hshaking]
    rfl
  have hstarted : opened.links[place]?
      = some (.start client.epoch.next client.options.settings) := by
    rw [hsame]
    exact List.getElem?_concat_length
  have hzero : opened.coder.next = 0 := by
    rw [hsame]
    rfl
  have hquiet : opened.submissions = .empty := by
    rw [hsame]
    exact hidle
  have hnumbers := Numbers.of_operations hkeeps hquiet operations
  refine ⟨?_, ⟨?_, ?_⟩, ?_, ?_⟩
  · intro connection hfound hrunning htakes hfew
    have hall := texts_of_operations hkeeps hstarted hzero hquiet htakes hfew hfound hrunning
    refine ⟨hall, fun hhere => ?_, fun hlone => ?_⟩
    · rw [texts_of_calls hhere] at hall
      refine ⟨hall, fun hdrained => ?_⟩
      have hnone : connection.unsent = [] := congrArg (List.filterMap Link.Command.issue?) hdrained
      rw [hnone, List.map_nil, List.append_nil] at hall
      exact hall
    · have halone : opened.Lone place := by
        intro other hdifferent
        rw [hsame, client.hasEnded_openLink hdifferent]
        exact hlone other hdifferent
      exact halone.calls hkeeps operations
  · have hcounter := hnumbers.counter 0 hzero
    rw [Nat.zero_add] at hcounter
    exact hcounter
  · intro operation hasks hrefused
    exact refused_operation hnumbers.idle hasks hrefused
  · intro connection turn payload hwritten
    exact connection.registered_before_written hwritten
  · intro connection reason queue failure later hfound hnext
    have hkeeps : AllLinks Kept after.1 := kept_run hkeeps _
    have horderly := (hkeeps connection (List.mem_of_getElem? hfound)).orderly
    refine framesOn_of_shutdown hkeeps hfound ?_ hnext failure later
    by_contra hended
    rw [(horderly.cleared (by simpa using hended)).1] at hnext
    contradiction

/-- A call, and a subscribe call whose caller goes before it is answered. The client makes a call of
its own for the subscription, and the loop empties its queue. -/
def sampleOperations : List (Operation String Unit) :=
  [.call 0 sampleCall, .subscribe 1 sampleSubscribe, .turn 0 (.command none),
   .other (.forget 1) trivial, .turn 0 (.command none),
   .turn 0 (.message (Text.Utf8.encode "\x7b\"id\":1,\"result\":\"s\"\x7d")),
   .turn 0 (.command none)]

theorem sampleOperations_on_wire :
    let client := ((fresh sampleAddress {} : Client String Unit).run [.beginConnect]).1
    let opened := (client.step (.endConnect .accepted)).1
    texts (framesOn 0 (opened.run (Operation.history sampleOperations)).2)
      = [Coder.encode ⟨0⟩ "m" [], Coder.encode ⟨1⟩ "subscribe" [],
         Coder.encode ⟨2⟩ "unsubscribe" [.string "s"]] := by
  intro client opened
  have hcalls : ((opened.calls sampleOperations).zipIdx.map fun (call, number) =>
      Coder.encode ⟨number⟩ call.method call.params) = [Coder.encode ⟨0⟩ "m" [],
        Coder.encode ⟨1⟩ "subscribe" [], Coder.encode ⟨2⟩ "unsubscribe" [.string "s"]] := by
    decide +kernel
  have hfew : (opened.calls sampleOperations).length ≤ 2 ^ 64 := by decide +kernel
  obtain ⟨connection, hfound, hrunning, hdrained⟩ : ∃ connection,
      (opened.run (Operation.history sampleOperations)).1.links[0]? = some connection ∧
        connection.ended = false ∧ connection.queue = [] := by
    have hdrained : ((opened.run (Operation.history sampleOperations)).1.links[0]?).any
        (fun connection => !connection.ended && connection.queue.isEmpty) = true := by
      decide +kernel
    simpa [Option.any_eq_true] using hdrained
  have htakes (cause : TransportFault) :
      .turn 0 (.command (some cause)) ∉ sampleOperations := by
    simp [sampleOperations]
  obtain ⟨hwritten, -⟩ := wire_is_call_history sampleAddress {} [.beginConnect] .disconnected rfl
    rfl sampleOperations
  have hlone : Lone ((fresh sampleAddress {} : Client String Unit).run [.beginConnect]).1 0 :=
    fun _ _ => rfl
  obtain ⟨-, hnumbered, halone⟩ := hwritten connection hfound hrunning htakes hfew
  rw [← hcalls]
  exact (hnumbered (halone hlone)).2 hdrained

end ChainRpc.Client
