import ChainRpc.Proofs.Link.Numbers
import ChainRpc.Proofs.Link.Release

/-!
# What a connection writes

A loop takes its commands in their order. It registers a request and writes its text at once, as
long as no request waits under the same number. So if all numbers differ, the texts on the wire and
those that are still queued are the texts that were handed to the connection, in their order. Once a
loop has taken the command to close, a close frame is the last thing that it writes.
-/

namespace ChainRpc.Link

open Rpc (RequestId)

variable {κ δ : Type}

/-! ### Frames and texts -/

/-- The frame that an effect writes. -/
def Effect.frame? : Effect κ δ → Option Frame
  | .wrote frame => some frame
  | .registered _ | .completed _ _ | .delivered _ _ _ => none

/-- The frames that are written, in their order. -/
def frames (effects : List (Effect κ δ)) : List Frame := effects.filterMap Effect.frame?

/-- The text of a frame. -/
def Frame.text? : Frame → Option String
  | .text payload => some payload
  | .ping | .pong _ | .close _ => none

/-- The texts among the frames. -/
def texts (frames : List Frame) : List String := frames.filterMap Frame.text?

@[simp] theorem frames_append (first second : List (Effect κ δ)) :
    frames (first ++ second) = frames first ++ frames second := List.filterMap_append

@[simp] theorem texts_append (first second : List Frame) :
    texts (first ++ second) = texts first ++ texts second := List.filterMap_append

/-- Whoever is told an outcome, nothing is written for it. -/
@[simp] theorem frames_completed {α : Type} (items : List α) (owner : α → κ) (outcome : Outcome) :
    frames (items.map fun item => (.completed (owner item) outcome : Effect κ δ)) = [] := by
  unfold frames
  rw [List.filterMap_map]
  exact List.filterMap_eq_nil_iff.mpr fun _ _ => rfl

@[simp] theorem frames_wrote (written : List Frame) :
    frames (written.map .wrote : List (Effect κ δ)) = written := by
  unfold frames
  rw [List.filterMap_map]
  exact List.filterMap_some

/-! ### Requests and their texts -/

/-- The number and the text of the request that a command sends. -/
def Command.issue? : Command κ δ → Option (RequestId × String)
  | .send id payload _ => some (id, payload)
  | .shutdown _ => none

namespace Connection

/-- The number and the text of the request that a step hands to the connection. -/
def Step.issue? : Step κ δ → Option (RequestId × String)
  | .send id payload _ => some (id, payload)
  | .shutdown _ | .release | .register _ _ | .unregister _ | .turn _ => none

/-- The numbers and texts of the requests that steps hand to the connection. -/
def issued (steps : List (Step κ δ)) : List (RequestId × String) := steps.filterMap Step.issue?

/-- The numbers and texts of the requests that are queued. -/
def unsent (connection : Connection κ δ) : List (RequestId × String) :=
  connection.queue.filterMap Command.issue?

@[simp] theorem issued_append (first second : List (Step κ δ)) :
    issued (first ++ second) = issued first ++ issued second := List.filterMap_append

/-! ### The queue -/

section Queue

variable {connection : Connection κ δ} {id : RequestId} {payload : String} {request : Request κ δ}

/-- A request in the queue was there before the step, or is sent in it. -/
theorem send_of_step {step : Step κ δ}
    (hmem : .send id payload request ∈ (connection.step step).1.queue) :
    .send id payload request ∈ connection.queue ∨ step = .send id payload request := by
  cases step with
  | send id' payload' request' =>
      unfold Connection.step send at hmem
      dsimp only at hmem
      split at hmem
      next => exact .inl hmem
      next =>
        rcases List.mem_append.mp hmem with hold | hnew
        · exact .inl hold
        · cases List.mem_singleton.mp hnew
          exact .inr rfl
  | shutdown reason =>
      unfold Connection.step shutdown at hmem
      dsimp only at hmem
      split at hmem
      next => exact .inl hmem
      next => exact .inl (by simpa using hmem)
  | release => exact .inl hmem
  | register id registration => exact .inl hmem
  | unregister id => exact .inl hmem
  | turn turn => exact .inl (connection.turn_queue turn _ hmem)

theorem send_of_run {steps : List (Step κ δ)}
    (hmem : .send id payload request ∈ (connection.run steps).1.queue) :
    .send id payload request ∈ connection.queue ∨ .send id payload request ∈ steps := by
  induction steps generalizing connection with
  | nil => exact .inl hmem
  | cons step steps ih =>
      obtain hqueued | hlater := ih hmem
      · obtain hbefore | rfl := send_of_step hqueued
        · exact .inl hbefore
        · exact .inr List.mem_cons_self
      · exact .inr (List.mem_cons_of_mem _ hlater)

end Queue

/-! ### One turn -/

/-- What a turn of a loop does to the queue, the requests that wait, and the wire. -/
inductive Spends (connection : Connection κ δ) (turn : Turn) :
    Connection κ δ × List (Effect κ δ) → Prop where
  | writes (id : RequestId) (payload : String) (request : Request κ δ)
      (queue : List (Command κ δ)) (hnext : connection.queue = .send id payload request :: queue)
      (habsent : connection.pending.find? id = none) :
      Spends connection turn
        ({ connection with queue, pending := connection.pending.insert id request },
          [.registered id, .wrote (.text payload)])
  /-- A request waits under the number already. -/
  | refuses (id : RequestId) (payload : String) (request earlier : Request κ δ)
      (queue : List (Command κ δ)) (hnext : connection.queue = .send id payload request :: queue)
      (hwaits : connection.pending.find? id = some earlier) :
      Spends connection turn
        ({ connection with queue },
          [.completed request.owner (.error (.transport (.duplicate id.value)))])
  /-- The socket does not take the text. -/
  | fails (id : RequestId) (payload : String) (request : Request κ δ)
      (queue : List (Command κ δ)) (hnext : connection.queue = .send id payload request :: queue)
      (cause : TransportFault) (hfailing : turn = .command (some cause)) :
      Spends connection turn
        ({ connection with queue },
          [.registered id, .completed request.owner (.error (.transport cause))])
  | ends (after : Connection κ δ) (effects : List (Effect κ δ)) (hended : after.ended = true)
      (hsilent : texts (frames effects) = []) : Spends connection turn (after, effects)
  | keeps (after : Connection κ δ) (effects : List (Effect κ δ))
      (hqueue : after.queue = connection.queue)
      (hwaits : after.pending.keys.Sublist connection.pending.keys)
      (hsilent : texts (frames effects) = []) : Spends connection turn (after, effects)

section

variable (connection : Connection κ δ)

theorem frames_send (id : RequestId) (payload : String) (request : Request κ δ) :
    frames (connection.send id payload request).2 = [] := by
  unfold send
  split <;> rfl

/-- Nothing is written for the requests that a loop fails at its end. -/
theorem frames_finish (reason : CloseReason) : frames (connection.finish reason).2 = [] := by
  unfold finish
  exact frames_completed _ _ _

theorem texts_finish (reason : CloseReason) :
    texts (frames (connection.finish reason).2) = [] := by
  rw [frames_finish]
  rfl

theorem spends_hangUp (turn : Turn) (code : Option Nat) (reason : CloseReason)
    (failure : Option TransportFault) :
    Spends connection turn (connection.hangUp code reason failure) := by
  cases failure with
  | none => exact .ends _ _ rfl (connection.texts_finish reason)
  | some cause => exact .ends _ _ rfl (connection.texts_finish reason)

theorem spends_takeCommand (failure : Option TransportFault) :
    Spends connection (.command failure) (connection.takeCommand failure) := by
  unfold takeCommand
  split
  next id payload request queue hnext =>
    unfold transmit
    dsimp only
    cases hwaits : connection.pending.find? id with
    | some earlier =>
        rw [Registry.insertNew?_of_find?_eq_some hwaits]
        exact .refuses id payload request earlier queue hnext hwaits
    | none =>
        rw [Registry.insertNew?_of_find?_eq_none hwaits]
        cases failure with
        | none => exact .writes id payload request queue hnext hwaits
        | some cause => exact .fails id payload request queue hnext cause rfl
  next reason queue hnext =>
    cases failure with
    | none => exact .ends _ _ rfl ({ connection with queue }.texts_finish reason)
    | some cause => exact .ends _ _ rfl ({ connection with queue }.texts_finish reason)
  next =>
    split
    next => exact connection.spends_hangUp _ none .closed failure
    next => exact .keeps connection [] rfl (.refl _) rfl

theorem spends_receive (bytes : List UInt8) (turn : Turn) :
    Spends connection turn (connection.receive bytes) := by
  unfold receive
  dsimp only
  split
  next text _ =>
    unfold dispatch complete deliver
    split
    next id outcome _ =>
      split
      next request _ =>
        exact .keeps _ _ rfl (connection.pending.keys_erase_sublist id) rfl
      next => exact .keeps _ _ rfl (.refl _) rfl
    next =>
      split <;> exact .keeps _ _ rfl (.refl _) rfl
    next => exact .keeps _ _ rfl (.refl _) rfl
  next => exact .keeps _ _ rfl (.refl _) rfl
  next => exact .keeps _ _ rfl (.refl _) rfl

theorem spends_tick (now : Nat) (failure : Option TransportFault) (turn : Turn) :
    Spends connection turn (connection.tick now failure) := by
  unfold tick
  split
  next => exact .keeps _ _ rfl (.refl _) rfl
  next keepalive _ =>
    dsimp only
    split
    next => exact .keeps _ _ rfl (.refl _) rfl
    next count _ _ =>
      refine .keeps _ _ rfl (.refl _) ?_
      rw [← List.map_replicate, frames_wrote]
      exact List.filterMap_replicate_of_none rfl
    next cause _ => exact .ends _ _ rfl (connection.texts_finish _)

/-- What a turn does, whatever the connection and the turn. -/
theorem spends (turn : Turn) : Spends connection turn (connection.turn turn) := by
  unfold Connection.turn
  split
  next => exact .keeps connection [] rfl (.refl _) rfl
  next =>
    cases turn with
    | command failure => exact connection.spends_takeCommand failure
    | message bytes => exact connection.spends_receive bytes _
    | ping payload => exact .keeps _ _ rfl (.refl _) rfl
    | pong => exact .keeps _ _ rfl (.refl _) rfl
    | closed => exact .ends _ _ rfl (connection.texts_finish _)
    | lost cause => exact .ends _ _ rfl (connection.texts_finish _)
    | tick now failure => exact connection.spends_tick now failure _

/-- A text is written for the next request in the queue, right after that was registered. -/
theorem registered_before_written {turn : Turn} {payload : String}
    (hwritten : .text payload ∈ frames (connection.turn turn).2) :
    ∃ id request queue, connection.queue = .send id payload request :: queue ∧
      connection.pending.find? id = none ∧
      (connection.turn turn).2 = [.registered id, .wrote (.text payload)] ∧
      (connection.turn turn).1.pending.find? id = some request := by
  have hspends := connection.spends turn
  have htextOf {effects : List (Effect κ δ)} (hmem : .text payload ∈ frames effects) :
      payload ∈ texts (frames effects) := List.mem_filterMap.mpr ⟨_, hmem, rfl⟩
  generalize connection.turn turn = next at hspends hwritten ⊢
  cases hspends with
  | writes id text request queue hnext habsent =>
      obtain rfl : text = payload := by
        simpa [frames, Effect.frame?, eq_comm] using hwritten
      refine ⟨id, request, queue, hnext, habsent, rfl, ?_⟩
      exact (Registry.find?_insert ..).trans (if_pos rfl)
  | refuses => simp [frames, Effect.frame?] at hwritten
  | fails => simp [frames, Effect.frame?] at hwritten
  | ends after effects hended hsilent =>
      have htext := htextOf hwritten
      rw [hsilent] at htext
      contradiction
  | keeps after effects hqueue hwaits hsilent =>
      have htext := htextOf hwritten
      rw [hsilent] at htext
      contradiction

theorem frames_hangUp (code : Option Nat) (reason : CloseReason)
    (failure : Option TransportFault) :
    frames (connection.hangUp code reason failure).2
      = if failure = none then [.close code] else [] := by
  have hfinished := connection.frames_finish reason
  cases failure with
  | none =>
      rw [if_pos rfl, ← hfinished]
      rfl
  | some cause => exact hfinished

/-- With the command to close, the loop ends, and it writes a close frame if the socket takes it. -/
theorem turn_shutdown {reason : CloseReason} {queue : List (Command κ δ)}
    (hrunning : connection.ended = false) (hnext : connection.queue = .shutdown reason :: queue)
    (failure : Option TransportFault) :
    (connection.turn (.command failure)).1.ended = true ∧
      frames (connection.turn (.command failure)).2
        = if failure = none then [.close (some Frame.normalClosure)] else [] := by
  have hsame : connection.turn (.command failure)
      = { connection with queue }.hangUp (some Frame.normalClosure) reason failure := by
    unfold Connection.turn takeCommand
    rw [if_neg (by simp [hrunning]), hnext]
  rw [hsame]
  refine ⟨?_, frames_hangUp _ _ reason failure⟩
  cases failure <;> rfl

/-- Without a turn of its loop a connection writes nothing. -/
theorem frames_of_still {steps : List (Step κ δ)} (hstill : ∀ turn, .turn turn ∉ steps) :
    frames (connection.run steps).2 = [] := by
  induction steps generalizing connection with
  | nil => rfl
  | cons step steps ih =>
      have hfirst : frames (connection.step step).2 = [] := by
        cases step with
        | send id payload request => exact connection.frames_send id payload request
        | turn turn => exact absurd List.mem_cons_self (hstill turn)
        | _ => rfl
      change frames ((connection.step step).2 ++ ((connection.step step).1.run steps).2) = []
      rw [frames_append, hfirst, ih _ fun turn hmem => hstill turn (List.mem_cons_of_mem _ hmem)]
      rfl

/-- After its end a connection writes nothing. -/
theorem frames_of_ended (hended : connection.ended = true) (steps : List (Step κ δ)) :
    frames (connection.run steps).2 = [] := by
  rw [(run_of_ended hended steps).2]
  exact frames_completed _ id _

end

/-! ### The wire -/

section Log

variable {connection : Connection κ δ} {log : List (RequestId × String)}

/-- All requests that wait are among those whose texts were written. -/
def Logged (log : List (RequestId × String)) (connection : Connection κ δ) : Prop :=
  ∀ id ∈ connection.pending.keys, id ∈ log.map Prod.fst

/-- The texts of a list of requests were written, and the loop has them no longer in its queue. -/
inductive Wrote (log handed : List (RequestId × String)) (connection : Connection κ δ)
    (result : Connection κ δ × List (Effect κ δ)) : Prop where
  | intro (sent : List (RequestId × String))
      (htext : texts (frames result.2) = sent.map Prod.snd)
      (hsplit : sent ++ result.1.unsent = connection.unsent ++ handed)
      (hlogged : Logged (log ++ sent) result.1)

/-- An operation that writes nothing and hands something to the end of the queue at most. -/
theorem wrote_nothing {handed : List (RequestId × String)}
    {result : Connection κ δ × List (Effect κ δ)} (hlogged : Logged log connection)
    (hunsent : result.1.unsent = connection.unsent ++ handed)
    (hwaits : result.1.pending.keys.Sublist connection.pending.keys)
    (hsilent : texts (frames result.2) = []) : Wrote log handed connection result := by
  refine ⟨[], hsilent, hunsent, ?_⟩
  rw [List.append_nil]
  exact fun id hmem => hlogged id (hwaits.mem hmem)

/-- A turn writes the text of the next request or nothing. -/
theorem wrote_turn (hlogged : Logged log connection)
    (hdistinct : ((log ++ connection.unsent).map Prod.fst).Nodup) {turn : Turn}
    (htakes : ∀ cause, turn ≠ .command (some cause))
    (hgoesOn : (connection.turn turn).1.ended = false) :
    Wrote log [] connection (connection.turn turn) := by
  have hspends := connection.spends turn
  generalize connection.turn turn = result at hspends hgoesOn ⊢
  have hfirst {id : RequestId} {payload : String} {request : Request κ δ}
      {queue : List (Command κ δ)} (hnext : connection.queue = .send id payload request :: queue) :
      connection.unsent = (id, payload) :: queue.filterMap Command.issue? := by
    unfold unsent
    rw [hnext]
    rfl
  cases hspends with
  | writes id payload request queue hnext habsent =>
      refine ⟨[(id, payload)], rfl, ?_, ?_⟩
      · rw [List.append_nil, hfirst hnext]
        rfl
      · intro other hmem
        rw [List.map_append, List.mem_append]
        dsimp only at hmem
        rw [Registry.keys_insert, List.mem_append] at hmem
        rcases hmem with hold | hnew
        · exact .inl (hlogged other ((connection.pending.keys_erase_sublist id).mem hold))
        · exact .inr hnew
  | refuses id payload request earlier queue hnext hwaits =>
      -- The number was written before, and so it is not in the queue any more.
      have hagain := hlogged id (Registry.mem_keys_of_find?_eq_some hwaits)
      rw [hfirst hnext, List.map_append, List.nodup_append] at hdistinct
      exact absurd rfl (hdistinct.2.2 id hagain id List.mem_cons_self)
  | fails id payload request queue hnext cause hfailing => exact absurd hfailing (htakes cause)
  | ends after effects hended hsilent =>
      dsimp only at hgoesOn
      rw [hended] at hgoesOn
      contradiction
  | keeps after effects hqueue hwaits hsilent =>
      refine wrote_nothing hlogged ?_ hwaits hsilent
      rw [List.append_nil]
      exact congrArg (List.filterMap Command.issue?) hqueue

/-- A step writes the text of the next request or nothing, and queues what it is handed. -/
theorem wrote_step (hlogged : Logged log connection)
    (hdistinct : ((log ++ connection.unsent).map Prod.fst).Nodup) {step : Step κ δ}
    (htakes : ∀ cause, step ≠ .turn (.command (some cause)))
    (hgoesOn : (connection.step step).1.ended = false) :
    Wrote log step.issue?.toList connection (connection.step step) := by
  cases step with
  | send id payload request =>
      unfold Connection.step send at hgoesOn ⊢
      dsimp only at hgoesOn ⊢
      split at hgoesOn
      next hended =>
        dsimp only at hgoesOn
        rw [hended] at hgoesOn
        contradiction
      next hrunning =>
        rw [if_neg hrunning]
        exact wrote_nothing hlogged List.filterMap_append (.refl _) rfl
  | shutdown reason =>
      unfold Connection.step shutdown at hgoesOn ⊢
      dsimp only at hgoesOn ⊢
      split at hgoesOn
      next hended =>
        rw [hended] at hgoesOn
        contradiction
      next hrunning =>
        rw [if_neg hrunning]
        exact wrote_nothing hlogged List.filterMap_append (.refl _) rfl
  | release => exact wrote_nothing hlogged (List.append_nil _).symm (.refl _) rfl
  | register id registration => exact wrote_nothing hlogged (List.append_nil _).symm (.refl _) rfl
  | unregister id => exact wrote_nothing hlogged (List.append_nil _).symm (.refl _) rfl
  | turn turn =>
      exact wrote_turn hlogged hdistinct (fun cause hsame => htakes cause (congrArg _ hsame))
        hgoesOn

theorem wrote_run (hlogged : Logged log connection) {steps : List (Step κ δ)}
    (hdistinct : ((log ++ connection.unsent ++ issued steps).map Prod.fst).Nodup)
    (htakes : ∀ cause, .turn (.command (some cause)) ∉ steps)
    (hgoesOn : (connection.run steps).1.ended = false) :
    Wrote log (issued steps) connection (connection.run steps) := by
  induction steps generalizing connection log with
  | nil => exact wrote_nothing hlogged (List.append_nil _).symm (.refl _) rfl
  | cons step steps ih =>
      have hstill : (connection.step step).1.ended = false := by
        by_contra hended
        have hended : (connection.step step).1.ended = true := by simpa using hended
        have hstopped := run_ended hended steps
        change ((connection.step step).1.run steps).1.ended = false at hgoesOn
        rw [hstopped] at hgoesOn
        contradiction
      have hhands : issued (step :: steps) = step.issue?.toList ++ issued steps :=
        filterMap_cons_toList Step.issue? step steps
      rw [hhands] at hdistinct ⊢
      obtain ⟨sent, htext, hsplit, hwaits⟩ := wrote_step hlogged
        ((List.sublist_append_left _ _).map Prod.fst |>.nodup hdistinct)
        (fun cause hsame => htakes cause (hsame ▸ List.mem_cons_self)) hstill
      have hlater : ((log ++ sent ++ (connection.step step).1.unsent ++ issued steps).map
          Prod.fst).Nodup := by
        rw [List.append_assoc log, hsplit]
        simpa only [List.append_assoc] using hdistinct
      obtain ⟨sent', htext', hsplit', hwaits'⟩ := ih hwaits hlater
        (fun cause hmem => htakes cause (List.mem_cons_of_mem _ hmem)) hgoesOn
      refine ⟨sent ++ sent', ?_, ?_, ?_⟩
      · change texts (frames ((connection.step step).2 ++ ((connection.step step).1.run steps).2))
          = _
        rw [frames_append, texts_append, htext, htext', List.map_append]
      · change _ ++ ((connection.step step).1.run steps).1.unsent = _
        rw [List.append_assoc, hsplit', ← List.append_assoc, hsplit, List.append_assoc]
      · rw [← List.append_assoc]
        exact hwaits'

end Log

/-- As long as the loop of a connection runs and the socket takes what is written, the texts on the
wire and those in the queue are the texts that were handed to the connection, in their order, if no
two requests have one number. -/
theorem writes_in_order (epoch : Rpc.Epoch) (settings : Settings) {steps : List (Step κ δ)}
    (hdistinct : ((issued steps).map Prod.fst).Nodup)
    (htakes : ∀ cause, .turn (.command (some cause)) ∉ steps)
    (hgoesOn : ((start epoch settings : Connection κ δ).run steps).1.ended = false) :
    texts (frames ((start epoch settings : Connection κ δ).run steps).2)
        ++ ((start epoch settings : Connection κ δ).run steps).1.unsent.map Prod.snd
      = (issued steps).map Prod.snd := by
  have hnoneWaits : Logged [] (start epoch settings : Connection κ δ) := by
    intro id hmem
    contradiction
  obtain ⟨sent, htext, hsplit, -⟩ := wrote_run hnoneWaits hdistinct htakes hgoesOn
  rw [htext, ← List.map_append, hsplit]
  rfl

end Connection

end ChainRpc.Link
