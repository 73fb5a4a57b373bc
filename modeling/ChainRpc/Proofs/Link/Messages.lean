import ChainRpc.Link.Barrier
import ChainRpc.Proofs.Link.Responses

/-!
# What a message can do, and what ends a loop

A message bears on a connection in one of two ways. It answers a request that waits, or it carries
an event for a subscription that is registered; whatever else comes is dropped. Every other turn
of the loop keeps the subscriptions, unless it ends the loop, and then there is one reason for it.
-/

namespace ChainRpc.Link

open Rpc (Envelope RequestId SubscriptionId)
open Text (Utf8.decode)

variable {κ δ : Type}

/-- What a message says, if it keeps to the size limit, is UTF-8 and can be classified. -/
def envelopeOf (limit : Nat) (bytes : List UInt8) : Option Envelope :=
  if bytes.length > limit then none
  else (Utf8.decode bytes).toOption.bind fun text => (Envelope.parse text).toOption

/-- How a message bears on a connection. -/
inductive Bearing (κ δ : Type) where
  /-- It answers a request that waits. -/
  | answer (id : RequestId) (request : Request κ δ) (outcome : Outcome)
  /-- It carries an event for a subscription that is registered. -/
  | event (id : SubscriptionId) (registration : Registration δ) (method raw : String)
  | nothing

namespace Connection

variable {connection : Connection κ δ}

theorem turn_of_ended (hended : connection.ended = true) (turn : Turn) :
    connection.turn turn = (connection, []) := by
  unfold Connection.turn
  rw [if_pos hended]

/-- How a message bears on the connection. -/
def bearing (connection : Connection κ δ) (bytes : List UInt8) : Bearing κ δ :=
  match envelopeOf connection.assembly.limit bytes with
  | some (.response id outcome) =>
      match connection.pending.find? id with
      | some request => .answer id request (outcome.mapError .rpc)
      | none => .nothing
  | some (.notification method id raw) =>
      match connection.subscriptions.find? id with
      | some registration => .event id registration method raw
      | none => .nothing
  | none => .nothing

/-- A message bears on a connection in exactly one way, and this is what each of them says. -/
theorem bearing_spec (connection : Connection κ δ) (bytes : List UInt8) :
    match connection.bearing bytes with
    | .answer id request outcome =>
        ∃ reply, envelopeOf connection.assembly.limit bytes = some (.response id reply) ∧
          connection.pending.find? id = some request ∧ outcome = reply.mapError .rpc
    | .event id registration method raw =>
        envelopeOf connection.assembly.limit bytes = some (.notification method id raw) ∧
          connection.subscriptions.find? id = some registration
    | .nothing =>
        (∀ id reply, envelopeOf connection.assembly.limit bytes = some (.response id reply) →
          connection.pending.find? id = none) ∧
        ∀ method id raw,
          envelopeOf connection.assembly.limit bytes = some (.notification method id raw) →
          connection.subscriptions.find? id = none := by
  unfold bearing
  cases envelopeOf connection.assembly.limit bytes with
  | none => simp
  | some envelope =>
      cases envelope with
      | response id reply =>
          dsimp only
          cases hwaits : connection.pending.find? id with
          | some request => exact ⟨reply, rfl, hwaits, rfl⟩
          | none => simpa using hwaits
      | notification method id raw =>
          dsimp only
          cases hregistered : connection.subscriptions.find? id with
          | some registration => exact ⟨rfl, hregistered⟩
          | none => simpa using hregistered

/-- A response to a request that waits answers it. -/
theorem bearing_eq_answer {bytes : List UInt8} {id : RequestId} {request : Request κ δ}
    {outcome : Outcome}
    (hresponse : responseOf connection.assembly.limit bytes = some (id, outcome))
    (hwaits : connection.pending.find? id = some request) :
    connection.bearing bytes = .answer id request outcome := by
  obtain ⟨text, reply, hfits, hdecoded, hparsed, rfl⟩ := responseOf_eq_some_iff.mp hresponse
  unfold bearing envelopeOf
  rw [if_neg hfits, hdecoded]
  simp [Except.toOption, hparsed, hwaits]

/-- What a message does is what it bears. -/
theorem Orderly.turn_message (horderly : Orderly connection) (hrunning : connection.ended = false)
    (bytes : List UInt8) :
    connection.turn (.message bytes) =
      match connection.bearing bytes with
      | .answer id request outcome =>
          (connection.answered id request outcome, [.completed request.owner outcome])
      | .event _ registration method raw =>
          (connection, [.delivered registration.listener method raw])
      | .nothing => (connection, []) := by
  unfold Connection.turn
  rw [if_neg (by simp [hrunning])]
  dsimp only
  rw [horderly.receive_eq]
  unfold bearing envelopeOf
  split
  next => rfl
  next =>
    cases Utf8.decode bytes with
    | error fault => rfl
    | ok text =>
        simp only [Except.toOption, Option.bind_some]
        unfold dispatch
        cases Envelope.parse text with
        | error error => rfl
        | ok envelope =>
            cases envelope with
            | response id outcome =>
                dsimp only
                cases hfound : connection.pending.find? id with
                | none => exact complete_of_absent hfound _
                | some request => exact complete_of_found hfound _
            | notification method id raw =>
                dsimp only
                unfold deliver
                cases connection.subscriptions.find? id <;> rfl

/-! ### The end of a loop -/

/-- Why a turn ends the loop, if it does. -/
def ending? (connection : Connection κ δ) : Turn → Option CloseReason
  | .command _ =>
      match connection.queue with
      | .send .. :: _ => none
      | .shutdown reason :: _ => some reason
      | [] => if connection.released then some .closed else none
  | .closed => some .closed
  | .lost cause => some (.failed cause)
  | .tick now (some cause) =>
      connection.keepalive.bind fun keepalive =>
        if (keepalive.advance now).1 = 0 then none else some (.failed cause)
  | .tick _ none | .message _ | .ping _ | .pong => none

/-- What waits after a request was written was waiting before, or is that request. -/
theorem transmit_pending (connection : Connection κ δ) (id : RequestId) (payload : String)
    (request : Request κ δ) (failure : Option TransportFault) :
    ∀ waits ∈ (connection.transmit id payload request failure).1.pending.values,
      waits ∈ connection.pending.values ∨ waits = request := by
  intro waits hmem
  unfold transmit Registry.insertNew? at hmem
  split at hmem
  next => exact .inl hmem
  next pending hfresh =>
    split at hmem
    next =>
      split at hfresh
      next => contradiction
      next =>
        rw [← Option.some.inj hfresh, Registry.values_insert, List.mem_append,
          List.mem_singleton] at hmem
        exact hmem.imp_left fun hold => (connection.pending.values_erase_sublist id).mem hold
    next => exact .inl hmem

/-- A loop that goes on keeps all but the requests, the commands and the pings, and there are no
requests and commands but those it had. -/
theorem turn_of_going_on (hrunning : connection.ended = false) {turn : Turn}
    (hgoesOn : connection.ending? turn = none) (hother : ∀ bytes, turn ≠ .message bytes) :
    ∃ pending queue keepalive,
      (connection.turn turn).1 = { connection with pending, queue, keepalive } ∧
        (∀ command ∈ queue, command ∈ connection.queue) ∧
        ∀ request ∈ pending.values, request ∈ connection.pending.values ∨
          ∃ command ∈ connection.queue, command.request? = some request := by
  have hsame : ∀ keepalive, ∃ pending queue keepalive',
      { connection with keepalive } = { connection with pending, queue, keepalive := keepalive' } ∧
        (∀ command ∈ queue, command ∈ connection.queue) ∧
        ∀ request ∈ pending.values, request ∈ connection.pending.values ∨
          ∃ command ∈ connection.queue, command.request? = some request :=
    fun keepalive => ⟨_, _, keepalive, rfl, fun _ hmem => hmem, fun _ hmem => .inl hmem⟩
  unfold Connection.turn
  rw [if_neg (by simp [hrunning])]
  cases turn with
  | command failure =>
      unfold ending? at hgoesOn
      dsimp only at hgoesOn ⊢
      unfold takeCommand
      split
      next id payload request queue hnext =>
        -- The request of the command may wait now, and nothing else is new.
        obtain ⟨pending, hframe⟩ :=
          transmit_frame { connection with queue } id payload request failure
        have hwaits := transmit_pending { connection with queue } id payload request failure
        rw [hframe] at hwaits ⊢
        refine ⟨pending, queue, connection.keepalive, rfl, ?_, ?_⟩
        · intro command hmem
          rw [hnext]
          exact List.mem_cons_of_mem _ hmem
        · intro other hmem
          refine (hwaits other hmem).imp_right ?_
          rintro rfl
          rw [hnext]
          exact ⟨_, List.mem_cons_self, rfl⟩
      next reason queue hnext =>
        rw [hnext] at hgoesOn
        contradiction
      next hempty =>
        rw [hempty] at hgoesOn
        split
        next hreleased => simp [hreleased] at hgoesOn
        next => exact hsame connection.keepalive
  | message bytes => exact absurd rfl (hother bytes)
  | ping payload => exact hsame connection.keepalive
  | pong => exact hsame connection.keepalive
  | closed => contradiction
  | lost cause => contradiction
  | tick now failure =>
      dsimp only
      unfold tick
      split
      next => exact hsame connection.keepalive
      next keepalive hscheduled =>
        dsimp only
        split
        next => exact hsame connection.keepalive
        next => exact hsame _
        next cause hdue =>
          simp only [ending?, hscheduled, Option.bind_some] at hgoesOn
          split at hgoesOn
          next hnone => exact absurd hnone (by simpa using hdue)
          next => contradiction

theorem hangUp_eq (connection : Connection κ δ) (code : Option Nat) (reason : CloseReason)
    (failure : Option TransportFault) :
    ∃ frames : List Frame, connection.hangUp code reason failure =
      ((connection.finish reason).1, frames.map .wrote ++ (connection.finish reason).2) ∧
        (frames = [] ∨ ∃ code, frames = [.close code]) := by
  cases failure with
  | none => exact ⟨[.close code], rfl, .inr ⟨code, rfl⟩⟩
  | some cause => exact ⟨[], rfl, .inl rfl⟩

/-- A loop that ends fails all that waits and all that is queued for its reason, and writes a
close frame at most besides. -/
theorem turn_of_ending (hrunning : connection.ended = false) {turn : Turn} {reason : CloseReason}
    (hends : connection.ending? turn = some reason) :
    ∃ frames : List Frame, connection.turn turn =
      ((connection.finish reason).1, frames.map .wrote ++ (connection.finish reason).2) ∧
        (frames = [] ∨ ∃ code, frames = [.close code]) := by
  unfold Connection.turn
  rw [if_neg (by simp [hrunning])]
  cases turn with
  | command failure =>
      unfold ending? at hends
      dsimp only at hends ⊢
      unfold takeCommand
      split
      next id payload request queue hnext =>
        rw [hnext] at hends
        contradiction
      next reason queue hnext =>
        rw [hnext] at hends
        cases hends
        -- The command itself is no request, so it is not missed among those that fail.
        have hsame : { connection with queue }.finish reason = connection.finish reason := by
          unfold finish
          rw [hnext]
          rfl
        rw [← hsame]
        exact hangUp_eq _ _ reason failure
      next hempty =>
        rw [hempty] at hends
        split
        next hreleased =>
          simp only [hreleased, if_true, Option.some.injEq] at hends
          rw [hends]
          exact hangUp_eq connection none reason failure
        next hheld => simp [hheld] at hends
  | closed =>
      cases hends
      exact ⟨[], rfl, .inl rfl⟩
  | lost cause =>
      cases hends
      exact ⟨[], rfl, .inl rfl⟩
  | tick now failure =>
      -- A ping that fails ends the loop only if one was due.
      cases failure with
      | none => contradiction
      | some cause =>
          simp only [ending?, Option.bind_eq_some_iff] at hends
          obtain ⟨keepalive, hscheduled, hdue⟩ := hends
          split at hdue
          next => contradiction
          next hdue' =>
            cases hdue
            refine ⟨[], ?_, .inl rfl⟩
            simp only [tick, hscheduled]
            rfl
  | message bytes => contradiction
  | ping payload => contradiction
  | pong => contradiction

/-! ### What a loop does by itself -/

/-- The effect neither carries a result nor an event. -/
def IsQuiet : Effect κ δ → Prop
  | .completed _ outcome => ∃ error, outcome = .error error
  | .delivered _ _ _ => False
  | .registered _ | .wrote _ => True

theorem finish_quiet (connection : Connection κ δ) (reason : CloseReason) :
    ∀ effect ∈ (connection.finish reason).2, IsQuiet effect := by
  intro effect hmem
  obtain ⟨request, -, rfl⟩ := List.mem_map.mp hmem
  exact ⟨reason.error, rfl⟩

theorem transmit_quiet (connection : Connection κ δ) (id : RequestId) (payload : String)
    (request : Request κ δ) (failure : Option TransportFault) :
    ∀ effect ∈ (connection.transmit id payload request failure).2, IsQuiet effect := by
  unfold transmit
  split
  next => simp [IsQuiet]
  next => split <;> simp [IsQuiet]

theorem send_quiet (connection : Connection κ δ) (id : RequestId) (payload : String)
    (request : Request κ δ) :
    ∀ effect ∈ (connection.send id payload request).2, IsQuiet effect := by
  unfold send
  split <;> simp [IsQuiet]

/-- Without a message no request is answered and no event comes. -/
theorem turn_quiet (connection : Connection κ δ) {turn : Turn}
    (hother : ∀ bytes, turn ≠ .message bytes) :
    ∀ effect ∈ (connection.turn turn).2, IsQuiet effect := by
  cases hended : connection.ended with
  | true =>
      rw [turn_of_ended hended]
      simp
  | false =>
      cases hends : connection.ending? turn with
      | some reason =>
          obtain ⟨frames, hsame, -⟩ := turn_of_ending hended hends
          rw [hsame]
          intro effect hmem
          rcases List.mem_append.mp hmem with hwrote | hfailed
          · obtain ⟨frame, -, rfl⟩ := List.mem_map.mp hwrote
            trivial
          · exact connection.finish_quiet reason effect hfailed
      | none =>
          unfold Connection.turn
          rw [if_neg (by simp [hended])]
          cases turn with
          | command failure =>
              unfold ending? at hends
              dsimp only at hends ⊢
              unfold takeCommand
              split
              next id payload request queue _ => exact transmit_quiet _ id payload request failure
              next hnext => simp [hnext] at hends
              next hempty =>
                split
                next hreleased => simp [hempty, hreleased] at hends
                next => simp
          | message bytes => exact absurd rfl (hother bytes)
          | ping payload => simp [IsQuiet]
          | pong => simp
          | closed => contradiction
          | lost cause => contradiction
          | tick now failure =>
              dsimp only
              unfold tick
              split
              next => simp
              next =>
                dsimp only
                split
                next => simp
                next =>
                  intro effect hmem
                  rw [(List.mem_replicate.mp hmem).2]
                  trivial
                next cause _ => exact connection.finish_quiet _

/-- Without a message all requests that are completed fail, and for the same error. -/
theorem fails_alike (hrunning : connection.ended = false) {turn : Turn}
    (hother : ∀ bytes, turn ≠ .message bytes) :
    ∃ error, ∀ owner outcome,
      .completed owner outcome ∈ (connection.turn turn).2 → outcome = .error error := by
  have hnoneTold {effects : List (Effect κ δ)}
      (huntold : ∀ owner outcome, .completed owner outcome ∉ effects) :
      ∃ error, ∀ owner outcome,
        .completed owner outcome ∈ effects → outcome = .error error :=
    ⟨.connectionClosed, fun owner outcome hmem => absurd hmem (huntold owner outcome)⟩
  cases hends : connection.ending? turn with
  | some reason =>
      obtain ⟨frames, hsame, -⟩ := turn_of_ending hrunning hends
      refine ⟨reason.error, ?_⟩
      intro owner outcome hmem
      rw [hsame] at hmem
      rcases List.mem_append.mp hmem with hwrote | hfailed
      · obtain ⟨frame, -, hsame⟩ := List.mem_map.mp hwrote
        cases hsame
      · obtain ⟨request, -, hsame⟩ := List.mem_map.mp hfailed
        cases hsame
        rfl
  | none =>
      unfold Connection.turn
      rw [if_neg (by simp [hrunning])]
      cases turn with
      | command failure =>
          unfold ending? at hends
          dsimp only at hends ⊢
          unfold takeCommand
          split
          next id payload request queue _ =>
            unfold transmit
            split
            next => exact ⟨.transport (.duplicate id.value), by simp⟩
            next =>
              split
              next => exact hnoneTold (by simp)
              next cause => exact ⟨.transport cause, by simp⟩
          next hnext => simp [hnext] at hends
          next hempty =>
            split
            next hreleased => simp [hempty, hreleased] at hends
            next => exact hnoneTold (by simp)
      | message bytes => exact absurd rfl (hother bytes)
      | ping payload => exact hnoneTold (by simp)
      | pong => exact hnoneTold (by simp)
      | closed => contradiction
      | lost cause => contradiction
      | tick now failure =>
          dsimp only
          unfold tick
          split
          next => exact hnoneTold (by simp)
          next keepalive hscheduled =>
            dsimp only
            split
            next => exact hnoneTold (by simp)
            next => exact hnoneTold (by simp)
            next cause hdue =>
              simp only [ending?, hscheduled, Option.bind_some] at hends
              split at hends
              next hnone => exact absurd hnone (by simpa using hdue)
              next => contradiction

/-- A turn handles a message, or it answers no request and brings no event. -/
theorem message_or_quiet (connection : Connection κ δ) (turn : Turn) :
    (connection.ended = false ∧ ∃ bytes, turn = .message bytes) ∨
      ∀ effect ∈ (connection.turn turn).2, IsQuiet effect := by
  rcases Bool.eq_false_or_eq_true connection.ended with hended | hrunning
  · right
    rw [turn_of_ended hended]
    simp
  · by_cases hmessage : ∃ bytes, turn = .message bytes
    · exact .inl ⟨hrunning, hmessage⟩
    · exact .inr (connection.turn_quiet fun bytes hsame => hmessage ⟨bytes, hsame⟩)

/-! ### The barrier -/

section Barrier

variable (conduct : Conduct κ δ)

theorem callOut_eq (effects : List (Effect κ δ)) : callOut conduct effects = .ok () := by
  induction effects with
  | nil => rfl
  | cons effect effects ih =>
      unfold callOut
      rw [ih]
      cases conduct effect <;> rfl

/-- However the code ends that a turn calls, the loop does not unwind, and the turn is the same. -/
theorem turnUnder_eq (connection : Connection κ δ) (turn : Turn) :
    connection.turnUnder conduct turn = .ok (connection.turn turn) := by
  cases turn with
  | message bytes =>
      unfold turnUnder
      dsimp only
      rw [callOut_eq]
      rfl
  | _ => rfl

end Barrier

end Connection

end ChainRpc.Link
