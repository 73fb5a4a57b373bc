import ChainRpc.Proofs.Link.Completion
import ChainRpc.Proofs.Link.Messages

/-!
# How a loop ends

A loop ends in one of its turns and in no other step. Either it takes a command that asks for its
end, which somebody must have queued, or something befalls the socket.

A connection to which nothing was ever handed has nothing to answer, whatever its loop does.
-/

namespace ChainRpc.Link

variable {κ δ : Type}

/-- What befalls the socket in a turn, as the reason for the end of the loop. -/
def Turn.fault? : Turn → Option CloseReason
  | .closed => some .closed
  | .lost cause | .tick _ (some cause) => some (.failed cause)
  | .command _ | .message _ | .ping _ | .pong | .tick _ none => none

namespace Connection

variable {connection : Connection κ δ}

/-! ### The end of a loop -/

/-- A turn ends the loop, or it keeps epoch and flags and adds nothing to the queue. -/
theorem turn_frame (connection : Connection κ δ) (turn : Turn) :
    (∃ assembly keepalive pending subscriptions queue,
      (connection.turn turn).1
          = { connection with assembly, keepalive, pending, subscriptions, queue } ∧
        ∀ command ∈ queue, command ∈ connection.queue) ∨
      connection.ended = false ∧ ∃ reason, connection.ending? turn = some reason ∧
        (connection.turn turn).1 = (connection.finish reason).1 := by
  rcases Bool.eq_false_or_eq_true connection.ended with hended | hrunning
  · rw [turn_of_ended hended]
    exact .inl ⟨_, _, _, _, _, rfl, fun _ hmem => hmem⟩
  · by_cases hmessage : ∃ bytes, turn = .message bytes
    · obtain ⟨bytes, rfl⟩ := hmessage
      obtain ⟨pending, subscriptions, hframe⟩ := connection.receive_frame bytes
      have hsame : connection.turn (.message bytes) = connection.receive bytes := by
        unfold Connection.turn
        rw [if_neg (by simp [hrunning])]
      rw [hsame]
      exact .inl ⟨_, _, pending, subscriptions, _, hframe, fun _ hmem => hmem⟩
    · cases hends : connection.ending? turn with
      | some reason =>
          obtain ⟨frames, hsame, -⟩ := turn_of_ending hrunning hends
          exact .inr ⟨hrunning, reason, rfl, by rw [hsame]⟩
      | none =>
          obtain ⟨pending, queue, keepalive, hframe, hfewer, -⟩ :=
            turn_of_going_on hrunning hends fun bytes hsame => hmessage ⟨bytes, hsame⟩
          exact .inl ⟨_, _, _, _, _, hframe, hfewer⟩

/-- As long as there are callers, a loop ends for a command that was queued or for its socket. -/
theorem ending?_eq_some (hheld : connection.released = false) {turn : Turn} {reason : CloseReason}
    (hends : connection.ending? turn = some reason) :
    .shutdown reason ∈ connection.queue ∨ turn.fault? = some reason := by
  cases turn with
  | command failure =>
      left
      unfold ending? at hends
      dsimp only at hends
      split at hends
      next => contradiction
      next other queue hnext =>
        cases hends
        rw [hnext]
        exact List.mem_cons_self
      next => simp [hheld] at hends
  | closed => exact .inr hends
  | lost cause => exact .inr hends
  | tick now failure =>
      right
      cases failure with
      | none => contradiction
      | some cause =>
          simp only [ending?, Option.bind_eq_some_iff] at hends
          obtain ⟨keepalive, -, hdue⟩ := hends
          split at hdue
          next => contradiction
          next => exact hdue
  | message bytes => contradiction
  | ping payload => contradiction
  | pong => contradiction

/-- No step but a turn that ends the loop ends it. -/
theorem step_running (hrunning : connection.ended = false) {step : Step κ δ}
    (hgoesOn : ∀ turn, step = .turn turn → connection.ending? turn = none) :
    (connection.step step).1.ended = false := by
  cases step with
  | send id payload request => simp [Connection.step, send, hrunning]
  | shutdown reason => simp [Connection.step, shutdown, hrunning]
  | release => exact hrunning
  | register id registration => exact hrunning
  | unregister id => exact hrunning
  | turn turn =>
      change (connection.turn turn).1.ended = false
      obtain ⟨_, _, _, _, _, hframe, -⟩ | ⟨-, reason, hends, -⟩ := connection.turn_frame turn
      · rw [hframe]
        exact hrunning
      · rw [hgoesOn turn rfl] at hends
        contradiction

theorem run_running (hrunning : connection.ended = false) {steps : List (Step κ δ)}
    (hgoesOn : ∀ turn, .turn turn ∉ steps) : (connection.run steps).1.ended = false := by
  induction steps generalizing connection with
  | nil => exact hrunning
  | cons step steps ih =>
      refine ih (step_running hrunning ?_) fun turn hmem =>
        hgoesOn turn (List.mem_cons_of_mem _ hmem)
      rintro turn rfl
      exact absurd List.mem_cons_self (hgoesOn turn)

theorem run_append (connection : Connection κ δ) (first second : List (Step κ δ)) :
    connection.run (first ++ second) =
      (((connection.run first).1.run second).1,
        (connection.run first).2 ++ ((connection.run first).1.run second).2) := by
  induction first generalizing connection with
  | nil => rfl
  | cons step steps ih =>
      have hlater := ih (connection.step step).1
      refine Prod.ext (congrArg Prod.fst hlater :) ?_
      change (connection.step step).2 ++ ((connection.step step).1.run (steps ++ second)).2 = _
      rw [hlater]
      exact (List.append_assoc ..).symm

/-! ### Who asks for the end -/

/-- Whatever command to end the loop is queued has a reason of a kind. -/
def Asks (kind : CloseReason → Prop) (connection : Connection κ δ) : Prop :=
  ∀ reason, .shutdown reason ∈ connection.queue → kind reason

theorem turn_queue (connection : Connection κ δ) (turn : Turn) :
    ∀ command ∈ (connection.turn turn).1.queue, command ∈ connection.queue := by
  intro command hmem
  obtain ⟨_, _, _, _, _, hframe, hfewer⟩ | ⟨-, reason, -, hended⟩ := connection.turn_frame turn
  · rw [hframe] at hmem
    exact hfewer command hmem
  · rw [hended] at hmem
    contradiction

theorem Asks.step {kind : CloseReason → Prop} (hasks : Asks kind connection) (step : Step κ δ)
    (hown : ∀ reason, step = .shutdown reason → kind reason) :
    Asks kind (connection.step step).1 := by
  intro reason hmem
  cases step with
  | send id payload request =>
      unfold Connection.step send at hmem
      dsimp only at hmem
      split at hmem
      next => exact hasks reason hmem
      next => exact hasks reason (by simpa using hmem)
  | shutdown other =>
      unfold Connection.step shutdown at hmem
      dsimp only at hmem
      split at hmem
      next => exact hasks reason hmem
      next =>
        rcases List.mem_append.mp hmem with hold | hnew
        · exact hasks reason hold
        · cases List.mem_singleton.mp hnew
          exact hown reason rfl
  | release => exact hasks reason hmem
  | register id registration => exact hasks reason hmem
  | unregister id => exact hasks reason hmem
  | turn turn => exact hasks reason (connection.turn_queue turn _ hmem)

theorem Asks.run {kind : CloseReason → Prop} (hasks : Asks kind connection)
    (steps : List (Step κ δ)) (hown : ∀ reason, .shutdown reason ∈ steps → kind reason) :
    Asks kind (connection.run steps).1 := by
  induction steps generalizing connection with
  | nil => exact hasks
  | cons step steps ih =>
      refine ih (hasks.step step ?_) fun reason hmem => hown reason (List.mem_cons_of_mem _ hmem)
      rintro reason rfl
      exact hown reason List.mem_cons_self

/-- A loop that is asked to end does so when it takes its commands. -/
theorem ends_by_commands {reason : CloseReason} (hasked : .shutdown reason ∈ connection.queue) :
    ∃ count, (connection.run (List.replicate count (.turn (.command none)))).1.ended = true := by
  generalize hlength : connection.queue = queue at hasked
  induction queue generalizing connection with
  | nil => contradiction
  | cons command queue ih =>
      rcases Bool.eq_false_or_eq_true connection.ended with hended | hrunning
      · exact ⟨0, hended⟩
      · cases command with
        | shutdown other =>
            have hends : connection.ending? (.command none) = some other := by
              unfold ending?
              dsimp only
              rw [hlength]
            obtain ⟨frames, hsame, -⟩ := turn_of_ending hrunning hends
            refine ⟨1, ?_⟩
            change (connection.turn (.command none)).1.ended = true
            rw [hsame]
            rfl
        | send id payload request =>
            have htaken : connection.turn (.command none)
                = { connection with queue }.transmit id payload request none := by
              unfold Connection.turn takeCommand
              rw [if_neg (by simp [hrunning])]
              dsimp only
              rw [hlength]
            obtain ⟨pending, hframe⟩ :=
              transmit_frame { connection with queue } id payload request none
            have hleft : (connection.turn (.command none)).1.queue = queue := by
              rw [htaken, hframe]
            obtain ⟨count, hstopped⟩ := ih hleft (List.mem_of_ne_of_mem (by simp) hasked)
            exact ⟨count + 1, hstopped⟩

/-! ### Epochs -/

theorem step_epoch (connection : Connection κ δ) (step : Step κ δ) :
    (connection.step step).1.epoch = connection.epoch := by
  cases step with
  | send id payload request =>
      unfold Connection.step send
      dsimp only
      split <;> rfl
  | shutdown reason =>
      unfold Connection.step shutdown
      dsimp only
      split <;> rfl
  | release => rfl
  | register id registration => rfl
  | unregister id => rfl
  | turn turn =>
      change (connection.turn turn).1.epoch = connection.epoch
      obtain ⟨_, _, _, _, _, hframe, -⟩ | ⟨-, reason, -, hended⟩ := connection.turn_frame turn
      · rw [hframe]
      · rw [hended]
        rfl

theorem run_epoch (connection : Connection κ δ) (steps : List (Step κ δ)) :
    (connection.run steps).1.epoch = connection.epoch := by
  induction steps generalizing connection with
  | nil => rfl
  | cons step steps ih => exact (ih _).trans (connection.step_epoch step)

/-! ### Nothing to answer -/

/-- Nothing waits on the connection, nothing is registered and nothing is queued. -/
structure Vacant (connection : Connection κ δ) : Prop where
  pending : connection.pending = .empty
  subscriptions : connection.subscriptions = .empty
  queue : connection.queue = []

namespace Vacant

theorem start (epoch : Rpc.Epoch) (settings : Settings) :
    Vacant (Connection.start epoch settings : Connection κ δ) := ⟨rfl, rfl, rfl⟩

theorem finish (connection : Connection κ δ) (reason : CloseReason) :
    Vacant (connection.finish reason).1 := ⟨rfl, rfl, rfl⟩

theorem bearing (hvacant : Vacant connection) (bytes : List UInt8) :
    connection.bearing bytes = .nothing := by
  unfold Connection.bearing
  rw [hvacant.pending, hvacant.subscriptions]
  cases envelopeOf connection.assembly.limit bytes with
  | none => rfl
  | some envelope => cases envelope <;> rfl

/-- A loop does not find anything to do by itself. -/
theorem turn (hvacant : Vacant connection) (horderly : Orderly connection) (turn : Turn) :
    Vacant (connection.turn turn).1 := by
  cases hended : connection.ended with
  | true =>
      rw [turn_of_ended hended]
      exact hvacant
  | false =>
      by_cases hmessage : ∃ bytes, turn = .message bytes
      · obtain ⟨bytes, rfl⟩ := hmessage
        rw [horderly.turn_message hended, hvacant.bearing bytes]
        exact hvacant
      · cases hends : connection.ending? turn with
        | some reason =>
            obtain ⟨frames, hsame, -⟩ := turn_of_ending hended hends
            rw [hsame]
            exact .finish connection reason
        | none =>
            obtain ⟨pending, queue, keepalive, hframe, hfewer, hwaits⟩ :=
              turn_of_going_on hended hends fun bytes hsame => hmessage ⟨bytes, hsame⟩
            rw [hframe]
            refine ⟨?_, hvacant.subscriptions, ?_⟩
            · apply Registry.eq_empty_of_values_eq_nil
              apply List.eq_nil_iff_forall_not_mem.mpr
              intro request hmem
              simpa [hvacant.pending, hvacant.queue, Registry.values, Registry.empty]
                using hwaits request hmem
            · apply List.eq_nil_iff_forall_not_mem.mpr
              intro command hmem
              simpa [hvacant.queue] using hfewer command hmem

theorem told_turn (hvacant : Vacant connection) (turn : Turn) :
    told (connection.turn turn).2 = [] := by
  have haccounts := connection.turn_accounts turn
  have hnobody : connection.outstanding = [] := by
    unfold outstanding queued waiting
    rw [hvacant.pending, hvacant.queue]
    rfl
  unfold Accounts at haccounts
  rw [hnobody] at haccounts
  exact (List.append_eq_nil_iff.mp haccounts.eq_nil).1

end Vacant

end Connection

end ChainRpc.Link
