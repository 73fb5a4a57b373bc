import ChainRpc.Link.Connection

/-!
# Steps of a connection

What the operations of a connection leave alone, and what holds between any two of its steps:
messages come whole, so no fragment waits for another one, and a loop that has ended left nothing
behind.
-/

namespace ChainRpc.Link

open Rpc (Envelope Epoch RequestId SubscriptionId)

variable {κ δ : Type}

namespace Assembly

/-- The limit stays. -/
theorem limit_add (assembly : Assembly) (fragment : List UInt8) :
    (assembly.add fragment).limit = assembly.limit := by
  unfold add
  dsimp only
  split
  next => rfl
  next => split <;> rfl

/-- The last fragment leaves none behind. -/
theorem push_last (assembly : Assembly) (fragment : List UInt8) :
    (assembly.push fragment true).2 = .empty assembly.limit := by
  change empty (assembly.add fragment).limit = _
  rw [limit_add]

end Assembly

namespace Connection

/-! ### What operations leave alone -/

/-- Writing a request changes the registry of requests alone. -/
theorem transmit_frame (connection : Connection κ δ) (id : RequestId) (payload : String)
    (request : Request κ δ) (failure : Option TransportFault) :
    ∃ pending, (connection.transmit id payload request failure).1
      = { connection with pending } := by
  unfold transmit
  split
  next => exact ⟨connection.pending, rfl⟩
  next pending _ =>
    split
    next => exact ⟨pending, rfl⟩
    next => exact ⟨connection.pending, rfl⟩

/-- A message changes the two registries alone. -/
theorem dispatch_frame (connection : Connection κ δ) (text : String) :
    ∃ pending subscriptions, (connection.dispatch text).1
      = { connection with pending, subscriptions } := by
  unfold dispatch
  split
  next id outcome _ =>
    unfold complete
    split
    next request _ => exact ⟨_, _, rfl⟩
    next => exact ⟨connection.pending, connection.subscriptions, rfl⟩
  next => exact ⟨connection.pending, connection.subscriptions, rfl⟩
  next => exact ⟨connection.pending, connection.subscriptions, rfl⟩

theorem receive_frame (connection : Connection κ δ) (bytes : List UInt8) :
    ∃ pending subscriptions, (connection.receive bytes).1
      = { connection with
          assembly := .empty connection.assembly.limit, pending, subscriptions } := by
  unfold receive
  dsimp only
  rw [Assembly.push_last]
  split
  next text _ => exact dispatch_frame _ text
  next => exact ⟨connection.pending, connection.subscriptions, rfl⟩
  next => exact ⟨connection.pending, connection.subscriptions, rfl⟩

/-! ### Between the steps -/

/-- What holds of a connection between its steps. -/
structure Orderly (connection : Connection κ δ) : Prop where
  /-- No fragment waits for another one. -/
  whole : connection.assembly = .empty connection.assembly.limit
  /-- A loop that has ended left no request behind. -/
  cleared : connection.ended = true → connection.queue = [] ∧ connection.pending = .empty

namespace Orderly

variable {connection : Connection κ δ}

/-- As long as the loop runs, only the fragments matter. -/
theorem of_running (hwhole : connection.assembly = .empty connection.assembly.limit)
    (hrunning : ¬ connection.ended = true) : Orderly connection where
  whole := hwhole
  cleared hended := absurd hended hrunning

theorem start (epoch : Epoch) (settings : Settings) :
    Orderly (Connection.start epoch settings : Connection κ δ) :=
  of_running rfl (by simp [Connection.start])

theorem finish (horderly : Orderly connection) (reason : CloseReason) :
    Orderly (connection.finish reason).1 := ⟨horderly.whole, fun _ => ⟨rfl, rfl⟩⟩

theorem hangUp (horderly : Orderly connection) (code : Option Nat) (reason : CloseReason)
    (failure : Option TransportFault) : Orderly (connection.hangUp code reason failure).1 := by
  cases failure with
  | none => exact horderly.finish reason
  | some cause => exact horderly.finish reason

theorem takeCommand (horderly : Orderly connection) (hrunning : ¬ connection.ended = true)
    (failure : Option TransportFault) : Orderly (connection.takeCommand failure).1 := by
  unfold Connection.takeCommand
  split
  next id payload request queue _ =>
    obtain ⟨pending, hframe⟩ :=
      transmit_frame { connection with queue } id payload request failure
    rw [hframe]
    exact of_running horderly.whole hrunning
  next queue _ =>
    have hrest : Orderly { connection with queue } := of_running horderly.whole hrunning
    exact hrest.hangUp _ _ failure
  next =>
    split
    next => exact horderly.hangUp _ _ failure
    next => exact horderly

theorem tick (horderly : Orderly connection) (hrunning : ¬ connection.ended = true) (now : Nat)
    (failure : Option TransportFault) : Orderly (connection.tick now failure).1 := by
  unfold Connection.tick
  split
  next => exact horderly
  next =>
    dsimp only
    split
    next => exact horderly
    next => exact of_running horderly.whole hrunning
    next => exact horderly.finish _

theorem turn (horderly : Orderly connection) (turn : Turn) :
    Orderly (connection.turn turn).1 := by
  unfold Connection.turn
  split
  next => exact horderly
  next hrunning =>
    -- Only a message touches the fragments, and only the end of the loop sets the flag.
    cases turn with
    | command failure => exact horderly.takeCommand hrunning failure
    | message bytes =>
        obtain ⟨pending, subscriptions, hframe⟩ := connection.receive_frame bytes
        dsimp only
        rw [hframe]
        exact of_running rfl hrunning
    | ping payload => exact horderly
    | pong => exact horderly
    | closed => exact horderly.finish _
    | lost cause => exact horderly.finish _
    | tick now failure => exact horderly.tick hrunning now failure

/-- Every step keeps a connection orderly. -/
theorem step (horderly : Orderly connection) (step : Step κ δ) :
    Orderly (connection.step step).1 := by
  cases step with
  | send id payload request =>
      unfold Connection.step send
      dsimp only
      split
      next => exact horderly
      next hrunning => exact of_running horderly.whole hrunning
  | shutdown reason =>
      unfold Connection.step shutdown
      dsimp only
      split
      next => exact horderly
      next hrunning => exact of_running horderly.whole hrunning
  | release => exact ⟨horderly.whole, horderly.cleared⟩
  | register id registration => exact ⟨horderly.whole, horderly.cleared⟩
  | unregister id => exact ⟨horderly.whole, horderly.cleared⟩
  | turn turn => exact horderly.turn turn

/-- So does every run. -/
theorem run (horderly : Orderly connection) (steps : List (Step κ δ)) :
    Orderly (connection.run steps).1 := by
  induction steps generalizing connection with
  | nil => exact horderly
  | cons step steps ih => exact ih (horderly.step step)

end Orderly

/-! ### After the end -/

/-- Nothing starts the loop again. -/
theorem step_ended {connection : Connection κ δ} (hended : connection.ended = true)
    (step : Step κ δ) : (connection.step step).1.ended = true := by
  cases step with
  | send id payload request => simp [Connection.step, send, hended]
  | shutdown reason => simp [Connection.step, shutdown, hended]
  | release => exact hended
  | register id registration => exact hended
  | unregister id => exact hended
  | turn turn => simp [Connection.step, Connection.turn, hended]

theorem run_ended {connection : Connection κ δ} (hended : connection.ended = true)
    (steps : List (Step κ δ)) : (connection.run steps).1.ended = true := by
  induction steps generalizing connection with
  | nil => exact hended
  | cons step steps ih => exact ih (step_ended hended step)

end Connection

end ChainRpc.Link
