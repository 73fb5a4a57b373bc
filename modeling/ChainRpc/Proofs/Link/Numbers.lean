import ChainRpc.Proofs.Link.Completion

/-!
# The numbers a connection has in hand

A request keeps its number while it is queued and while it waits for its answer. A connection
never makes up a number: it has those of the requests it was given, and each as often as it was
given it at most.
-/

namespace ChainRpc.Link

open Rpc (RequestId)

variable {κ δ : Type}

/-- The number of the request of a command. -/
def Command.id? : Command κ δ → Option RequestId
  | .send id _ _ => some id
  | .shutdown _ => none

namespace Connection

/-- The number of the request that a step gives to a connection. -/
def Step.id? : Step κ δ → Option RequestId
  | .send id _ _ => some id
  | .shutdown _ | .release | .register _ _ | .unregister _ | .turn _ => none

/-- The numbers of the requests that a connection was given by steps. -/
def given (steps : List (Step κ δ)) : List RequestId := steps.filterMap Step.id?

/-- The numbers of the requests that are queued or wait for an answer. -/
def numbers (connection : Connection κ δ) : List RequestId :=
  connection.queue.filterMap Command.id? ++ connection.pending.keys

theorem numbers_finish (connection : Connection κ δ) (reason : CloseReason) :
    (connection.finish reason).1.numbers = [] := rfl

theorem numbers_hangUp (connection : Connection κ δ) (code : Option Nat) (reason : CloseReason)
    (failure : Option TransportFault) :
    (connection.hangUp code reason failure).1.numbers = [] := by
  cases failure <;> exact connection.numbers_finish reason

/-- Writing a request gives its number to the registry, or to nobody. -/
theorem count_numbers_transmit (connection : Connection κ δ) (id : RequestId) (payload : String)
    (request : Request κ δ) (failure : Option TransportFault) (number : RequestId) :
    ((connection.transmit id payload request failure).1.numbers).count number
      ≤ [id].count number + connection.numbers.count number := by
  unfold transmit Registry.insertNew?
  split
  next => exact Nat.le_add_left _ _
  next pending hfresh =>
    split
    next =>
      split at hfresh
      next => contradiction
      next =>
        have hkept := (connection.pending.keys_erase_sublist id).count_le number
        rw [← Option.some.inj hfresh]
        simp only [numbers, Registry.keys_insert, List.count_append]
        omega
    next => exact Nat.le_add_left _ _

theorem count_numbers_takeCommand (connection : Connection κ δ)
    (failure : Option TransportFault) (number : RequestId) :
    ((connection.takeCommand failure).1.numbers).count number
      ≤ connection.numbers.count number := by
  unfold takeCommand
  split
  next id payload request queue hnext =>
    -- The number leaves the queue before it comes to the registry.
    have htaken :=
      count_numbers_transmit { connection with queue } id payload request failure number
    have hmoved : connection.numbers = [id] ++ { connection with queue }.numbers := by
      unfold numbers
      rw [hnext]
      rfl
    rw [hmoved, List.count_append]
    exact htaken
  next =>
    rw [numbers_hangUp]
    exact Nat.zero_le _
  next =>
    split
    next =>
      rw [numbers_hangUp]
      exact Nat.zero_le _
    next => exact Nat.le_refl _

theorem count_numbers_dispatch (connection : Connection κ δ) (text : String)
    (number : RequestId) :
    ((connection.dispatch text).1.numbers).count number ≤ connection.numbers.count number := by
  unfold dispatch complete
  split
  next id _ _ =>
    split
    next =>
      exact ((connection.pending.keys_erase_sublist id).append_left _).count_le number
    next => exact Nat.le_refl _
  next => exact Nat.le_refl _
  next => exact Nat.le_refl _

theorem count_numbers_receive (connection : Connection κ δ) (bytes : List UInt8)
    (number : RequestId) :
    ((connection.receive bytes).1.numbers).count number ≤ connection.numbers.count number := by
  unfold receive
  dsimp only
  split
  next => exact count_numbers_dispatch { connection with assembly := _ } _ number
  next => exact Nat.le_refl _
  next => exact Nat.le_refl _

theorem count_numbers_tick (connection : Connection κ δ) (now : Nat)
    (failure : Option TransportFault) (number : RequestId) :
    ((connection.tick now failure).1.numbers).count number
      ≤ connection.numbers.count number := by
  unfold tick
  split
  next => exact Nat.le_refl _
  next =>
    dsimp only
    split
    next => exact Nat.le_refl _
    next => exact Nat.le_refl _
    next =>
      rw [numbers_finish]
      exact Nat.zero_le _

theorem count_numbers_turn (connection : Connection κ δ) (turn : Turn) (number : RequestId) :
    ((connection.turn turn).1.numbers).count number ≤ connection.numbers.count number := by
  unfold Connection.turn
  split
  next => exact Nat.le_refl _
  next =>
    cases turn with
    | command failure => exact connection.count_numbers_takeCommand failure number
    | message bytes => exact connection.count_numbers_receive bytes number
    | ping payload => exact Nat.le_refl _
    | pong => exact Nat.le_refl _
    | closed => exact Nat.zero_le _
    | lost cause => exact Nat.zero_le _
    | tick now failure => exact connection.count_numbers_tick now failure number

/-- A step adds the number of the request that it gives, and no other. -/
theorem count_numbers_step (connection : Connection κ δ) (step : Step κ δ)
    (number : RequestId) :
    ((connection.step step).1.numbers).count number
      ≤ step.id?.toList.count number + connection.numbers.count number := by
  cases step with
  | send id payload request =>
      unfold Connection.step send
      dsimp only
      split
      next => exact Nat.le_add_left _ _
      next =>
        simp only [numbers, Step.id?, Command.id?, List.filterMap_append, List.filterMap_cons,
          List.filterMap_nil, List.count_append, Option.toList_some]
        omega
  | shutdown reason =>
      refine Nat.le_trans (Nat.le_of_eq ?_) (Nat.le_add_left _ _)
      unfold Connection.step shutdown
      dsimp only
      split
      next => rfl
      next => simp [numbers, Command.id?, List.filterMap_cons]
  | release => exact Nat.le_add_left _ _
  | register id registration => exact Nat.le_add_left _ _
  | unregister id => exact Nat.le_add_left _ _
  | turn turn =>
      exact Nat.le_trans (connection.count_numbers_turn turn number) (Nat.le_add_left _ _)

theorem count_numbers_run (connection : Connection κ δ) (steps : List (Step κ δ))
    (number : RequestId) :
    ((connection.run steps).1.numbers).count number
      ≤ (given steps).count number + connection.numbers.count number := by
  induction steps generalizing connection with
  | nil => exact Nat.le_add_left _ _
  | cons step steps ih =>
      have hfirst := connection.count_numbers_step step number
      have hlater := ih (connection.step step).1
      unfold given at hlater ⊢
      rw [filterMap_cons_toList, List.count_append]
      change (((connection.step step).1.run steps).1.numbers).count number ≤ _
      omega

/-- A loop registers the request that it takes if no request waits under its number. -/
theorem turn_registers {connection : Connection κ δ} {id : RequestId} {payload : String}
    {request : Request κ δ} {queue : List (Command κ δ)} (hrunning : connection.ended = false)
    (hnext : connection.queue = .send id payload request :: queue)
    (habsent : connection.pending.find? id = none) (failure : Option TransportFault) :
    ∃ later, (connection.turn (.command failure)).2 = .registered id :: later := by
  unfold Connection.turn
  rw [if_neg (by simp [hrunning])]
  simp only [takeCommand, hnext, transmit, Registry.insertNew?_of_find?_eq_none habsent]
  cases failure with
  | none => exact ⟨_, rfl⟩
  | some cause => exact ⟨_, rfl⟩

/-- A request that is next, and another one that waits, have two numbers. -/
theorem one_lt_count_numbers {connection : Connection κ δ} {id : RequestId} {payload : String}
    {request earlier : Request κ δ} {queue : List (Command κ δ)}
    (hnext : connection.queue = .send id payload request :: queue)
    (hfound : connection.pending.find? id = some earlier) : 1 < connection.numbers.count id := by
  have hwaiting := List.count_pos_iff.mpr (Registry.mem_keys_of_find?_eq_some hfound)
  have hnumbered : connection.numbers
      = id :: (queue.filterMap Command.id? ++ connection.pending.keys) := by
    unfold numbers
    rw [hnext]
    rfl
  rw [hnumbered, List.count_cons_self, List.count_append]
  omega

end Connection

end ChainRpc.Link
