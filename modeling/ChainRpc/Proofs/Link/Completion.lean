import ChainRpc.Proofs.Link.Steps
import Mathlib.Data.List.Nodup

/-!
# Completion of requests

A request that was handed to a connection is in one of three places: its command is queued, it
waits for its answer, or its owner was told the outcome. Every operation of the connection moves
requests between these places and neither loses one nor makes one up, so over a whole run each
owner is told once at most. When the loop has ended, all of them were told.

Requests are counted by their owners. A run may hand over the same id, payload and method any
number of times.

Callers may come in while the loop writes a text or empties its queue. They find the queue open in
the first case and closed in the second, as they do before and after, so an operation of the
loop is one step, and a request that comes meanwhile is counted on either side of it.
-/

namespace ChainRpc.Link

open Rpc (Epoch RequestId SubscriptionId)
open scoped List

variable {κ δ : Type}

/-- What the first item gives comes first. -/
theorem filterMap_cons_toList {α β : Type} (f : α → Option β) (item : α) (items : List α) :
    (item :: items).filterMap f = (f item).toList ++ items.filterMap f := by
  rw [List.filterMap_eq_flatMap_toList, List.flatMap_cons, ← List.filterMap_eq_flatMap_toList]

/-- The owner that learns its outcome. -/
def Effect.told? : Effect κ δ → Option κ
  | .completed owner _ => some owner
  | .registered _ | .wrote _ | .delivered _ _ _ => none

/-- The owners that learn an outcome, in the order in which they do. -/
def told (effects : List (Effect κ δ)) : List κ := effects.filterMap Effect.told?

@[simp] theorem told_nil : told ([] : List (Effect κ δ)) = [] := rfl

@[simp] theorem told_append (first second : List (Effect κ δ)) :
    told (first ++ second) = told first ++ told second :=
  List.filterMap_append

@[simp] theorem told_completed (owner : κ) (outcome : Outcome) (effects : List (Effect κ δ)) :
    told (.completed owner outcome :: effects) = owner :: told effects := rfl

@[simp] theorem told_registered (id : RequestId) (effects : List (Effect κ δ)) :
    told (.registered id :: effects) = told effects := rfl

@[simp] theorem told_wrote (frame : Frame) (effects : List (Effect κ δ)) :
    told (.wrote frame :: effects) = told effects := rfl

/-- Whoever is failed is told. -/
@[simp] theorem told_map_completed (requests : List (Request κ δ)) (outcome : Outcome) :
    told (requests.map fun request => (.completed request.owner outcome : Effect κ δ))
      = requests.map Request.owner := by
  induction requests with
  | nil => rfl
  | cons request requests ih => rw [List.map_cons, told_completed, ih, List.map_cons]

/-- Frames tell nobody anything. -/
@[simp] theorem told_replicate_wrote (count : Nat) (frame : Frame) :
    told (List.replicate count (.wrote frame) : List (Effect κ δ)) = [] := by
  induction count with
  | zero => rfl
  | succ count ih => rw [List.replicate_succ, told_wrote, ih]

namespace Connection

/-- The owner of the request that a step hands to the connection. -/
def Step.sent? : Step κ δ → Option κ
  | .send _ _ request => some request.owner
  | .shutdown _ | .release | .register _ _ | .unregister _ | .turn _ => none

/-- The owners of the requests that were handed to the connection. -/
def sent (steps : List (Step κ δ)) : List κ := steps.filterMap Step.sent?

/-- The owners whose requests the loop has not taken. -/
def queued (connection : Connection κ δ) : List κ :=
  (connection.queue.filterMap Command.request?).map Request.owner

/-- The owners whose requests wait for an answer. -/
def waiting (connection : Connection κ δ) : List κ :=
  connection.pending.values.map Request.owner

/-- The owners that are still to be told. -/
def outstanding (connection : Connection κ δ) : List κ := connection.queued ++ connection.waiting

/-- An operation accounts for the owners that were outstanding and those it was given: it tells
them or leaves them outstanding, each as often as before. -/
def Accounts (given : List κ) (before : Connection κ δ)
    (result : Connection κ δ × List (Effect κ δ)) : Prop :=
  told result.2 ++ result.1.outstanding ~ given ++ before.outstanding

/-- An operation that leaves queue and registry alone and tells nobody. -/
theorem accounts_of_eq {before after : Connection κ δ} {effects : List (Effect κ δ)}
    (hqueue : after.queue = before.queue) (hpending : after.pending = before.pending)
    (hsilent : told effects = []) : Accounts [] before (after, effects) := by
  simp only [Accounts, outstanding, queued, waiting, hqueue, hpending, hsilent]
  exact .rfl

/-- Operations one after the other account for what both were given. -/
theorem Accounts.trans {first second : List κ} {before middle after : Connection κ δ}
    {effects later : List (Effect κ δ)} (hone : Accounts first before (middle, effects))
    (htwo : Accounts second middle (after, later)) :
    Accounts (first ++ second) before (after, effects ++ later) := by
  unfold Accounts at hone htwo ⊢
  simp only [told_append] at hone htwo ⊢
  calc told effects ++ told later ++ after.outstanding
      _ = told effects ++ (told later ++ after.outstanding) := List.append_assoc ..
      _ ~ told effects ++ (second ++ middle.outstanding) := htwo.append_left _
      _ ~ second ++ (told effects ++ middle.outstanding) := by
          rw [← List.append_assoc, ← List.append_assoc]
          exact List.perm_append_comm.append_right _
      _ ~ second ++ (first ++ before.outstanding) := hone.append_left _
      _ ~ first ++ second ++ before.outstanding := by
          rw [← List.append_assoc]
          exact List.perm_append_comm.append_right _

/-! ### What each operation accounts for -/

theorem send_accounts (connection : Connection κ δ) (id : RequestId) (payload : String)
    (request : Request κ δ) :
    Accounts [request.owner] connection (connection.send id payload request) := by
  unfold send
  split
  next => exact .rfl
  next =>
    simp only [Accounts, outstanding, queued, waiting, told_nil, List.nil_append,
      List.filterMap_append, List.map_append, List.append_assoc]
    exact List.perm_middle

/-- Whatever waited or was queued is told as the loop ends. -/
theorem told_finish (connection : Connection κ δ) (reason : CloseReason) :
    told (connection.finish reason).2 ~ connection.outstanding := by
  unfold finish
  rw [told_map_completed, List.map_append]
  exact List.perm_append_comm

theorem finish_accounts (connection : Connection κ δ) (reason : CloseReason) :
    Accounts [] connection (connection.finish reason) := by
  change told (connection.finish reason).2 ++ [] ~ connection.outstanding
  rw [List.append_nil]
  exact connection.told_finish reason

theorem hangUp_accounts (connection : Connection κ δ) (code : Option Nat) (reason : CloseReason)
    (failure : Option TransportFault) :
    Accounts [] connection (connection.hangUp code reason failure) := by
  cases failure with
  | none => exact connection.finish_accounts reason
  | some cause => exact connection.finish_accounts reason

theorem transmit_accounts (connection : Connection κ δ) (id : RequestId) (payload : String)
    (request : Request κ δ) (failure : Option TransportFault) :
    Accounts [request.owner] connection (connection.transmit id payload request failure) := by
  unfold transmit
  cases hfind : connection.pending.find? id with
  | some earlier =>
      rw [Registry.insertNew?_of_find?_eq_some hfind]
      exact .rfl
  | none =>
      rw [Registry.insertNew?_of_find?_eq_none hfind]
      -- A failed write leaves the registry as it was, so the request was never seen there.
      cases failure with
      | none =>
          simp only [Accounts, outstanding, queued, waiting, told_registered, told_wrote,
            told_nil, List.nil_append, Registry.values_insert,
            Registry.erase_of_find?_eq_none hfind, List.map_append]
          rw [← List.append_assoc]
          exact List.perm_append_comm
      | some cause => exact .rfl

theorem takeCommand_accounts (connection : Connection κ δ) (failure : Option TransportFault) :
    Accounts [] connection (connection.takeCommand failure) := by
  unfold takeCommand
  split
  next id payload request queue hqueue =>
    -- The owner of the command leaves the queue and is given to the writer.
    have hgiven : connection.outstanding
        = request.owner :: { connection with queue }.outstanding := by
      unfold outstanding queued
      rw [hqueue]
      rfl
    unfold Accounts
    rw [hgiven]
    exact transmit_accounts { connection with queue } id payload request failure
  next reason queue hqueue =>
    have hsame : connection.outstanding = { connection with queue }.outstanding := by
      unfold outstanding queued
      rw [hqueue]
      rfl
    unfold Accounts
    rw [hsame]
    exact hangUp_accounts { connection with queue } _ reason failure
  next =>
    split
    next => exact connection.hangUp_accounts none .closed failure
    next => exact accounts_of_eq rfl rfl rfl

theorem complete_accounts (connection : Connection κ δ) (id : RequestId) (outcome : Outcome) :
    Accounts [] connection (connection.complete id outcome) := by
  unfold complete
  cases hfind : connection.pending.find? id with
  | none => exact accounts_of_eq rfl rfl rfl
  | some request =>
      -- The owner leaves the registry and is told.
      have hmoved := (Registry.perm_values_erase hfind).map Request.owner
      simp only [Accounts, outstanding, waiting, told_completed, told_nil, List.nil_append]
      calc request.owner :: (connection.queued ++ _)
        _ ~ connection.queued ++ request.owner :: _ := List.perm_middle.symm
        _ ~ connection.queued ++ _ := hmoved.symm.append_left _

/-- An event tells the listener of its subscription, and the owner of no request. -/
theorem told_deliver (connection : Connection κ δ) (method : String) (id : SubscriptionId)
    (raw : String) : told (connection.deliver method id raw) = [] := by
  unfold deliver
  split <;> rfl

theorem dispatch_accounts (connection : Connection κ δ) (text : String) :
    Accounts [] connection (connection.dispatch text) := by
  unfold dispatch
  split
  next id outcome _ => exact connection.complete_accounts id _
  next method id raw _ => exact accounts_of_eq rfl rfl (connection.told_deliver method id raw)
  next => exact accounts_of_eq rfl rfl rfl

theorem receive_accounts (connection : Connection κ δ) (bytes : List UInt8) :
    Accounts [] connection (connection.receive bytes) := by
  rcases hpush : connection.assembly.push bytes true with ⟨message, assembly⟩
  simp only [receive, hpush]
  split
  next text => exact dispatch_accounts { connection with assembly } text
  next => exact accounts_of_eq rfl rfl rfl
  next => exact accounts_of_eq rfl rfl rfl

theorem tick_accounts (connection : Connection κ δ) (now : Nat)
    (failure : Option TransportFault) : Accounts [] connection (connection.tick now failure) := by
  unfold tick
  split
  next => exact accounts_of_eq rfl rfl rfl
  next keepalive _ =>
    dsimp only
    split
    next => exact accounts_of_eq rfl rfl rfl
    next => exact accounts_of_eq rfl rfl (told_replicate_wrote _ _)
    next cause _ => exact connection.finish_accounts _

theorem turn_accounts (connection : Connection κ δ) (turn : Turn) :
    Accounts [] connection (connection.turn turn) := by
  unfold Connection.turn
  split
  next => exact accounts_of_eq rfl rfl rfl
  next =>
    cases turn with
    | command failure => exact connection.takeCommand_accounts failure
    | message bytes => exact connection.receive_accounts bytes
    | ping payload => exact accounts_of_eq rfl rfl rfl
    | pong => exact accounts_of_eq rfl rfl rfl
    | closed => exact connection.finish_accounts _
    | lost cause => exact connection.finish_accounts _
    | tick now failure => exact connection.tick_accounts now failure

/-- One step moves the requests it finds and the one it is given, and loses none. -/
theorem step_accounts (connection : Connection κ δ) (step : Step κ δ) :
    Accounts step.sent?.toList connection (connection.step step) := by
  cases step with
  | send id payload request => exact connection.send_accounts id payload request
  | shutdown reason =>
      simp only [Connection.step, shutdown]
      split
      next => exact accounts_of_eq rfl rfl rfl
      next =>
        simp only [Step.sent?, Option.toList, Accounts, outstanding, queued, waiting, told_nil,
          List.nil_append, List.filterMap_append]
        exact .of_eq (by simp [Command.request?])
  | release => exact accounts_of_eq rfl rfl rfl
  | register id registration => exact accounts_of_eq rfl rfl rfl
  | unregister id => exact accounts_of_eq rfl rfl rfl
  | turn turn => exact connection.turn_accounts turn

/-- So does every run. -/
theorem run_accounts (connection : Connection κ δ) (steps : List (Step κ δ)) :
    Accounts (sent steps) connection (connection.run steps) := by
  induction steps generalizing connection with
  | nil => exact .rfl
  | cons step steps ih =>
      unfold sent
      rw [filterMap_cons_toList]
      exact (connection.step_accounts step).trans (ih (connection.step step).1)

/-! ### Requests that come in between -/

/-- A request that comes after the end is refused at once. -/
theorem send_of_ended {connection : Connection κ δ} (hended : connection.ended = true)
    (id : RequestId) (payload : String) (request : Request κ δ) :
    connection.send id payload request
      = (connection, [.completed request.owner (.error .connectionClosed)]) := by
  unfold send
  rw [if_pos hended]

/-- It makes no difference whether a request comes before or after the write of another one. -/
theorem send_turn_comm {connection : Connection κ δ} {id : RequestId} {payload : String}
    {first : Request κ δ} {queue : List (Command κ δ)} (hrunning : connection.ended = false)
    (hhead : connection.queue = .send id payload first :: queue)
    (failure : Option TransportFault) (later : RequestId) (text : String)
    (request : Request κ δ) :
    (connection.send later text request).1.turn (.command failure) =
      (((connection.turn (.command failure)).1.send later text request).1,
        (connection.turn (.command failure)).2) := by
  obtain ⟨epoch, assembly, keepalive, pending, subscriptions, commands, released, ended⟩ :=
    connection
  dsimp only at hrunning hhead
  subst hrunning hhead
  simp only [send, Connection.turn, Bool.false_eq_true, if_false, takeCommand, List.cons_append,
    transmit]
  cases pending.insertNew? id first with
  | none => rfl
  | some _ => cases failure <;> rfl

/-- A request that comes as the loop ends is told once, whether it was still queued or not. -/
theorem told_send_finish {connection : Connection κ δ} (hrunning : connection.ended = false)
    (reason : CloseReason) (id : RequestId) (payload : String) (request : Request κ δ) :
    told ((connection.send id payload request).1.finish reason).2
      ~ told ((connection.finish reason).2
          ++ ((connection.finish reason).1.send id payload request).2) := by
  have hqueuing := connection.send_accounts id payload request
  have hunheard : told (connection.send id payload request).2 = [] := by simp [send, hrunning]
  unfold Accounts at hqueuing
  rw [hunheard, List.nil_append] at hqueuing
  calc told ((connection.send id payload request).1.finish reason).2
    _ ~ (connection.send id payload request).1.outstanding := told_finish _ reason
    _ ~ [request.owner] ++ connection.outstanding := hqueuing
    _ ~ connection.outstanding ++ [request.owner] := List.perm_append_comm
    _ ~ told (connection.finish reason).2 ++ [request.owner] :=
        (connection.told_finish reason).symm.append_right _
    _ = told ((connection.finish reason).2
          ++ ((connection.finish reason).1.send id payload request).2) := by
        rw [told_append, send_of_ended rfl]
        rfl

/-! ### Exactly once -/

/-- Nobody is left to be told after the end. -/
theorem Orderly.outstanding {connection : Connection κ δ} (horderly : Orderly connection)
    (hended : connection.ended = true) : connection.outstanding = [] := by
  obtain ⟨hqueue, hpending⟩ := horderly.cleared hended
  unfold Connection.outstanding queued waiting
  rw [hqueue, hpending]
  rfl

/-- A request whose id is in use is failed, and the earlier one goes on waiting. -/
theorem turn_duplicate {connection : Connection κ δ} {id : RequestId} {payload : String}
    {request earlier : Request κ δ} {queue : List (Command κ δ)}
    (hrunning : connection.ended = false)
    (hnext : connection.queue = .send id payload request :: queue)
    (hfound : connection.pending.find? id = some earlier) (failure : Option TransportFault) :
    connection.turn (.command failure)
      = ({ connection with queue },
          [.completed request.owner (.error (.transport (.duplicate id.value)))]) := by
  unfold Connection.turn
  rw [if_neg (by simp [hrunning])]
  simp only [takeCommand, hnext, transmit, Registry.insertNew?_of_find?_eq_some hfound]

/-- After every run of a connection, whatever was handed to it, written, received, lost or
closed, and in whatever order:

* each owner was handed over as often as it is queued, waits or was told, so the owner of one
  request is in one of the three places, and was told once if it is in the last one and never
  otherwise;
* when the loop has ended, all were told, and from then on each request is failed at once;
* a request whose id waits is failed when the loop takes it, and the earlier one stays;
* a request that comes while the loop takes another one comes to the same as one that comes before
  or afterwards, and if it comes while the loop ends, it is told once on either side of the end. -/
theorem every_request_completes_once [DecidableEq κ] (epoch : Epoch) (settings : Settings)
    (steps : List (Step κ δ)) :
    let connection := ((start epoch settings).run steps).1
    let effects := ((start epoch settings).run steps).2
    (∀ owner, (sent steps).count owner
        = connection.queued.count owner + connection.waiting.count owner
          + (told effects).count owner) ∧
    (∀ owner, (sent steps).count owner = 1 →
      (owner ∈ connection.queued ∧ owner ∉ connection.waiting ∧ owner ∉ told effects) ∨
      (owner ∉ connection.queued ∧ owner ∈ connection.waiting ∧ owner ∉ told effects) ∨
      (owner ∉ connection.queued ∧ owner ∉ connection.waiting ∧
        (told effects).count owner = 1)) ∧
    (connection.ended = true →
      (∀ owner, (told effects).count owner = (sent steps).count owner) ∧
      ∀ (later : List (Step κ δ)) (id : RequestId) (payload : String) (request : Request κ δ),
        (connection.run later).1.send id payload request
          = ((connection.run later).1, [.completed request.owner (.error .connectionClosed)])) ∧
    (∀ (id : RequestId) (payload : String) (request earlier : Request κ δ)
      (queue : List (Command κ δ)) (failure : Option TransportFault),
      connection.ended = false → connection.queue = .send id payload request :: queue →
      connection.pending.find? id = some earlier →
      connection.turn (.command failure)
        = ({ connection with queue },
            [.completed request.owner (.error (.transport (.duplicate id.value)))])) ∧
    (∀ (id : RequestId) (payload : String) (request : Request κ δ), connection.ended = false →
      (∀ taken text first queue failure, connection.queue = .send taken text first :: queue →
        (connection.send id payload request).1.turn (.command failure) =
          (((connection.turn (.command failure)).1.send id payload request).1,
            (connection.turn (.command failure)).2)) ∧
      ∀ reason, told ((connection.send id payload request).1.finish reason).2
        ~ told ((connection.finish reason).2
            ++ ((connection.finish reason).1.send id payload request).2)) := by
  intro connection effects
  have hconserved : told effects ++ connection.outstanding ~ sent steps := by
    have haccounts := (start epoch settings).run_accounts steps
    unfold Accounts at haccounts
    rwa [show (start epoch settings : Connection κ δ).outstanding = [] from rfl,
      List.append_nil] at haccounts
  have hcounted : ∀ owner, (sent steps).count owner
      = connection.queued.count owner + connection.waiting.count owner
        + (told effects).count owner := by
    intro owner
    have := hconserved.count_eq owner
    simp only [outstanding, List.count_append] at this
    omega
  refine ⟨hcounted, ?_, ?_, ?_, ?_⟩
  · intro owner honce
    have htotal := hcounted owner
    rw [honce] at htotal
    simp only [← List.count_pos_iff (a := owner)]
    omega
  · intro hended
    refine ⟨?_, ?_⟩
    · have horderly : Orderly connection := (Orderly.start epoch settings).run steps
      rw [horderly.outstanding hended, List.append_nil] at hconserved
      exact hconserved.count_eq
    · intro later
      exact send_of_ended (run_ended hended later)
  · intro id payload request earlier queue failure hrunning hnext hfound
    exact turn_duplicate hrunning hnext hfound failure
  · intro id payload request hrunning
    refine ⟨?_, fun reason => told_send_finish hrunning reason id payload request⟩
    intro taken text first queue failure hnext
    exact send_turn_comm hrunning hnext failure id payload request

/-- Three requests, of which the second one repeats the id of the first. Owners are numbered as
they are handed over. -/
def sampleSteps : List (Step Nat Unit) :=
  [.send ⟨7⟩ "a" { method := "m", owner := 0 },
   .turn (.command none),
   .send ⟨7⟩ "b" { method := "m", owner := 1 },
   .send ⟨8⟩ "c" { method := "m", owner := 2 }]

/-- A duplicate, a failed write, a request queued at the end of the loop, and a late one. -/
def sampleEnd : List (Step Nat Unit) :=
  [.turn (.command none),
   .turn (.command (some (.socket "broken pipe"))),
   .send ⟨9⟩ "d" { method := "m", owner := 3 },
   .turn .closed,
   .send ⟨7⟩ "e" { method := "m", owner := 4 }]

/-- The second of the three is failed when the loop takes it, the first one waits, the third one
is queued, and in the end all were told once. A request that comes meanwhile may as well come
afterwards. -/
theorem sampleSteps_complete_once :
    let connection := ((start ⟨1⟩ {}).run sampleSteps).1
    let ended := ((start ⟨1⟩ {}).run (sampleSteps ++ sampleEnd)).1
    let late : Request Nat Unit := { method := "m", owner := 3 }
    connection.turn (.command none)
        = ({ connection with queue := [.send ⟨8⟩ "c" { method := "m", owner := 2 }] },
            [.completed 1 (.error (.transport (.duplicate 7)))]) ∧
      (0 ∉ connection.queued ∧ 0 ∈ connection.waiting) ∧
      (∀ owner, (told ((start ⟨1⟩ {}).run (sampleSteps ++ sampleEnd)).2).count owner
        = (sent (sampleSteps ++ sampleEnd)).count owner) ∧
      ended.send ⟨8⟩ "f" { method := "m", owner := 5 }
        = (ended, [.completed 5 (.error .connectionClosed)]) ∧
      (connection.send ⟨9⟩ "d" late).1.turn (.command none)
        = (((connection.turn (.command none)).1.send ⟨9⟩ "d" late).1,
            (connection.turn (.command none)).2) ∧
      told ((connection.send ⟨9⟩ "d" late).1.finish .closed).2
        ~ told ((connection.finish .closed).2
            ++ ((connection.finish .closed).1.send ⟨9⟩ "d" late).2) := by
  intro connection ended late
  obtain ⟨-, hplaces, -, hduplicate, hmeanwhile⟩ := every_request_completes_once ⟨1⟩ {} sampleSteps
  obtain ⟨-, -, hfinished, -⟩ :=
    every_request_completes_once ⟨1⟩ {} (sampleSteps ++ sampleEnd)
  obtain ⟨hcommutes, hending⟩ := hmeanwhile ⟨9⟩ "d" late rfl
  refine ⟨hduplicate ⟨7⟩ "b" { method := "m", owner := 1 } { method := "m", owner := 0 } _ none
    rfl rfl rfl, ?_, (hfinished rfl).1, (hfinished rfl).2 [] ⟨8⟩ "f" { method := "m", owner := 5 },
    hcommutes _ _ _ _ none rfl, hending .closed⟩
  rcases hplaces 0 (by decide) with ⟨hqueued, -⟩ | ⟨hunqueued, hwaits, -⟩ | ⟨-, hunheard, -⟩
  · exact absurd hqueued (by decide)
  · exact ⟨hunqueued, hwaits⟩
  · exact absurd hunheard (by decide)

end Connection

end ChainRpc.Link
