import ChainRpc.Proofs.Link.Endings

/-!
# What the end of a loop releases

A loop that ends fails whatever waits and whatever is queued, each request once and for the reason
of the end. It forgets its subscriptions without a word to the node. The end is final: from then
on requests are refused as they come, nothing waits, nothing is queued and nothing is written.
-/

namespace ChainRpc.Link

open Rpc (Epoch SubscriptionId)

variable {κ δ : Type}

/-! ### Outcomes of one owner -/

section Outcomes

variable [DecidableEq κ]

/-- The outcome that an effect tells an owner. -/
def Effect.outcome? (owner : κ) : Effect κ δ → Option Outcome
  | .completed other outcome => if other = owner then some outcome else none
  | .registered _ | .wrote _ | .delivered _ _ _ => none

/-- The outcomes that an owner is told, in their order. -/
def outcomes (owner : κ) (effects : List (Effect κ δ)) : List Outcome :=
  effects.filterMap (Effect.outcome? owner)

theorem outcomes_append (owner : κ) (first second : List (Effect κ δ)) :
    outcomes owner (first ++ second) = outcomes owner first ++ outcomes owner second :=
  List.filterMap_append

/-- An owner is told as many outcomes as it is told. -/
theorem length_outcomes (owner : κ) (effects : List (Effect κ δ)) :
    (outcomes owner effects).length = (told effects).count owner := by
  induction effects with
  | nil => rfl
  | cons effect effects ih =>
      unfold outcomes told at ih ⊢
      rw [filterMap_cons_toList, filterMap_cons_toList, List.length_append, List.count_append, ih]
      congr 1
      cases effect with
      | completed other outcome =>
          by_cases hown : other = owner <;> simp [Effect.outcome?, Effect.told?, hown]
      | _ => rfl

theorem outcomes_map_completed (owner : κ) (owners : List κ) (outcome : Outcome) :
    outcomes owner (owners.map fun other => (.completed other outcome : Effect κ δ))
      = List.replicate (owners.count owner) outcome := by
  induction owners with
  | nil => rfl
  | cons other owners ih =>
      unfold outcomes at ih ⊢
      rw [List.map_cons, filterMap_cons_toList, ih, List.count_cons]
      by_cases hown : other = owner
      · simp [Effect.outcome?, hown, List.replicate_succ]
      · simp [Effect.outcome?, hown]

end Outcomes

namespace Connection

variable {connection : Connection κ δ}

/-! ### After the end -/

/-- A connection that has ended refuses what is sent and stays as it is, but for subscriptions
that somebody registers by hand. -/
theorem step_of_ended (hended : connection.ended = true) (step : Step κ δ) :
    (∃ subscriptions released,
      (connection.step step).1 = { connection with subscriptions, released } ∧
        ∀ id registration, subscriptions.find? id = some registration →
          connection.subscriptions.find? id = some registration ∨
            step = .register id registration) ∧
      (connection.step step).2
        = step.sent?.toList.map fun owner => .completed owner (.error .connectionClosed) := by
  have hsame : ∃ subscriptions released,
      connection = { connection with subscriptions, released } ∧
        ∀ id registration, subscriptions.find? id = some registration →
          connection.subscriptions.find? id = some registration ∨
            step = .register id registration :=
    ⟨_, _, rfl, fun _ _ hfound => .inl hfound⟩
  cases step with
  | send id payload request =>
      unfold Connection.step
      dsimp only
      rw [send_of_ended hended]
      exact ⟨hsame, rfl⟩
  | shutdown reason =>
      unfold Connection.step shutdown
      dsimp only
      rw [if_pos hended]
      exact ⟨hsame, rfl⟩
  | release => exact ⟨⟨_, true, rfl, fun _ _ hfound => .inl hfound⟩, rfl⟩
  | register id registration =>
      refine ⟨⟨connection.subscriptions.insert id registration, _, rfl, ?_⟩, rfl⟩
      intro other held hfound
      rw [Registry.find?_insert] at hfound
      split at hfound
      next hown =>
        cases hfound
        exact .inr (by rw [hown])
      next => exact .inl hfound
  | unregister id =>
      refine ⟨⟨connection.subscriptions.erase id, _, rfl, ?_⟩, rfl⟩
      intro other held hfound
      rw [Registry.find?_erase] at hfound
      split at hfound
      next => contradiction
      next => exact .inl hfound
  | turn turn =>
      unfold Connection.step
      dsimp only
      rw [turn_of_ended hended]
      exact ⟨hsame, rfl⟩

/-- So it is after any number of steps. -/
theorem run_of_ended (hended : connection.ended = true) (steps : List (Step κ δ)) :
    (∃ subscriptions released,
      (connection.run steps).1 = { connection with subscriptions, released } ∧
        ∀ id registration, subscriptions.find? id = some registration →
          connection.subscriptions.find? id = some registration ∨
            .register id registration ∈ steps) ∧
      (connection.run steps).2
        = (sent steps).map fun owner => .completed owner (.error .connectionClosed) := by
  induction steps generalizing connection with
  | nil => exact ⟨⟨_, _, rfl, fun _ _ hfound => .inl hfound⟩, rfl⟩
  | cons step steps ih =>
      obtain ⟨⟨middle, released, hfirst, hheld⟩, hrefused⟩ := step_of_ended hended step
      obtain ⟨⟨last, released', hsecond, hheld'⟩, hrefused'⟩ := ih (step_ended hended step)
      refine ⟨⟨last, released', ?_, ?_⟩, ?_⟩
      · change ((connection.step step).1.run steps).1 = _
        rw [hsecond, hfirst]
      · intro id registration hfound
        rcases hheld' id registration hfound with hthere | hlater
        · rw [hfirst] at hthere
          refine (hheld id registration hthere).imp_right ?_
          rintro rfl
          exact List.mem_cons_self
        · exact .inr (List.mem_cons_of_mem _ hlater)
      · change (connection.step step).2 ++ ((connection.step step).1.run steps).2 = _
        unfold sent at hrefused' ⊢
        rw [filterMap_cons_toList, List.map_append, hrefused, hrefused']

/-! ### The end -/

/-- A turn that ends the loop ends it for a reason. -/
theorem exists_reason (hrunning : connection.ended = false) {turn : Turn}
    (hstops : (connection.turn turn).1.ended = true) :
    ∃ reason, connection.ending? turn = some reason := by
  obtain ⟨_, _, _, _, _, hframe, -⟩ | ⟨-, reason, hends, -⟩ := connection.turn_frame turn
  · rw [hframe] at hstops
    exact absurd hstops (by simp [hrunning])
  · exact ⟨reason, hends⟩

/-- The end of a loop tells each owner as often as it is outstanding, and always the same. -/
theorem outcomes_of_ending [DecidableEq κ] (hrunning : connection.ended = false) {turn : Turn}
    {reason : CloseReason} (hends : connection.ending? turn = some reason) (owner : κ) :
    outcomes owner (connection.turn turn).2
      = List.replicate (connection.outstanding.count owner) (.error reason.error) := by
  obtain ⟨frames, hsame, -⟩ := turn_of_ending hrunning hends
  have hunheard : outcomes owner (frames.map .wrote : List (Effect κ δ)) = [] := by
    unfold outcomes
    rw [List.filterMap_map]
    exact List.filterMap_eq_nil_iff.mpr fun _ _ => rfl
  have hfailed := outcomes_map_completed (δ := δ) owner
    ((connection.pending.values ++ connection.queue.filterMap Command.request?).map Request.owner)
    (.error reason.error)
  have hperm : (connection.pending.values ++ connection.queue.filterMap Command.request?).map
      Request.owner |>.Perm connection.outstanding := by
    rw [List.map_append]
    exact List.perm_append_comm
  rw [List.map_map, hperm.count_eq owner] at hfailed
  rw [hsame, outcomes_append, hunheard, List.nil_append]
  exact hfailed

/-- After the end nothing is left, whatever follows, but subscriptions registered by hand. -/
theorem Vacant.run_of_ended (hvacant : Vacant connection) (hended : connection.ended = true)
    (later : List (Step κ δ)) :
    (connection.run later).1.ended = true ∧ (connection.run later).1.pending = .empty ∧
      (connection.run later).1.queue = [] ∧
      ∀ id registration, (connection.run later).1.subscriptions.find? id = some registration →
        .register id registration ∈ later := by
  obtain ⟨⟨subscriptions, released, hframe, hheld⟩, -⟩ := Connection.run_of_ended hended later
  rw [hframe]
  refine ⟨hended, hvacant.pending, hvacant.queue, ?_⟩
  intro id registration hfound
  refine (hheld id registration hfound).resolve_left ?_
  rw [hvacant.subscriptions]
  exact fun habsent => by contradiction

/-- A request that is handed over once and is outstanding when the loop ends has one outcome in the
whole run, which is the reason of the end. -/
theorem outcomes_run_of_ending [DecidableEq κ] (epoch : Epoch) (settings : Settings)
    {steps later : List (Step κ δ)} {turn : Turn} {reason : CloseReason}
    (hrunning : ((start epoch settings).run steps).1.ended = false)
    (hends : ((start epoch settings).run steps).1.ending? turn = some reason) {owner : κ}
    (hmem : owner ∈ ((start epoch settings).run steps).1.outstanding)
    (honce : (sent (steps ++ later)).count owner = 1) :
    outcomes owner ((start epoch settings).run (steps ++ .turn turn :: later)).2
      = [.error reason.error] := by
  have haccounts := ((start epoch settings).run_accounts steps).count_eq owner
  have hfresh : (start epoch settings : Connection κ δ).outstanding = [] := rfl
  rw [hfresh, List.append_nil, List.count_append] at haccounts
  unfold sent at honce
  rw [List.filterMap_append, List.count_append] at honce
  change (sent steps).count owner + (sent later).count owner = 1 at honce
  have hheld := List.count_pos_iff.mpr hmem
  -- So the owner is neither told before the end nor handed over after it.
  have hbefore : outcomes owner ((start epoch settings).run steps).2 = [] := by
    rw [← List.length_eq_zero_iff, length_outcomes]
    omega
  have hatEnd := outcomes_of_ending hrunning hends owner
  obtain ⟨frames, hsame, -⟩ := turn_of_ending hrunning hends
  have hended : (((start epoch settings).run steps).1.turn turn).1.ended = true := by
    rw [hsame]
    rfl
  have hafter : outcomes owner
      ((((start epoch settings).run steps).1.turn turn).1.run later).2 = [] := by
    rw [(run_of_ended hended later).2, outcomes_map_completed]
    rw [show (sent later).count owner = 0 by omega]
    rfl
  have hsplit : ((start epoch settings).run (steps ++ .turn turn :: later)).2
      = ((start epoch settings).run steps).2 ++
        ((((start epoch settings).run steps).1.turn turn).2 ++
          ((((start epoch settings).run steps).1.turn turn).1.run later).2) := by
    rw [run_append]
    rfl
  rw [hsplit, outcomes_append, outcomes_append, hbefore, hatEnd, hafter]
  rw [show ((start epoch settings).run steps).1.outstanding.count owner = 1 by omega]
  rfl

/-- When the loop of a connection ends in a turn, whatever happened before:

* it ends for one reason, and all that waits or is queued fails for that reason, one effect for
  each request; a close frame at most is written, so no unsubscribe call is;
* nothing waits, nothing is registered and nothing is queued any more;
* in all that follows it has ended, nothing waits or is queued, and the only effects are the
  refusals of what is sent, one for each; nothing is registered, unless somebody does so by hand;
* a request that was handed over once and was outstanding has that one outcome in the whole run. -/
theorem end_releases_everything [DecidableEq κ] (epoch : Epoch) (settings : Settings)
    (steps : List (Step κ δ)) (turn : Turn)
    (hrunning : ((start epoch settings).run steps).1.ended = false)
    (hstops : (((start epoch settings).run steps).1.turn turn).1.ended = true) :
    let connection := ((start epoch settings).run steps).1
    let ended := (connection.turn turn).1
    ∃ (reason : CloseReason) (frames : List Frame),
      connection.ending? turn = some reason ∧
      (frames = [] ∨ ∃ code, frames = [.close code]) ∧
      (connection.turn turn).2 = frames.map .wrote ++
        (connection.pending.values ++ connection.queue.filterMap Command.request?).map
          (fun request => .completed request.owner (.error reason.error)) ∧
      (ended.pending = .empty ∧ ended.subscriptions = .empty ∧ ended.queue = []) ∧
      ∀ later : List (Step κ δ),
        ((ended.run later).1.ended = true ∧ (ended.run later).1.pending = .empty ∧
          (ended.run later).1.queue = []) ∧
        (ended.run later).2
          = (sent later).map (fun owner => .completed owner (.error .connectionClosed)) ∧
        (∀ id registration, (ended.run later).1.subscriptions.find? id = some registration →
          .register id registration ∈ later) ∧
        ((∀ id registration, .register id registration ∉ later) →
          (ended.run later).1.subscriptions = .empty) ∧
        ∀ owner ∈ connection.outstanding, (sent (steps ++ later)).count owner = 1 →
          outcomes owner ((start epoch settings).run (steps ++ .turn turn :: later)).2
            = [.error reason.error] := by
  intro connection ended
  obtain ⟨reason, hends⟩ := exists_reason hrunning hstops
  obtain ⟨frames, hsame, hclose⟩ := turn_of_ending hrunning hends
  have hvacant : Vacant ended := by
    change Vacant (connection.turn turn).1
    rw [hsame]
    exact .finish connection reason
  refine ⟨reason, frames, hends, hclose, congrArg Prod.snd hsame,
    ⟨hvacant.pending, hvacant.subscriptions, hvacant.queue⟩, ?_⟩
  intro later
  obtain ⟨hstill, hpending, hqueue, hregistered⟩ := hvacant.run_of_ended hstops later
  refine ⟨⟨hstill, hpending, hqueue⟩, (run_of_ended hstops later).2, hregistered, ?_, ?_⟩
  · intro hunregistered
    apply Registry.eq_empty_of_find?_eq_none
    intro id
    cases hfound : (ended.run later).1.subscriptions.find? id with
    | none => rfl
    | some registration => exact absurd (hregistered id registration hfound) (hunregistered _ _)
  · intro owner hmem honce
    exact outcomes_run_of_ending epoch settings hrunning hends hmem honce

/-- One request waits, one is queued behind the command to end, and a subscription is registered. -/
def sampleLast : List (Step Nat Unit) :=
  [.send ⟨0⟩ "a" { method := "m", owner := 0 }, .turn (.command none),
   .register (.number 5) ⟨"u", ()⟩, .shutdown .reset,
   .send ⟨1⟩ "b" { method := "m", owner := 1 }]

/-- The command fails both requests, and a late one is refused. -/
theorem sampleLast_released :
    let ended := (((start ⟨1⟩ {}).run sampleLast).1.turn (.command none)).1
    let late : List (Step Nat Unit) := [.send ⟨2⟩ "c" { method := "m", owner := 2 }]
    ((start ⟨1⟩ {}).run sampleLast).1.ended = false ∧ ended.ended = true ∧
      (ended.run late).1.subscriptions = .empty ∧
      outcomes 0 ((start ⟨1⟩ {}).run (sampleLast ++ .turn (.command none) :: late)).2
        = [.error .connectionReset] ∧
      outcomes 1 ((start ⟨1⟩ {}).run (sampleLast ++ .turn (.command none) :: late)).2
        = [.error .connectionReset] := by
  intro ended late
  obtain ⟨reason, frames, hends, -, -, -, hafter⟩ :=
    end_releases_everything ⟨1⟩ {} sampleLast (.command none) rfl rfl
  obtain rfl : .reset = reason := Option.some.inj hends
  obtain ⟨-, -, -, hempty, houtcome⟩ := hafter late
  refine ⟨rfl, rfl, hempty (by simp [late]), ?_, ?_⟩
  · exact houtcome 0 (by decide) (by decide)
  · exact houtcome 1 (by decide) (by decide)

end Connection

end ChainRpc.Link
