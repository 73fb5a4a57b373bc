import ChainRpc.Proofs.Client.Epochs

/-!
# Loops that end

The loop of a connection ends once, in one of its turns and for one reason. Whatever waits on the
connection or is queued there fails for that reason, and every caller who wants to know learns it.
The loop of the connection in use ends for what befalls its socket: nobody has asked it to end.
-/

namespace ChainRpc.Client

open Link (CloseReason Command Connection Frame Turn)

variable {β η : Type}

/-! ### Callers whose requests fail -/

/-- The operation that is over when a request fails. -/
def Waiter.caller? : Waiter β → Option Ticket
  | .call ticket _ | .subscriber ticket _ _ => some ticket
  | .closer _ | .nobody => none

theorem forget_other {client : Client β η} {ticket other : Ticket}
    (hwanted : ticket ∈ client.awaited) (hdifferent : other ≠ ticket) :
    ticket ∈ (client.forget other).awaited :=
  List.mem_filter.mpr ⟨hwanted, by simpa using hdifferent.symm⟩

/-- Whoever waits for another request goes on waiting when one fails. -/
theorem awaited_failed {client : Client β η} {ticket : Ticket} (hwanted : ticket ∈ client.awaited)
    (link : Nat) {waiter : Waiter β} (hother : waiter.caller? ≠ some ticket) (error : Error) :
    ticket ∈ (client.react link (.completed waiter (.error error))).1.awaited := by
  have hreacts := client.reacts link (.completed waiter (.error error))
  generalize client.react link (.completed waiter (.error error)) = next at hreacts ⊢
  cases hreacts with
  | resolves owner | refuses owner | opens owner =>
      exact forget_other hwanted fun hsame => hother (congrArg some hsame)
  | _ => exact hwanted

/-- A caller who waits learns it when the request fails. -/
theorem resolves_react {client : Client β η} {ticket : Ticket} (hwanted : ticket ∈ client.awaited)
    (link : Nat) {waiter : Waiter β} (hown : waiter.caller? = some ticket) (error : Error) :
    .resolved ticket (.error error)
      ∈ (client.react link (.completed waiter (.error error))).2 := by
  have hreacts := client.reacts link (.completed waiter (.error error))
  generalize client.react link (.completed waiter (.error error)) = next at hreacts ⊢
  cases hreacts with
  | resolves =>
      cases hown
      exact List.mem_singleton_self _
  | refuses owner unsubscribe event outcome refused hunnamed =>
      cases hown
      cases hunnamed
      exact List.mem_singleton_self _
  | lapses owner result outcome hunwanted
  | misses owner unsubscribe event outcome refused hunnamed hunwanted =>
      cases hown
      contradiction
  | _ => contradiction

/-- Every caller who waits learns the error when requests fail. -/
theorem resolves_failed {client : Client β η} {ticket : Ticket} (hwanted : ticket ∈ client.awaited)
    (link : Nat) (error : Error) {requests : List (Link.Request (Waiter β) Ticket)}
    {request : Link.Request (Waiter β) Ticket} (hmem : request ∈ requests)
    (hown : request.owner.caller? = some ticket) :
    .resolved ticket (.error error) ∈ (client.reactAll link
      (requests.map fun request => .completed request.owner (.error error))).2 := by
  induction requests generalizing client with
  | nil => contradiction
  | cons first requests ih =>
      rw [List.map_cons, reactAll_cons]
      by_cases hmine : first.owner.caller? = some ticket
      · exact List.mem_append_left _ (resolves_react hwanted link hmine error)
      · refine List.mem_append_right _ (ih (awaited_failed hwanted link hmine error) ?_)
        rcases List.mem_cons.mp hmem with rfl | hlater
        · exact absurd hown hmine
        · exact hlater

theorem reactAll_wrote (client : Client β η) (link : Nat) (frames : List Frame)
    (effects : List (Link.Effect (Waiter β) Ticket)) :
    client.reactAll link (frames.map .wrote ++ effects) =
      ((client.reactAll link effects).1,
        frames.map (.wrote link) ++ (client.reactAll link effects).2) := by
  induction frames with
  | nil => rfl
  | cons frame frames ih =>
      rw [List.map_cons, List.cons_append, reactAll_cons]
      unfold react
      dsimp only
      rw [ih]
      rfl

/-! ### How a loop ends -/

/-- The loop of a place ends in a history, in this turn and for this reason. All requests that wait
or are queued then fail for it, and the callers who want to know learn it. -/
def LoopEnds (client : Client β η) (place : Nat) (history : List (Action β η)) (turn : Turn)
    (reason : CloseReason) : Prop :=
  ∃ (earlier later : List (Action β η)) (dying : Connection (Waiter β) Ticket)
    (frames : List Frame),
    history = earlier ++ .turn place turn :: later ∧
    (client.run earlier).1.links[place]? = some dying ∧ dying.ended = false ∧
    (dying.turn turn).2 = frames.map .wrote ++
      (dying.pending.values ++ dying.queue.filterMap Command.request?).map
        (fun request => .completed request.owner (.error reason.error)) ∧
    ∀ waiter ∈ dying.outstanding, ∀ ticket, waiter.caller? = some ticket →
      ticket ∈ (client.run earlier).1.awaited →
      .resolved ticket (.error reason.error) ∈ (client.run history).2

section Endings

variable {client : Client β η} {place : Nat} {dying : Connection (Waiter β) Ticket}
  {turn : Turn} {reason : CloseReason}

/-- A turn that ends a loop does all that. -/
theorem loopEnds_of_ending {earlier : List (Action β η)}
    (hthere : (client.run earlier).1.links[place]? = some dying) (halive : dying.ended = false)
    (hends : dying.ending? turn = some reason) (later : List (Action β η)) :
    client.LoopEnds place (earlier ++ .turn place turn :: later) turn reason := by
  obtain ⟨frames, hended, -⟩ := Connection.turn_of_ending halive hends
  refine ⟨earlier, later, dying, frames, rfl, hthere, halive, ?_, ?_⟩
  · rw [hended]
    rfl
  · intro waiter hmem ticket hcaller hwanted
    obtain ⟨request, hheld, rfl⟩ : ∃ request ∈
        dying.pending.values ++ dying.queue.filterMap Command.request?,
          request.owner = waiter := by
      unfold Connection.outstanding Connection.queued Connection.waiting at hmem
      rw [← List.map_append, List.mem_map] at hmem
      obtain ⟨request, hheld, hsame⟩ := hmem
      exact ⟨request, List.mem_append.mpr (List.mem_append.mp hheld).symm, hsame⟩
    have htold : .resolved ticket (.error reason.error) ∈
        ((client.run earlier).1.turn place turn).2 := by
      unfold Client.turn onLink
      rw [hthere]
      dsimp only
      rw [hended, reactAll_wrote]
      refine List.mem_append_right _ (resolves_failed ?_ place reason.error hheld hcaller)
      exact hwanted
    rw [run_append]
    exact List.mem_append_right _ (List.mem_append_left _ htold)

/-- A connection that was opened in a history and has ended has ended in one of its turns. -/
theorem exists_ending_of_absent (hkept : AllLinks Kept client)
    (habsent : client.links[place]? = none) {history : List (Action β η)}
    {gone : Connection (Waiter β) Ticket}
    (hfound : (client.run history).1.links[place]? = some gone) (hended : gone.ended = true) :
    ∃ earlier turn later dying reason, history = earlier ++ .turn place turn :: later ∧
      (client.run earlier).1.links[place]? = some dying ∧ dying.ended = false ∧
      dying.ending? turn = some reason := by
  induction history generalizing client with
  | nil =>
      rw [show (client.run []).1.links[place]? = none from habsent] at hfound
      contradiction
  | cons action history ih =>
      have hkeeps := kept_step hkept action
      obtain ⟨earlier, turn, later, dying, reason, rfl, hthere, hends⟩ :
          ∃ earlier turn later dying reason, history = earlier ++ .turn place turn :: later ∧
            ((client.step action).1.run earlier).1.links[place]? = some dying ∧
            dying.ended = false ∧ dying.ending? turn = some reason := by
        cases hthere : (client.step action).1.links[place]? with
        | none => exact ih hkeeps hthere hfound
        | some started =>
            obtain ⟨epoch, settings, rfl⟩ := started_step habsent hthere
            have hreached := (links_run hkeeps hthere history).symm.trans hfound
            rw [Option.some.injEq] at hreached
            exact exists_ending hkeeps hthere rfl (hreached ▸ hended)
      exact ⟨action :: earlier, turn, later, dying, reason, rfl, hthere, hends⟩

/-- If the loop in use has ended, it ended for what befell its socket: nobody has asked for it. -/
theorem ended_in_use (address : Address) (options : Options) {history : List (Action β η)}
    {gone : Connection (Waiter β) Ticket}
    (hinUse : ((fresh address options : Client β η).run history).1.active = some place)
    (hfound : ((fresh address options : Client β η).run history).1.links[place]? = some gone)
    (hended : gone.ended = true) :
    ∃ turn reason, (fresh address options : Client β η).LoopEnds place history turn reason ∧
      turn.fault? = some reason := by
  have hkept : AllLinks Kept (fresh address options : Client β η) := kept_links address options []
  obtain ⟨earlier, turn, later, dying, reason, rfl, hthere, halive, hends⟩ :=
    exists_ending_of_absent hkept rfl hfound hended
  refine ⟨turn, reason, loopEnds_of_ending hthere halive hends later, ?_⟩
  have hkept' := kept_links address options earlier
  have hcounted := (Counted.fresh address options).run hkept earlier
  have hused : ((fresh address options : Client β η).run earlier).1.active = some place := by
    rw [run_append] at hinUse
    exact active_before_run hkept' hthere hinUse
  have hkeeps := hkept' dying (List.mem_of_getElem? hthere)
  refine (Connection.ending?_eq_some hkeeps.held hends).resolve_left ?_
  exact hcounted.unasked place dying hused hthere reason

end Endings

end ChainRpc.Client
