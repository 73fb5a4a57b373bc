import ChainRpc.Proofs.Client.Messages
import ChainRpc.Proofs.Link.Endings

/-!
# The course of one connection

Whatever a client does to one of its connections is a step of that connection: its requests are
sent, its loop takes a turn, its subscriptions are forgotten, it is asked to end. So the course that
a connection takes in a history of its client is a run of the connection, and what holds of every
run holds of it.
-/

namespace ChainRpc.Client

open Link (Connection)
open Rpc (Coder)

variable {β η : Type}

/-- What an effect of a connection makes its client do to it: a subscription that nobody holds is
ended. -/
def dismissal (client : Client β η) :
    Link.Effect (Waiter β) Ticket → List (Connection.Step (Waiter β) Ticket)
  | .completed (.subscriber ticket unsubscribe _) outcome =>
      match outcome.bind subscriptionOf with
      | .ok id =>
          if client.awaited.contains ticket then []
          else
            let number := client.coder.peek
            [.unregister id,
             .send number (Coder.encode number unsubscribe [id.toJson])
              (Waiter.nobody.request unsubscribe)]
      | .error _ => []
  | .completed (.call _ _) _ | .completed (.closer _) _ | .completed .nobody _ | .registered _
  | .wrote _ | .delivered _ _ _ => []

/-- The steps of a connection in an action of its client. -/
def moves (client : Client β η) (link : Nat) :
    Action β η → List (Connection.Step (Waiter β) Ticket)
  | .proceed =>
      match client.transition with
      | some (.replacing old) => if old = link then [.shutdown .reset] else []
      | some (.closing (some old)) => if old = link then [.shutdown .closed] else []
      | _ => []
  | .enqueue ticket =>
      match client.submissions.find? ticket with
      | some { link := place, method, params, waiter, id := some id } =>
          if place = link then
            [.send id (Coder.encode id method params) (waiter.request method)]
          else []
      | _ => []
  | .retire ticket =>
      match client.farewells.find? ticket with
      | some { link := place, id, answer := some _ } =>
          if place = link then [.unregister id] else []
      | _ => []
  | .turn place turn =>
      match client.links[link]? with
      | some connection =>
          if place = link then .turn turn :: (connection.turn turn).2.flatMap client.dismissal
          else []
      | none => []
  | .beginConnect | .endConnect _ | .beginClose | .call _ _ | .subscribe _ _ | .number _
  | .forget _ | .setHandler _ _ | .unsubscribe _ _ => []

/-- The steps of a connection in a history of its client. -/
def course (client : Client β η) (link : Nat) :
    List (Action β η) → List (Connection.Step (Waiter β) Ticket)
  | [] => []
  | action :: history => client.moves link action ++ (client.step action).1.course link history

/-! ### Histories -/

theorem run_cons (client : Client β η) (action : Action β η) (history : List (Action β η)) :
    client.run (action :: history) =
      (((client.step action).1.run history).1,
        (client.step action).2 ++ ((client.step action).1.run history).2) := rfl

theorem run_append (client : Client β η) (first second : List (Action β η)) :
    client.run (first ++ second) =
      (((client.run first).1.run second).1,
        (client.run first).2 ++ ((client.run first).1.run second).2) := by
  induction first generalizing client with
  | nil => rfl
  | cons action first ih =>
      rw [List.cons_append, run_cons, ih, run_cons, List.append_assoc]

/-! ### Reactions -/

theorem links_react (client : Client β η) (link : Nat)
    (effect : Link.Effect (Waiter β) Ticket) :
    (client.react link effect).1.links
      = client.links.modify link fun connection =>
          (connection.run (client.dismissal effect)).1 := by
  have hsame : client.links = client.links.modify link fun connection =>
      (connection.run []).1 := (List.modify_id link client.links).symm
  have hreacts := client.reacts link effect
  generalize client.react link effect = next at hreacts ⊢
  cases hreacts with
  | refuses ticket unsubscribe event outcome error hunnamed
  | misses ticket unsubscribe event outcome error hunnamed =>
      rw [dismissal, hunnamed]
      exact hsame
  | opens ticket unsubscribe event outcome id hnamed hwanted =>
      rw [dismissal, hnamed]
      dsimp only
      rw [if_pos (by simpa using hwanted)]
      exact hsame
  | abandons ticket unsubscribe event outcome id hnamed hunwanted =>
      rw [dismissal, hnamed]
      dsimp only
      rw [if_neg (by simpa using hunwanted)]
      rfl
  | _ => exact hsame

theorem dismissal_quiet (client : Client β η) {effect : Link.Effect (Waiter β) Ticket}
    (hquiet : Connection.IsQuiet effect) : client.dismissal effect = [] := by
  cases effect with
  | completed waiter outcome =>
      obtain ⟨error, rfl⟩ := hquiet
      cases waiter <;> rfl
  | _ => rfl

/-- A client only forgets a subscription, and makes a call nobody waits for. -/
theorem mem_dismissal {client : Client β η} {effect : Link.Effect (Waiter β) Ticket}
    {step : Connection.Step (Waiter β) Ticket} (hmem : step ∈ client.dismissal effect) :
    (∃ id, step = .unregister id) ∨
      ∃ id payload method, step = .send id payload (Waiter.nobody.request method) := by
  unfold dismissal at hmem
  split at hmem
  next =>
    split at hmem
    next id _ =>
      split at hmem
      next => contradiction
      next =>
        rcases List.mem_cons.mp hmem with hfirst | hsecond
        · exact .inl ⟨id, hfirst⟩
        · exact .inr ⟨_, _, _, List.mem_singleton.mp hsecond⟩
    next => contradiction
  all_goals contradiction

/-! ### One action -/

/-- What makes a client let one of its connections take a step. -/
inductive Cause (client : Client β η) (place : Nat) :
    Action β η → Connection.Step (Waiter β) Ticket → Prop where
  | turn (turn : Link.Turn) : Cause client place (.turn place turn) (.turn turn)
  /-- A subscription that nobody holds is forgotten. -/
  | orphan (turn : Link.Turn) (id : Rpc.SubscriptionId) :
      Cause client place (.turn place turn) (.unregister id)
  /-- Such a subscription is ended by a call that nobody waits for. -/
  | dismiss (turn : Link.Turn) (id : Rpc.RequestId) (payload method : String) :
      Cause client place (.turn place turn) (.send id payload (Waiter.nobody.request method))
  | send (ticket : Ticket) (id : Rpc.RequestId) (payload : String) (waiter : Waiter β)
      (method : String) : Cause client place (.enqueue ticket)
        (.send id payload (waiter.request method))
  | retire (ticket : Ticket) (id : Rpc.SubscriptionId) :
      Cause client place (.retire ticket) (.unregister id)
  | reset (hchanging : client.transition = some (.replacing place)) :
      Cause client place .proceed (.shutdown .reset)
  | close (hchanging : client.transition = some (.closing (some place))) :
      Cause client place .proceed (.shutdown .closed)

/-- Every step of a connection in an action has its cause. -/
theorem cause_of_mem_moves {client : Client β η} {place : Nat} {action : Action β η}
    {step : Connection.Step (Waiter β) Ticket} (hmem : step ∈ client.moves place action) :
    Cause client place action step := by
  cases action with
  | proceed =>
      unfold moves at hmem
      dsimp only at hmem
      split at hmem
      next old hchanging =>
        split at hmem
        next hsame =>
          subst hsame
          rw [List.mem_singleton.mp hmem]
          exact .reset hchanging
        next => contradiction
      next old hchanging =>
        split at hmem
        next hsame =>
          subst hsame
          rw [List.mem_singleton.mp hmem]
          exact .close hchanging
        next => contradiction
      next => contradiction
  | enqueue ticket =>
      unfold moves at hmem
      dsimp only at hmem
      split at hmem
      next =>
        split at hmem
        next =>
          rw [List.mem_singleton.mp hmem]
          exact .send ticket _ _ _ _
        next => contradiction
      next => contradiction
  | retire ticket =>
      unfold moves at hmem
      dsimp only at hmem
      split at hmem
      next =>
        split at hmem
        next =>
          rw [List.mem_singleton.mp hmem]
          exact .retire ticket _
        next => contradiction
      next => contradiction
  | turn link turn =>
      unfold moves at hmem
      dsimp only at hmem
      split at hmem
      next connection _ =>
        split at hmem
        next hsame =>
          subst hsame
          rcases List.mem_cons.mp hmem with rfl | hlater
          · exact .turn turn
          · obtain ⟨effect, -, hmem⟩ := List.mem_flatMap.mp hlater
            obtain ⟨id, rfl⟩ | ⟨id, payload, method, rfl⟩ := mem_dismissal hmem
            · exact .orphan turn id
            · exact .dismiss turn id payload method
        next => contradiction
      next => contradiction
  | _ => contradiction

section Moves

variable {client : Client β η} {place : Nat} {connection : Connection (Waiter β) Ticket}

/-- Connections other than the one to which something happens stay as they are. -/
theorem getElem?_set_run (hfound : client.links[place]? = some connection) {link : Nat}
    {before : Connection (Waiter β) Ticket} (hthere : client.links[link]? = some before)
    {steps : List (Connection.Step (Waiter β) Ticket)} :
    (client.links.set link (before.run steps).1)[place]?
      = some (connection.run (if link = place then steps else [])).1 := by
  by_cases hsame : link = place
  · subst hsame
    obtain rfl : before = connection := Option.some.inj (hthere.symm.trans hfound)
    rw [if_pos rfl, List.getElem?_set_self (List.getElem?_eq_some_iff.mp hfound).1]
  · rw [if_neg hsame, List.getElem?_set_ne hsame, hfound]
    rfl

theorem getElem?_modify_run (hfound : client.links[place]? = some connection) (link : Nat)
    (steps : List (Connection.Step (Waiter β) Ticket)) :
    (client.links.modify link fun connection => (connection.run steps).1)[place]?
      = some (connection.run (if link = place then steps else [])).1 := by
  rw [List.getElem?_modify, hfound]
  split <;> rfl

theorem ne_of_absent (hfound : client.links[place]? = some connection) {link : Nat}
    (habsent : client.links[link]? = none) : link ≠ place := by
  rintro rfl
  rw [hfound] at habsent
  contradiction

/-- A connection takes a turn when its loop does. -/
theorem links_turn (hkept : AllLinks Kept client) (hfound : client.links[place]? = some connection)
    (link : Nat) (turn : Link.Turn) :
    (client.turn link turn).1.links[place]?
      = some (connection.run (client.moves place (.turn link turn))).1 := by
  unfold moves
  rw [hfound]
  dsimp only
  cases hthere : client.links[link]? with
  | none =>
      rw [if_neg (ne_of_absent hfound hthere)]
      unfold Client.turn onLink
      rw [hthere]
      exact hfound
  | some before =>
      -- At its own place the connection is the one whose loop takes the turn.
      have hown : (if link = place then
          .turn turn :: (connection.turn turn).2.flatMap client.dismissal else [])
          = if link = place then
              .turn turn :: (before.turn turn).2.flatMap client.dismissal else [] := by
        split
        next hsame =>
          subst hsame
          rw [Option.some.inj (hthere.symm.trans hfound)]
        next => rfl
      rw [hown]
      refine Eq.trans ?_ (getElem?_set_run hfound hthere)
      congr 1
      have hkeeps := hkept before (List.mem_of_getElem? hthere)
      obtain ⟨hrunning, bytes, rfl⟩ | hquiet := before.message_or_quiet turn
      · rw [turn_message hthere hkeeps hrunning]
        change _ = client.links.set link (((before.turn (.message bytes)).1.run _).1)
        rw [hkeeps.orderly.turn_message hrunning]
        cases before.bearing bytes with
        | answer id request outcome =>
            dsimp only
            rw [links_react, List.flatMap_singleton]
            exact modify_set client.links link _ _
        | event id registration method raw => exact (set_of_getElem? hthere).symm
        | nothing => exact (set_of_getElem? hthere).symm
      · have hstill : (before.turn turn).2.flatMap client.dismissal = [] := by
          rw [List.flatMap_eq_nil_iff]
          exact fun effect hmem => client.dismissal_quiet (hquiet effect hmem)
        obtain ⟨⟨awaited, farewells, hframe⟩, -⟩ := onLink_quiet hthere (·.turn turn) hquiet
        rw [hstill]
        exact congrArg Client.links hframe

/-- Whatever a client does to a connection is a step of it. -/
theorem links_step (hkept : AllLinks Kept client) (hfound : client.links[place]? = some connection)
    (action : Action β η) :
    (client.step action).1.links[place]?
      = some (connection.run (client.moves place action)).1 := by
  cases action with
  | beginConnect =>
      unfold Client.step beginConnect
      dsimp only
      split
      next => exact hfound
      next => split <;> exact hfound
  | endConnect handshake =>
      unfold Client.step endConnect
      dsimp only
      split
      next previous _ =>
        split
        next => exact hfound
        next =>
          have hinside := (List.getElem?_eq_some_iff.mp hfound).1
          exact (List.getElem?_append_left hinside).trans hfound
      next => exact hfound
  | beginClose =>
      unfold Client.step beginClose
      dsimp only
      split
      next => exact hfound
      next => split <;> exact hfound
  | proceed =>
      unfold Client.step proceed moves
      dsimp only
      cases client.transition with
      | none => exact hfound
      | some transition =>
          cases transition with
          | connecting previous => exact hfound
          | replacing old => exact getElem?_modify_run hfound old [.shutdown .reset]
          | draining old =>
              dsimp only
              split <;> exact hfound
          | closing old =>
              cases old with
              | none => exact hfound
              | some old => exact getElem?_modify_run hfound old [.shutdown .closed]
          | leaving old =>
              dsimp only
              split <;> exact hfound
  | call ticket call =>
      unfold Client.step Client.call
      dsimp only
      split <;> exact hfound
  | subscribe ticket call =>
      unfold Client.step Client.subscribe
      dsimp only
      split <;> exact hfound
  | number ticket =>
      unfold Client.step Client.number
      dsimp only
      split
      next => split <;> exact hfound
      next => exact hfound
  | enqueue ticket =>
      unfold Client.step Client.enqueue moves
      dsimp only
      cases client.submissions.find? ticket with
      | none => exact hfound
      | some submission =>
          obtain ⟨link, method, params, waiter, id⟩ := submission
          cases id with
          | none => exact hfound
          | some id =>
              dsimp only
              cases hthere : client.links[link]? with
              | none =>
                  rw [if_neg (ne_of_absent hfound hthere)]
                  unfold onLink
                  dsimp only
                  rw [hthere]
                  exact hfound
              | some before =>
                  let taken := { client with submissions := client.submissions.erase ticket }
                  let payload := Coder.encode id method params
                  obtain ⟨⟨awaited, farewells, hframe⟩, -⟩ :=
                    onLink_quiet (show taken.links[link]? = some before from hthere)
                      (·.send id payload (waiter.request method)) (before.send_quiet id payload _)
                  refine Eq.trans ?_ (getElem?_set_run hfound hthere)
                  exact congrArg (fun client => client.links[place]?) hframe
  | forget ticket => exact hfound
  | setHandler handle handler =>
      unfold Client.step Client.setHandler
      dsimp only
      split <;> exact hfound
  | unsubscribe ticket handle =>
      unfold Client.step Client.unsubscribe
      dsimp only
      split
      next => split <;> exact hfound
      next => exact hfound
  | retire ticket =>
      unfold Client.step Client.retire moves
      dsimp only
      cases client.farewells.find? ticket with
      | none => exact hfound
      | some farewell =>
          obtain ⟨link, id, answer⟩ := farewell
          cases answer with
          | none => exact hfound
          | some answer => exact getElem?_modify_run hfound link [.unregister id]
  | turn link turn => exact links_turn hkept hfound link turn

/-- The course of a connection is a run of it. -/
theorem links_run (hkept : AllLinks Kept client) (hfound : client.links[place]? = some connection)
    (history : List (Action β η)) :
    (client.run history).1.links[place]?
      = some (connection.run (client.course place history)).1 := by
  induction history generalizing client connection with
  | nil => exact hfound
  | cons action history ih =>
      have hkeeps := kept_step hkept action
      refine (ih hkeeps (links_step hkept hfound action)).trans ?_
      rw [course, Connection.run_append]

/-- A loop that ends in the course of a history ends in one of its turns, for one reason. -/
theorem exists_ending (hkept : AllLinks Kept client)
    (hfound : client.links[place]? = some connection) (hrunning : connection.ended = false)
    {history : List (Action β η)}
    (hstopped : (connection.run (client.course place history)).1.ended = true) :
    ∃ earlier turn later dying reason, history = earlier ++ .turn place turn :: later ∧
      (client.run earlier).1.links[place]? = some dying ∧ dying.ended = false ∧
      dying.ending? turn = some reason := by
  induction history generalizing client connection with
  | nil => exact absurd hstopped (by simp [course, Connection.run, hrunning])
  | cons action history ih =>
      rcases Bool.eq_false_or_eq_true (connection.run (client.moves place action)).1.ended
        with hended | hgoesOn
      · by_cases hturns : ∃ turn, action = .turn place turn
        · obtain ⟨turn, rfl⟩ := hturns
          cases hends : connection.ending? turn with
          | some reason =>
              exact ⟨[], turn, history, connection, reason, rfl, hfound, hrunning, hends⟩
          | none =>
              -- What the client does after the turn does not end the loop either.
              have hsteps : client.moves place (.turn place turn)
                  = .turn turn :: (connection.turn turn).2.flatMap client.dismissal := by
                unfold moves
                rw [hfound]
                exact if_pos rfl
              have hstill : (connection.run (client.moves place (.turn place turn))).1.ended
                  = false := by
                have hfirst : (connection.step (.turn turn)).1.ended = false := by
                  refine Connection.step_running hrunning ?_
                  rintro other ⟨⟩
                  exact hends
                have hrest : ∀ other,
                    .turn other ∉ (connection.turn turn).2.flatMap client.dismissal := by
                  intro other hmem
                  obtain ⟨effect, -, hmem⟩ := List.mem_flatMap.mp hmem
                  obtain ⟨id, hsame⟩ | ⟨id, payload, method, hsame⟩ := mem_dismissal hmem
                  · contradiction
                  · contradiction
                rw [hsteps]
                exact Connection.run_running hfirst hrest
              rw [hstill] at hended
              contradiction
        · have hstill : (connection.run (client.moves place action)).1.ended = false := by
            refine Connection.run_running hrunning ?_
            intro turn hmem
            cases cause_of_mem_moves hmem
            exact hturns ⟨turn, rfl⟩
          rw [hstill] at hended
          contradiction
      · rw [course, Connection.run_append] at hstopped
        obtain ⟨earlier, turn, later, dying, reason, rfl, hthere, hends⟩ :=
          ih (kept_step hkept action)
            (links_step hkept hfound action) hgoesOn hstopped
        exact ⟨action :: earlier, turn, later, dying, reason, rfl, hthere, hends⟩

end Moves

end ChainRpc.Client
