import ChainRpc.Proofs.Client.Lifecycle

/-!
# Connects that fail

While a handshake is under way, loops take their turns and requests go on their way. None of that
looks at the phase of the client or at the change that is under way, so a connect that fails leaves
the client as it would be without the connect. Only the phase may be another one: the connection in
use may have ended meanwhile, and then a connect that fails is the first to notice. Nobody can tell
the two phases apart.
-/

namespace ChainRpc.Client

open Link (Connection)
open Rpc (ResultType)

variable {β η : Type}

/-! ### What does not look at the phase -/

/-- The client in another phase, with another change under way. -/
def rephase (client : Client β η) (phase : Phase) (transition : Option Transition) :
    Client β η :=
  { client with phase, transition }

/-- The action goes on with something that has begun, or a loop takes its turn. -/
def Action.GoesOn : Action β η → Prop
  | .proceed | .number _ | .enqueue _ | .forget _ | .setHandler _ _ | .unsubscribe _ _ | .retire _
  | .turn _ _ => True
  | .beginConnect | .endConnect _ | .beginClose | .call _ _ | .subscribe _ _ => False

section Rephase

variable (client : Client β η) (phase : Phase) (transition : Option Transition)

theorem tell_rephase (ticket : Ticket) (effect : Effect β η) :
    (client.rephase phase transition).tell ticket effect
      = ((client.tell ticket effect).1.rephase phase transition,
          (client.tell ticket effect).2) := by
  unfold tell rephase
  dsimp only
  split <;> rfl

theorem opened_rephase (link : Nat) (ticket : Ticket) (unsubscribe : String)
    (event : ResultType β) (outcome : Link.Outcome) :
    (client.rephase phase transition).opened link ticket unsubscribe event outcome
      = ((client.opened link ticket unsubscribe event outcome).1.rephase phase transition,
          (client.opened link ticket unsubscribe event outcome).2) := by
  unfold opened tell rephase
  dsimp only
  cases outcome.bind subscriptionOf with
  | error error =>
      dsimp only
      split <;> rfl
  | ok id =>
      dsimp only
      split <;> rfl

theorem react_rephase (link : Nat) (effect : Link.Effect (Waiter β) Ticket) :
    (client.rephase phase transition).react link effect
      = ((client.react link effect).1.rephase phase transition,
          (client.react link effect).2) := by
  cases effect with
  | completed waiter outcome =>
      cases waiter with
      | call ticket result => exact client.tell_rephase phase transition ticket _
      | subscriber ticket unsubscribe event =>
          exact client.opened_rephase phase transition link ticket unsubscribe event outcome
      | closer ticket =>
          unfold react answered rephase
          dsimp only
          split <;> rfl
      | nobody => rfl
  | _ => rfl

theorem reactAll_rephase (link : Nat) (effects : List (Link.Effect (Waiter β) Ticket)) :
    (client.rephase phase transition).reactAll link effects
      = ((client.reactAll link effects).1.rephase phase transition,
          (client.reactAll link effects).2) := by
  induction effects generalizing client with
  | nil => rfl
  | cons effect effects ih =>
      rw [reactAll_cons, reactAll_cons, react_rephase]
      dsimp only
      rw [ih]

theorem onLink_rephase (link : Nat)
    (happen : Link.Connection (Waiter β) Ticket →
      Link.Connection (Waiter β) Ticket × List (Link.Effect (Waiter β) Ticket)) :
    (client.rephase phase transition).onLink link happen
      = ((client.onLink link happen).1.rephase phase transition,
          (client.onLink link happen).2) := by
  unfold onLink
  rw [show (client.rephase phase transition).links = client.links from rfl]
  cases client.links[link]? with
  | none => rfl
  | some connection =>
      exact (client.relink link (happen connection).1).reactAll_rephase phase transition link
        (happen connection).2

/-- What goes on is the same in any phase, except for the change itself. -/
theorem step_rephase {action : Action β η} (hgoesOn : action.GoesOn) (hother : action ≠ .proceed) :
    (client.rephase phase transition).step action
      = ((client.step action).1.rephase phase transition, (client.step action).2) := by
  cases action with
  | number ticket =>
      unfold Client.step Client.number rephase
      dsimp only
      split
      next => split <;> rfl
      next => rfl
  | enqueue ticket =>
      unfold Client.step Client.enqueue
      dsimp only
      rw [show (client.rephase phase transition).submissions = client.submissions from rfl]
      split
      next link method params waiter id _ =>
        exact onLink_rephase { client with submissions := client.submissions.erase ticket } phase
          transition link _
      next => rfl
  | forget ticket => rfl
  | setHandler handle handler =>
      unfold Client.step Client.setHandler rephase
      dsimp only
      split <;> rfl
  | unsubscribe ticket handle =>
      unfold Client.step Client.unsubscribe
      dsimp only
      rw [show (client.rephase phase transition).handles = client.handles from rfl]
      split
      next held _ =>
        rw [show (client.rephase phase transition).isActive held = client.isActive held from rfl]
        split <;> rfl
      next => rfl
  | retire ticket =>
      unfold Client.step Client.retire
      dsimp only
      rw [show (client.rephase phase transition).farewells = client.farewells from rfl]
      split <;> rfl
  | turn link turn => exact client.onLink_rephase phase transition link (·.turn turn)
  | proceed => exact absurd rfl hother
  | _ => contradiction

end Rephase

/-- A change whose handshake is under way does not go on by itself. -/
theorem Shaking.proceed {client : Client β η} (hshaking : client.Shaking) :
    client.proceed = (client, []) := by
  unfold Client.proceed
  obtain hnone | ⟨previous, hconnecting⟩ := hshaking
  · rw [hnone]
  · rw [hconnecting]

/-- During a handshake, whatever goes on leaves the connections in their places. -/
theorem Shaking.sameLinks {client : Client β η} (hshaking : client.Shaking) {action : Action β η}
    (hgoesOn : action.GoesOn) : SameLinks client (client.step action).1 := by
  by_cases hchange : action.IsChange
  · cases action with
    | proceed =>
        change SameLinks client client.proceed.1
        rw [hshaking.proceed]
        exact .of_eq rfl rfl rfl rfl rfl
    | _ => contradiction
  · exact client.sameLinks_step action hchange

theorem Shaking.sameLinks_run {client : Client β η} (hshaking : client.Shaking)
    {history : List (Action β η)} (hgoesOn : ∀ action ∈ history, action.GoesOn) :
    SameLinks client (client.run history).1 := by
  induction history generalizing client with
  | nil => exact .of_eq rfl rfl rfl rfl rfl
  | cons action history ih =>
      have hsame := hshaking.sameLinks (hgoesOn action List.mem_cons_self)
      have hstill : (client.step action).1.Shaking := by
        unfold Shaking
        rw [hsame.transition]
        exact hshaking
      exact hsame.trans (ih hstill fun other hmem => hgoesOn other (List.mem_cons_of_mem _ hmem))

/-- Whatever goes on during a handshake would go on without it. -/
theorem run_rephase {client : Client β η} (hshaking : client.Shaking) {phase : Phase}
    {transition : Option Transition} (hother : (client.rephase phase transition).Shaking)
    {history : List (Action β η)} (hgoesOn : ∀ action ∈ history, action.GoesOn) :
    (client.rephase phase transition).run history
      = ((client.run history).1.rephase phase transition, (client.run history).2) := by
  induction history generalizing client with
  | nil => rfl
  | cons action history ih =>
      have hfirst := hgoesOn action List.mem_cons_self
      have hstep : (client.rephase phase transition).step action
          = ((client.step action).1.rephase phase transition, (client.step action).2) := by
        by_cases hproceeds : action = .proceed
        · subst hproceeds
          change (client.rephase phase transition).proceed
            = (client.proceed.1.rephase phase transition, client.proceed.2)
          rw [hshaking.proceed, hother.proceed]
        · exact client.step_rephase phase transition hfirst hproceeds
      have hstill : (client.step action).1.Shaking := by
        unfold Shaking
        rw [(hshaking.sameLinks hfirst).transition]
        exact hshaking
      rw [run_cons, run_cons, hstep]
      dsimp only
      rw [ih hstill hother fun other hmem => hgoesOn other (List.mem_cons_of_mem _ hmem)]

theorem endConnect_of_idle {client : Client β η} (hidle : client.transition = none)
    (handshake : Handshake) : client.endConnect handshake = (client, []) := by
  unfold endConnect
  rw [hidle]

theorem endConnect_of_shaking {client : Client β η} {previous : Phase}
    (hshaking : client.transition = some (.connecting previous)) (handshake : Handshake) :
    client.endConnect handshake =
      match handshake.error? client.options with
      | some error => (client.failConnect previous, [.connected (.error error)])
      | none => (client.openLink, if client.active.isNone then [.connected (.ok ())] else []) := by
  unfold endConnect
  split
  next before hchanging =>
    cases hshaking.symm.trans hchanging
    rfl
  next hother => exact absurd hshaking (hother previous)

/-! ### Clients that nobody can tell apart -/

/-- The connection in use has ended. -/
def Lost (client : Client β η) : Prop :=
  ∃ place connection, client.active = some place ∧ client.links[place]? = some connection ∧
    connection.ended = true

theorem Lost.current? {client : Client β η} (hlost : client.Lost) : client.current? = none := by
  obtain ⟨place, connection, hinUse, hfound, hended⟩ := hlost
  unfold Client.current?
  split
  next => simp [hinUse, hasEnded, hfound, hended]
  next => rfl

theorem Lost.failConnect {client : Client β η} (hlost : client.Lost) (previous : Phase) :
    client.failConnect previous = client.rephase .disconnected none := by
  obtain ⟨place, connection, hinUse, hfound, hended⟩ := hlost
  unfold Client.failConnect activeLink? rephase
  simp [hinUse, hfound, hended]

theorem Lost.step {client : Client β η} (hlost : client.Lost) (hkept : AllLinks Kept client)
    {action : Action β η} (hother : ¬action.IsChange) : (client.step action).1.Lost := by
  obtain ⟨place, connection, hinUse, hfound, hended⟩ := hlost
  refine ⟨place, _, (client.sameLinks_step action hother).active.trans hinUse,
    links_step hkept hfound action, Connection.run_ended hended _⟩

/-- The same client twice, or one of the two knows already that its connection has ended. -/
inductive Twins : Client β η → Client β η → Prop where
  | same (client : Client β η) : Twins client client
  | settled (client : Client β η) (hidle : client.transition = none)
      (hready : client.phase = .ready) (hlost : client.Lost) :
      Twins (client.rephase .disconnected none) client
  | shaking (client : Client β η) (hshaking : client.transition = some (.connecting .ready))
      (hphase : client.phase = .connecting) (hlost : client.Lost) :
      Twins (client.rephase .connecting (some (.connecting .disconnected))) client

namespace Twins

variable {client twin : Client β η}

theorem state (htwins : Twins client twin) : client.state = twin.state := by
  cases htwins with
  | same => rfl
  | settled _ hidle hready hlost =>
      obtain ⟨place, connection, hinUse, hfound, hended⟩ := hlost
      unfold Client.state rephase activeLink?
      simp [hready, hinUse, hfound, hended]
  | shaking _ hshaking hphase hlost =>
      unfold Client.state rephase
      simp [hphase]

theorem current? (htwins : Twins client twin) : client.current? = twin.current? := by
  cases htwins with
  | same => rfl
  | settled _ hidle hready hlost => exact hlost.current?.symm
  | shaking _ hshaking hphase hlost => exact hlost.current?.symm

/-- While no change is under way, the phase is all that is different. -/
theorem frame (htwins : Twins client twin) (hidle : twin.transition = none) :
    client = { twin with phase := client.phase } := by
  cases htwins with
  | same => rfl
  | settled _ _ hready hlost =>
      unfold rephase
      rw [← hidle]
  | shaking _ hshaking hphase hlost =>
      rw [hidle] at hshaking
      contradiction

/-- The pair after an action that goes on with something else than the change. -/
theorem step_rephase (htwins : Twins client twin) (hkept : AllLinks Kept twin) {action : Action β η}
    (hgoesOn : action.GoesOn) (hother : ¬action.IsChange) :
    Twins (client.step action).1 (twin.step action).1 ∧
      (client.step action).2 = (twin.step action).2 := by
  have hsame := twin.sameLinks_step action hother
  have hunchanged : action ≠ .proceed := by
    rintro rfl
    exact hother trivial
  cases htwins with
  | same => exact ⟨.same _, rfl⟩
  | settled _ hidle hready hlost =>
      rw [twin.step_rephase _ _ hgoesOn hunchanged]
      exact ⟨.settled _ (hsame.transition.trans hidle) (hsame.phase.trans hready)
        (hlost.step hkept hother), rfl⟩
  | shaking _ hshaking hphase hlost =>
      rw [twin.step_rephase _ _ hgoesOn hunchanged]
      exact ⟨.shaking _ (hsame.transition.trans hshaking) (hsame.phase.trans hphase)
        (hlost.step hkept hother), rfl⟩

/-- Both refuse a caller. -/
theorem refuse (htwins : Twins client twin) (hrefused : client.current? = none) (ticket : Ticket)
    {action : Action β η}
    (hcalls : (∃ call, action = .call ticket call) ∨ ∃ call, action = .subscribe ticket call) :
    Twins (client.step action).1 (twin.step action).1 ∧
      (client.step action).2 = (twin.step action).2 := by
  obtain ⟨hcall, hsubscribe⟩ := refuses_of_current? hrefused ticket
  obtain ⟨hcall', hsubscribe'⟩ := refuses_of_current? (htwins.current? ▸ hrefused) ticket
  obtain ⟨request, rfl⟩ | ⟨request, rfl⟩ := hcalls
  · unfold Client.step
    dsimp only
    rw [hcall, hcall']
    exact ⟨htwins, rfl⟩
  · unfold Client.step
    dsimp only
    rw [hsubscribe, hsubscribe']
    exact ⟨htwins, rfl⟩

theorem step_settled (hkept : AllLinks Kept twin) (hidle : twin.transition = none)
    (hready : twin.phase = .ready) (hlost : twin.Lost) (action : Action β η) :
    Twins ((twin.rephase .disconnected none).step action).1 (twin.step action).1 ∧
      ((twin.rephase .disconnected none).step action).2 = (twin.step action).2 := by
  have htwins : Twins (twin.rephase .disconnected none) twin := .settled twin hidle hready hlost
  cases action with
  | call ticket call => exact htwins.refuse (Lost.current? hlost) ticket (.inl ⟨call, rfl⟩)
  | subscribe ticket call => exact htwins.refuse (Lost.current? hlost) ticket (.inr ⟨call, rfl⟩)
  | beginConnect =>
      have hbegins : twin.step .beginConnect =
          ({ twin with transition := some (.connecting .ready), phase := .connecting }, []) := by
        unfold Client.step beginConnect
        simp [hidle, hready]
      rw [hbegins]
      exact ⟨.shaking { twin with transition := some (.connecting .ready), phase := .connecting }
        rfl rfl hlost, rfl⟩
  | beginClose =>
      have hbegins : twin.step .beginClose =
          ({ twin with
            transition := some (.closing twin.active)
            phase := .closing
            active := none }, []) := by
        unfold Client.step beginClose
        simp [hidle, hready]
      rw [hbegins]
      exact ⟨.same _, rfl⟩
  | endConnect handshake =>
      have hstill : twin.step (.endConnect handshake) = (twin, []) :=
        endConnect_of_idle hidle handshake
      rw [hstill]
      exact ⟨htwins, rfl⟩
  | proceed =>
      rw [show twin.step .proceed = (twin, []) from Shaking.proceed (.inl hidle)]
      exact ⟨htwins, rfl⟩
  | _ => exact htwins.step_rephase hkept trivial id

theorem step_shaking (hkept : AllLinks Kept twin)
    (hshaking : twin.transition = some (.connecting .ready)) (hphase : twin.phase = .connecting)
    (hlost : twin.Lost) (action : Action β η) :
    let client := twin.rephase .connecting (some (.connecting .disconnected))
    Twins (client.step action).1 (twin.step action).1 ∧
      (client.step action).2 = (twin.step action).2 := by
  intro client
  have htwins : Twins client twin := .shaking twin hshaking hphase hlost
  have hchanging : client.transition = some (.connecting .disconnected) := rfl
  have hlost' : client.Lost := hlost
  cases action with
  | call ticket call => exact htwins.refuse (Lost.current? hlost) ticket (.inl ⟨call, rfl⟩)
  | subscribe ticket call => exact htwins.refuse (Lost.current? hlost) ticket (.inr ⟨call, rfl⟩)
  | beginConnect =>
      have hwaits : twin.step .beginConnect = (twin, []) := by
        unfold Client.step beginConnect
        simp [hshaking]
      rw [hwaits]
      exact ⟨htwins, rfl⟩
  | beginClose =>
      have hwaits : twin.step .beginClose = (twin, []) := by
        unfold Client.step beginClose
        simp [hshaking]
      rw [hwaits]
      exact ⟨htwins, rfl⟩
  | endConnect handshake =>
      change Twins (client.endConnect handshake).1 (twin.endConnect handshake).1 ∧
        (client.endConnect handshake).2 = (twin.endConnect handshake).2
      rw [endConnect_of_shaking hshaking, endConnect_of_shaking hchanging,
        show client.options = twin.options from rfl]
      cases handshake.error? twin.options with
      | none => exact ⟨.same _, rfl⟩
      | some error =>
          dsimp only
          rw [hlost.failConnect, hlost'.failConnect]
          exact ⟨.same _, rfl⟩
  | proceed =>
      rw [show twin.step .proceed = (twin, []) from Shaking.proceed (.inr ⟨_, hshaking⟩)]
      exact ⟨htwins, rfl⟩
  | _ => exact htwins.step_rephase hkept trivial id

/-- The two do the same in every action. A connect that begins hides the difference, and at its end
there is none any more; a close ends it at once. -/
theorem step (htwins : Twins client twin) (hkept : AllLinks Kept twin) (action : Action β η) :
    Twins (client.step action).1 (twin.step action).1 ∧
      (client.step action).2 = (twin.step action).2 := by
  cases htwins with
  | same => exact ⟨.same _, rfl⟩
  | settled _ hidle hready hlost => exact step_settled hkept hidle hready hlost action
  | shaking _ hshaking hphase hlost => exact step_shaking hkept hshaking hphase hlost action

theorem run (htwins : Twins client twin) (hkept : AllLinks Kept twin)
    (history : List (Action β η)) :
    Twins (client.run history).1 (twin.run history).1 ∧
      (client.run history).2 = (twin.run history).2 := by
  induction history generalizing client twin with
  | nil => exact ⟨htwins, rfl⟩
  | cons action history ih =>
      obtain ⟨hstill, hfirst⟩ := htwins.step hkept action
      obtain ⟨htwins, hlater⟩ := ih hstill (kept_step hkept action)
      exact ⟨htwins, congrArg₂ (· ++ ·) hfirst hlater⟩

end Twins

/-! ### The whole attempt -/

/-- What a connect that fails leaves behind: the client as it is without the connect, or its
twin. -/
theorem twins_failConnect {client : Client β η} (hidle : client.transition = none)
    (hcounted : Counted client) (hphased : client.Phased) (hunclosed : client.phase ≠ .closed) :
    Twins (client.failConnect client.phase) client := by
  have hrests := hphased.rests hidle
  have hsame (phase : Phase) (hown : client.phase = phase) :
      client.rephase phase none = client := by
    unfold rephase
    rw [← hown, ← hidle]
  cases hphase : client.phase with
  | closed => exact absurd hphase hunclosed
  | connecting => exact (hphase ▸ hrests : client.Rests .connecting).elim
  | closing => exact (hphase ▸ hrests : client.Rests .closing).elim
  | disconnected =>
      have hstays : client.failConnect .disconnected = client.rephase .disconnected none := by
        unfold failConnect rephase
        simp
      rw [hstays, hsame .disconnected hphase]
      exact .same client
  | ready =>
      obtain ⟨place, connection, hinUse, hfound, -⟩ := inUse_of_ready hphased hcounted hphase
      rcases Bool.eq_false_or_eq_true connection.ended with hended | hrunning
      · have hlost : client.Lost := ⟨place, connection, hinUse, hfound, hended⟩
        rw [hlost.failConnect]
        exact .settled client hidle hphase hlost
      · have hstays : client.failConnect .ready = client.rephase .ready none := by
          unfold failConnect activeLink? rephase
          simp [hinUse, hfound, hrunning]
        rw [hstays, hsame .ready hphase]
        exact .same client

theorem run_of_closed {client : Client β η} (hidle : client.transition = none)
    (hclosed : client.phase = .closed) {shaking : List (Action β η)}
    (hgoesOn : ∀ action ∈ shaking, action.GoesOn) (handshake : Handshake) :
    client.run (.beginConnect :: (shaking ++ [.endConnect handshake])) =
      ((client.run shaking).1,
        .connected (.error .connectionClosed) :: (client.run shaking).2) := by
  have hbegins : client.step .beginConnect
      = (client, [.connected (.error .connectionClosed)]) := by
    unfold Client.step beginConnect
    simp [hidle, hclosed]
  have hsettled := (Shaking.sameLinks_run (.inl hidle) hgoesOn).transition.trans hidle
  have hends : (client.run shaking).1.run [.endConnect handshake]
      = ((client.run shaking).1, []) := by
    rw [run_cons]
    change (((client.run shaking).1.endConnect handshake).1,
      ((client.run shaking).1.endConnect handshake).2 ++ []) = _
    rw [endConnect_of_idle hsettled, List.append_nil]
  rw [run_cons, hbegins, run_append, hends, List.append_nil]
  rfl

theorem run_of_failed {client : Client β η} (hidle : client.transition = none)
    (hunclosed : client.phase ≠ .closed) {shaking : List (Action β η)}
    (hgoesOn : ∀ action ∈ shaking, action.GoesOn) {handshake : Handshake} {error : Error}
    (hfailed : handshake.error? client.options = some error) :
    client.run (.beginConnect :: (shaking ++ [.endConnect handshake])) =
      ((client.run shaking).1.failConnect client.phase,
        (client.run shaking).2 ++ [.connected (.error error)]) := by
  have hbegins : client.step .beginConnect =
      (client.rephase .connecting (some (.connecting client.phase)), []) := by
    unfold Client.step beginConnect rephase
    simp [hidle, hunclosed]
  let shaken := (client.run shaking).1.rephase .connecting (some (.connecting client.phase))
  have hchanging : shaken.transition = some (.connecting client.phase) := rfl
  have hends : shaken.step (.endConnect handshake) =
      ((client.run shaking).1.failConnect client.phase, [.connected (.error error)]) := by
    refine (endConnect_of_shaking hchanging handshake).trans ?_
    rw [show shaken.options = client.options from client.options_run shaking, hfailed]
    rfl
  rw [run_cons, hbegins, run_append]
  dsimp only
  rw [run_rephase (.inl hidle) (.inr ⟨_, rfl⟩) hgoesOn, run_cons, hends]
  rfl

/-- A connect that fails is as if nobody had called it, whatever goes on during its handshake and
whatever becomes of the connection in use. It tells its own caller of the failure, and everything
else that happens during the handshake happens without it too: the same requests get the same
numbers, and the connection in use answers what it would answer. Afterwards nothing but the phase
can be different, and that cannot be told: the client shows the same state and takes calls for the
same connection, and whatever happens later has the same effects. -/
theorem failed_connect_leaves_no_trace (address : Address) (options : Options)
    (history : List (Action β η)) {client : Client β η}
    (hreached : ((fresh address options).run history).1 = client) (hidle : client.transition = none)
    {shaking : List (Action β η)} (hgoesOn : ∀ action ∈ shaking, action.GoesOn)
    (handshake : Handshake) (hfails : client.phase = .closed ∨ handshake ≠ .accepted) :
    let attempt := client.run (.beginConnect :: (shaking ++ [.endConnect handshake]))
    let without := client.run shaking
    (client.phase = .closed →
      attempt.2 = .connected (.error .connectionClosed) :: without.2) ∧
    (client.phase ≠ .closed → ∃ error, handshake.error? client.options = some error ∧
      attempt.2 = without.2 ++ [.connected (.error error)]) ∧
    attempt.1 = { without.1 with phase := attempt.1.phase } ∧
    attempt.1.state = without.1.state ∧ attempt.1.current? = without.1.current? ∧
    ∀ later, (attempt.1.run later).2 = (without.1.run later).2 ∧
      (attempt.1.run later).1.state = (without.1.run later).1.state := by
  intro attempt without
  subst hreached
  set client := ((fresh address options : Client β η).run history).1
  have hkept : AllLinks Kept client := kept_links address options history
  have hcounted : Counted client :=
    (Counted.fresh address options).run (kept_links address options []) history
  have hphased : client.Phased :=
    (Phased.fresh address options).run (kept_links address options []) history
  have hsame := Shaking.sameLinks_run (.inl hidle) hgoesOn
  have hsettled : without.1.transition = none := hsame.transition.trans hidle
  obtain ⟨htold, htold', htwins⟩ : (client.phase = .closed →
      attempt.2 = .connected (.error .connectionClosed) :: without.2) ∧
      (client.phase ≠ .closed → ∃ error, handshake.error? client.options = some error ∧
        attempt.2 = without.2 ++ [.connected (.error error)]) ∧ Twins attempt.1 without.1 := by
    by_cases hclosed : client.phase = .closed
    · have hwhole : attempt = _ := run_of_closed hidle hclosed hgoesOn handshake
      rw [hwhole]
      exact ⟨fun _ => rfl, fun hunclosed => absurd hclosed hunclosed, .same _⟩
    · obtain ⟨error, hfailed⟩ : ∃ error, handshake.error? client.options = some error := by
        cases handshake with
        | accepted => exact absurd rfl (hfails.resolve_left hclosed)
        | refused => exact ⟨_, rfl⟩
        | timedOut => exact ⟨_, rfl⟩
      have hwhole : attempt = _ := run_of_failed hidle hclosed hgoesOn hfailed
      have htwins :=
        twins_failConnect hsettled (hcounted.run hkept shaking) (hphased.run hkept shaking)
        (hsame.phase ▸ hclosed)
      rw [hsame.phase] at htwins
      rw [hwhole]
      exact ⟨fun hown => absurd hown hclosed, fun _ => ⟨error, hfailed, rfl⟩, htwins⟩
  refine ⟨htold, htold', htwins.frame hsettled, htwins.state, htwins.current?, ?_⟩
  intro later
  obtain ⟨hstill, heffects⟩ := htwins.run (kept_run hkept shaking) later
  exact ⟨heffects, hstill.state⟩

/-- The node closes the connection while a connect shakes hands in vain. The two phases are not the
same, and the client shows in both that it is disconnected. -/
theorem sampleHangUp_leaves_no_trace :
    let client := ((fresh sampleAddress {} : Client String Unit).run sampleHistory).1
    let attempt := client.run [.beginConnect, .turn 0 .closed, .endConnect .refused]
    let without := client.run [.turn 0 .closed]
    attempt.1.phase = .disconnected ∧ without.1.phase = .ready ∧
      attempt.2 = without.2 ++ [.connected (.error .webSocket)] ∧
      attempt.1.state = .disconnected ∧
      ∀ later, (attempt.1.run later).2 = (without.1.run later).2 := by
  intro client attempt without
  have hgoesOn : ∀ action ∈ [(.turn 0 .closed : Action String Unit)], action.GoesOn := by
    intro action hmem
    rw [List.mem_singleton.mp hmem]
    trivial
  obtain ⟨-, htold, -, hstate, -, hlater⟩ := failed_connect_leaves_no_trace sampleAddress {}
    sampleHistory rfl rfl hgoesOn .refused (.inr (by decide))
  obtain ⟨error, hfailed, heffects⟩ := htold (by decide)
  cases hfailed
  exact ⟨rfl, rfl, heffects, hstate, fun actions => (hlater actions).1⟩

end ChainRpc.Client
