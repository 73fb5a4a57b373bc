import ChainRpc.Proofs.Client.Handover
import ChainRpc.Proofs.Client.Steps

/-!
# The life of a client

Connects and closes come one after the other, and what a client shows of itself fits the one that is
under way. A client that is open has a connection of its own epoch, a disconnected one has none that
runs, and a closed one has none at all. While no connect and no close is under way, one connection
runs at most. So a client takes calls exactly when it shows that it is open.
-/

namespace ChainRpc.Client

open Link (Connection)
open Rpc (Call SubscribeCall)

variable {β η : Type}

/-! ### One change after the other -/

/-- The changes that begin in a history, in their order. -/
def begun (client : Client β η) : List (Action β η) → List Change
  | [] => []
  | action :: history => (client.begins? action).toList ++ (client.step action).1.begun history

/-- The change that an effect is the end of. -/
def Effect.ends? : Effect β η → Option Change
  | .connected _ => some .connect
  | .closed => some .close
  | .wrote _ _ | .resolved _ _ | .subscribed _ _ | .unsubscribed _ _ | .event _ _ _
  | .notified => none

/-- The changes that have come to an end, in their order. -/
def finished (effects : List (Effect β η)) : List Change := effects.filterMap Effect.ends?

theorem finished_append (earlier later : List (Effect β η)) :
    finished (earlier ++ later) = finished earlier ++ finished later :=
  List.filterMap_append

/-- The effect is the end of a connect that succeeded. -/
def Effect.isSuccess : Effect β η → Bool
  | .connected (.ok _) => true
  | .connected (.error _) | .wrote _ _ | .resolved _ _ | .subscribed _ _ | .unsubscribed _ _
  | .event _ _ _ | .closed | .notified => false

/-- A connect has opened its connection and waits for the end of the old one. -/
def Transition.handsOver : Transition → Bool
  | .replacing _ | .draining _ => true
  | .connecting _ | .closing _ | .leaving _ => false

/-- How many connects have opened their connection and are still under way. -/
def unfinished (client : Client β η) : Nat :=
  if client.transition.any Transition.handsOver then 1 else 0

/-- Only a step of a connect or a close is news of one. -/
theorem step_no_milestone (client : Client β η) {action : Action β η} (hother : ¬action.IsChange) :
    ∀ told ∈ (client.step action).2, ¬told.IsMilestone := by
  have hstepped := client.stepped action
  generalize client.step action = next at hstepped ⊢
  cases hstepped with
  | sends ticket submission id _ _ => exact onLink_no_milestone _ submission.link _
  | turns link turn => exact client.onLink_no_milestone link (·.turn turn)
  | _ => first | exact absurd trivial hother | simp [Effect.IsMilestone]

theorem finished_of_no_milestone {effects : List (Effect β η)}
    (hquiet : ∀ told ∈ effects, ¬told.IsMilestone) : finished effects = [] := by
  apply List.filterMap_eq_nil_iff.mpr
  intro told hmem
  cases told with
  | connected result => exact absurd trivial (hquiet _ hmem)
  | closed => exact absurd trivial (hquiet _ hmem)
  | _ => rfl

theorem countP_isSuccess_of_no_milestone {effects : List (Effect β η)}
    (hquiet : ∀ told ∈ effects, ¬told.IsMilestone) : effects.countP Effect.isSuccess = 0 := by
  apply List.countP_eq_zero.mpr
  intro told hmem
  cases told with
  | connected result => exact absurd trivial (hquiet _ hmem)
  | _ => simp [Effect.isSuccess]

theorem begins?_of_other (client : Client β η) {action : Action β η} (hother : ¬action.IsChange) :
    client.begins? action = none := by
  cases action with
  | beginConnect => exact absurd trivial hother
  | beginClose => exact absurd trivial hother
  | _ => rfl

/-- A change that was under way or begins has come to its end, or it is under way still. -/
theorem begun_step (client : Client β η) (action : Action β η) :
    client.change?.toList ++ (client.begins? action).toList
      = finished (client.step action).2 ++ (client.step action).1.change?.toList := by
  by_cases hchange : action.IsChange
  · have hstepped := client.stepped action
    generalize client.step action = next at hstepped ⊢
    unfold change?
    cases hstepped with
    | idle _ hnothing _ =>
        rw [hnothing]
        exact List.append_nil _
    | forbids hsettled hclosed =>
        unfold begins?
        rw [hsettled]
        rfl
    | shakes hsettled hunclosed =>
        unfold begins?
        rw [hsettled]
        rfl
    | fails handshake previous error hshaking hfailed =>
        rw [hshaking]
        rfl
    | opens previous hshaking =>
        unfold openLink
        rw [hshaking]
        cases client.active <;> rfl
    | agrees hsettled hclosed =>
        unfold begins?
        rw [hsettled]
        rfl
    | withdraws hsettled hunclosed =>
        unfold begins?
        rw [hsettled]
        rfl
    | resets old hreplacing =>
        rw [hreplacing]
        rfl
    | drains old hdraining hended =>
        rw [hdraining]
        rfl
    | closes old hclosing =>
        rw [hclosing]
        rfl
    | leaves old hleaving hended =>
        rw [hleaving]
        cases client.options.notifiesClose <;> rfl
    | _ => contradiction
  · have hsame := (client.sameLinks_step action hchange).transition
    rw [client.begins?_of_other hchange,
      finished_of_no_milestone (client.step_no_milestone hchange),
      change?, change?, hsame]
    exact List.append_nil _

/-- Changes come to an end in the order in which they begin, and one of them is under way at
most. -/
theorem begun_run (client : Client β η) (history : List (Action β η)) :
    client.change?.toList ++ client.begun history
      = finished (client.run history).2 ++ (client.run history).1.change?.toList := by
  induction history generalizing client with
  | nil => exact List.append_nil _
  | cons action history ih =>
      rw [begun, ← List.append_assoc, begun_step, run_cons]
      dsimp only
      rw [finished_append, List.append_assoc, List.append_assoc, ih (client.step action).1]

/-! ### Options -/

theorem options_onLink (client : Client β η) (link : Nat)
    (happen : Connection (Waiter β) Ticket →
      Connection (Waiter β) Ticket × List (Link.Effect (Waiter β) Ticket)) :
    (client.onLink link happen).1.options = client.options := by
  apply onLink_eq Client.options (fun _ _ => rfl)
  intro client effect
  obtain ⟨coder, links, awaited, handles, farewells, hframe⟩ := client.react_frame link effect
  rw [hframe]

/-- The options of a client stay as they are. -/
theorem options_step (client : Client β η) (action : Action β η) :
    (client.step action).1.options = client.options := by
  have hstepped := client.stepped action
  generalize client.step action = next at hstepped ⊢
  cases hstepped with
  | sends ticket submission id _ _ => exact options_onLink _ submission.link _
  | turns link turn => exact client.options_onLink link (·.turn turn)
  | closes old _ => cases old <;> rfl
  | _ => rfl

theorem options_run (client : Client β η) (history : List (Action β η)) :
    (client.run history).1.options = client.options := by
  induction history generalizing client with
  | nil => rfl
  | cons action history ih => exact (ih _).trans (client.options_step action)

/-! ### The number of the epoch -/

/-- An epoch begins with each connect that succeeds, some time before the connect comes to its
end. -/
theorem epoch_step (client : Client β η) (action : Action β η) :
    (client.step action).1.epoch.number + client.unfinished
      = client.epoch.number + (client.step action).2.countP Effect.isSuccess
        + (client.step action).1.unfinished := by
  by_cases hchange : action.IsChange
  · have hstepped := client.stepped action
    generalize client.step action = next at hstepped ⊢
    unfold unfinished
    cases hstepped with
    | idle _ hnothing _ => rfl
    | forbids hsettled hclosed => rfl
    | shakes hsettled hunclosed =>
        rw [hsettled]
        rfl
    | fails handshake previous error hshaking hfailed =>
        rw [hshaking]
        rfl
    | opens previous hshaking =>
        unfold openLink
        rw [hshaking]
        cases client.active <;> rfl
    | agrees hsettled hclosed => rfl
    | withdraws hsettled hunclosed =>
        rw [hsettled]
        rfl
    | resets old hreplacing =>
        rw [hreplacing]
        rfl
    | drains old hdraining hended =>
        rw [hdraining]
        rfl
    | closes old hclosing =>
        rw [hclosing]
        cases old <;> rfl
    | leaves old hleaving hended =>
        rw [hleaving]
        cases client.options.notifiesClose <;> rfl
    | _ => contradiction
  · have hsame := client.sameLinks_step action hchange
    rw [countP_isSuccess_of_no_milestone (client.step_no_milestone hchange), unfinished, unfinished,
      hsame.transition, hsame.epoch, Nat.add_zero]

theorem epoch_run (client : Client β η) (history : List (Action β η)) :
    (client.run history).1.epoch.number + client.unfinished
      = client.epoch.number + (client.run history).2.countP Effect.isSuccess
        + (client.run history).1.unfinished := by
  induction history generalizing client with
  | nil => rfl
  | cons action history ih =>
      have hfirst := client.epoch_step action
      have hlater := ih (client.step action).1
      rw [run_cons, List.countP_append]
      dsimp only
      omega

/-! ### Phases -/

/-- What a phase says about the connection in use while no change is under way. -/
def Rests (client : Client β η) : Phase → Prop
  | .ready => client.active.isSome = true
  | .disconnected => ∀ place, client.active = some place → client.hasEnded place = true
  | .closed => client.active = none
  | .connecting | .closing => False

/-- The phase of a client fits the change that is under way. -/
def Phased (client : Client β η) : Prop :=
  match client.transition with
  | none => client.Rests client.phase
  | some (.connecting previous) =>
      client.phase = .connecting ∧ previous ≠ .closed ∧ client.Rests previous
  | some (.replacing _) | some (.draining _) =>
      client.phase = .ready ∧ client.active.isSome = true
  | some (.closing _) | some (.leaving _) => client.phase = .closing ∧ client.active = none

/-- What a phase says about a client at any time. -/
def Shows (client : Client β η) : Phase → Prop
  | .ready => client.active.isSome = true
  | .disconnected =>
      client.transition = none ∧ ∀ place, client.active = some place → client.hasEnded place = true
  | .closed => client.transition = none ∧ client.active = none
  | .connecting => client.change? = some .connect
  | .closing => client.change? = some .close

theorem Rests.of_same {client after : Client β η} {phase : Phase} (hrests : client.Rests phase)
    (hactive : after.active = client.active)
    (hended : ∀ place, client.hasEnded place = true → after.hasEnded place = true) :
    after.Rests phase := by
  cases phase with
  | ready => exact (congrArg Option.isSome hactive).trans hrests
  | disconnected => exact fun place hinUse => hended place (hrests place (hactive ▸ hinUse))
  | closed => exact hactive.trans hrests
  | connecting => exact hrests
  | closing => exact hrests

/-- A connection that has ended has ended for good, unless another one takes its place. -/
theorem hasEnded_of_count {client : Client β η} (hkept : AllLinks Kept client) {action : Action β η}
    (hcount : (client.step action).1.links.length = client.links.length) (place : Nat)
    (hended : client.hasEnded place = true) : (client.step action).1.hasEnded place = true := by
  cases hfound : client.links[place]? with
  | some connection => exact hasEnded_step hkept hfound hended action
  | none =>
      have houtside := List.getElem?_eq_none_iff.mp hfound
      unfold hasEnded
      rw [List.getElem?_eq_none (hcount ▸ houtside)]
      rfl

namespace Phased

variable {client : Client β η}

theorem fresh (address : Address) (options : Options) :
    (Client.fresh address options : Client β η).Phased := by
  intro place hinUse
  contradiction

/-- A connect that fails leaves the client in a phase that fits its connection, whatever became of
that during the handshake. -/
theorem failConnect {previous : Phase} (hrests : client.Rests previous) :
    (client.failConnect previous).Phased := by
  change (client.failConnect previous).Rests (client.failConnect previous).phase
  unfold Client.failConnect
  dsimp only
  split
  next => exact hrests.of_same rfl fun _ hended => hended
  next hstopped =>
    intro place hinUse
    change client.hasEnded place = true
    unfold activeLink? at hstopped
    unfold hasEnded
    rw [show client.active = some place from hinUse, Option.bind_some] at hstopped
    cases hfound : client.links[place]? with
    | none => rfl
    | some connection =>
        rw [hfound] at hstopped
        simpa using hstopped

theorem step (hphased : client.Phased) (hkept : AllLinks Kept client) (action : Action β η) :
    (client.step action).1.Phased := by
  by_cases hchange : action.IsChange
  · have hstepped := client.stepped action
    generalize client.step action = next at hstepped ⊢
    unfold Phased at hphased
    cases hstepped with
    | idle _ _ _ => exact hphased
    | forbids _ _ => exact hphased
    | shakes hsettled hunclosed =>
        rw [hsettled] at hphased
        exact ⟨rfl, hunclosed, hphased.of_same rfl fun _ hended => hended⟩
    | fails handshake previous error hshaking hfailed =>
        rw [hshaking] at hphased
        exact failConnect hphased.2.2
    | opens previous hshaking =>
        unfold Phased openLink
        cases client.active with
        | none => exact rfl
        | some old => exact ⟨rfl, rfl⟩
    | agrees _ _ => exact hphased
    | withdraws hsettled hunclosed => exact ⟨rfl, rfl⟩
    | resets old hreplacing =>
        rw [hreplacing] at hphased
        exact hphased
    | drains old hdraining hended =>
        rw [hdraining] at hphased
        change Rests _ client.phase
        rw [hphased.1]
        exact hphased.2
    | closes old hclosing =>
        rw [hclosing] at hphased
        cases old <;> exact hphased
    | leaves old hleaving hended =>
        rw [hleaving] at hphased
        exact hphased.2
    | _ => contradiction
  · have hsame := client.sameLinks_step action hchange
    have hstill (phase : Phase) (hrests : client.Rests phase) :
        (client.step action).1.Rests phase :=
      hrests.of_same hsame.active (hasEnded_of_count hkept hsame.count)
    unfold Phased at hphased ⊢
    rw [hsame.transition, hsame.phase, hsame.active]
    cases hchanging : client.transition with
    | none =>
        rw [hchanging] at hphased
        exact hstill _ hphased
    | some transition =>
        rw [hchanging] at hphased
        cases transition with
        | connecting previous => exact ⟨hphased.1, hphased.2.1, hstill _ hphased.2.2⟩
        | _ => exact hphased

theorem run (hphased : client.Phased) (hkept : AllLinks Kept client) (history : List (Action β η)) :
    (client.run history).1.Phased := by
  induction history generalizing client with
  | nil => exact hphased
  | cons action history ih => exact ih (hphased.step hkept action) (kept_step hkept action)

/-- A client in rest is in a phase that fits its connection. -/
theorem rests (hphased : client.Phased) (hsettled : client.transition = none) :
    client.Rests client.phase := by
  unfold Phased at hphased
  rw [hsettled] at hphased
  exact hphased

/-- So the phase alone tells something about the connection and the change. -/
theorem shows (hphased : client.Phased) : client.Shows client.phase := by
  cases hchanging : client.transition with
  | none =>
      have hrests := hphased.rests hchanging
      revert hrests
      cases client.phase with
      | disconnected => exact fun hrests => ⟨hchanging, hrests⟩
      | ready => exact id
      | closed => exact fun hrests => ⟨hchanging, hrests⟩
      | connecting => exact False.elim
      | closing => exact False.elim
  | some transition =>
      have hunder : client.change? = some transition.change :=
        congrArg (Option.map Transition.change) hchanging
      unfold Phased at hphased
      rw [hchanging] at hphased
      cases transition with
      | connecting previous => exact hphased.1 ▸ hunder
      | replacing old => exact hphased.1 ▸ hphased.2
      | draining old => exact hphased.1 ▸ hphased.2
      | closing old => exact hphased.1 ▸ hunder
      | leaving old => exact hphased.1 ▸ hunder

/-- A client with a connection is not closed. -/
theorem not_closed (hphased : client.Phased) {place : Nat} (hinUse : client.active = some place) :
    client.phase ≠ .closed := by
  intro hclosed
  have hshows := hphased.shows
  rw [hclosed] at hshows
  rw [hshows.2] at hinUse
  contradiction

end Phased

/-! ### Connections that run -/

/-- The connection that a change has to end. -/
def Transition.old? : Transition → Option Nat
  | .connecting _ => none
  | .replacing old | .draining old => some old
  | .closing old | .leaving old => old

/-- Every connection that runs is in use, or the change that is under way has to end it. -/
def NoneStray (client : Client β η) : Prop :=
  ∀ place, client.hasEnded place = false →
    client.active = some place ∨ client.transition.bind Transition.old? = some place

theorem hasEnded_shutDown (client : Client β η) (link : Option Nat) (reason : Link.CloseReason)
    (place : Nat) : (client.shutDown link reason).hasEnded place = client.hasEnded place := by
  cases link with
  | none => rfl
  | some link =>
      unfold hasEnded shutDown modifyLink
      dsimp only
      rw [List.getElem?_modify]
      split
      next =>
        cases client.links[place]? with
        | none => rfl
        | some connection =>
            change (connection.shutdown reason).ended = connection.ended
            unfold Connection.shutdown
            split <;> rfl
      next => exact congrArg (Option.all _) (Option.map_id_apply ..)

theorem hasEnded_openLink (client : Client β η) {place : Nat}
    (hother : place ≠ client.links.length) :
    client.openLink.hasEnded place = client.hasEnded place := by
  unfold hasEnded openLink
  dsimp only
  rcases Nat.lt_or_gt_of_ne hother with hinside | houtside
  · rw [List.getElem?_append_left hinside]
  · rw [List.getElem?_eq_none (Nat.le_of_lt houtside), List.getElem?_eq_none]
    simpa using Nat.succ_le_of_lt houtside

namespace NoneStray

variable {client : Client β η}

theorem fresh (address : Address) (options : Options) :
    (Client.fresh address options : Client β η).NoneStray := by
  intro place hrunning
  contradiction

theorem step (hgoverned : client.NoneStray) (hkept : AllLinks Kept client) (action : Action β η) :
    (client.step action).1.NoneStray := by
  by_cases hchange : action.IsChange
  · have hstepped := client.stepped action
    generalize client.step action = next at hstepped ⊢
    cases hstepped with
    | idle _ _ _ => exact hgoverned
    | forbids _ _ => exact hgoverned
    | shakes hsettled hunclosed =>
        intro place hrunning
        have hinUse := hgoverned place hrunning
        rw [hsettled] at hinUse
        exact hinUse
    | fails handshake previous error hshaking hfailed =>
        intro place hrunning
        have hinUse := hgoverned place hrunning
        rw [hshaking] at hinUse
        exact hinUse
    | opens previous hshaking =>
        intro place hrunning
        by_cases hnewest : place = client.links.length
        · exact .inl (congrArg some hnewest.symm)
        · -- The connection that was in use until now is the old one.
          rw [client.hasEnded_openLink hnewest] at hrunning
          have hinUse := hgoverned place hrunning
          rw [hshaking] at hinUse
          have hinUse := hinUse.resolve_right (by simp [Transition.old?])
          right
          unfold openLink
          dsimp only
          rw [hinUse]
          rfl
    | agrees _ _ => exact hgoverned
    | withdraws hsettled hunclosed =>
        intro place hrunning
        have hinUse := hgoverned place hrunning
        rw [hsettled] at hinUse
        exact .inr (hinUse.resolve_right (by simp))
    | resets old hreplacing =>
        intro place hrunning
        have hinUse := hgoverned place (client.hasEnded_shutDown (some old) .reset place ▸ hrunning)
        rw [hreplacing] at hinUse
        exact hinUse
    | drains old hdraining hended =>
        intro place hrunning
        have hinUse := hgoverned place hrunning
        rw [hdraining] at hinUse
        refine .inl (hinUse.resolve_right ?_)
        rintro ⟨⟩
        exact absurd (hrunning.symm.trans hended) (by decide)
    | closes old hclosing =>
        intro place hrunning
        have hinUse := hgoverned place (client.hasEnded_shutDown old .closed place ▸ hrunning)
        rw [hclosing] at hinUse
        cases old <;> exact hinUse
    | leaves old hleaving hended =>
        intro place hrunning
        have hinUse := hgoverned place hrunning
        rw [hleaving] at hinUse
        refine .inl (hinUse.resolve_right ?_)
        rintro hsame
        rw [show old = some place from hsame] at hended
        exact absurd (hrunning.symm.trans hended) (by decide)
    | _ => contradiction
  · have hsame := client.sameLinks_step action hchange
    intro place hrunning
    rw [hsame.active, hsame.transition]
    apply hgoverned place
    by_contra hended
    have hended := hasEnded_of_count hkept hsame.count place (by simpa using hended)
    exact absurd (hrunning.symm.trans hended) (by decide)

theorem run (hgoverned : client.NoneStray) (hkept : AllLinks Kept client)
    (history : List (Action β η)) : (client.run history).1.NoneStray := by
  induction history generalizing client with
  | nil => exact hgoverned
  | cons action history ih => exact ih (hgoverned.step hkept action) (kept_step hkept action)

end NoneStray

/-! ### Callers -/

/-- A client that shows that it is open has a connection of its own epoch, which runs. -/
theorem inUse_of_ready {client : Client β η} (hphased : client.Phased) (hcounted : Counted client)
    (hready : client.phase = .ready) :
    ∃ place connection, client.active = some place ∧ client.links[place]? = some connection ∧
      connection.epoch = client.epoch := by
  have hshows := hphased.shows
  rw [hready] at hshows
  obtain ⟨place, hinUse⟩ := Option.isSome_iff_exists.mp hshows
  have hnewest := hcounted.newest place hinUse
  obtain ⟨connection, hfound⟩ : ∃ connection, client.links[place]? = some connection :=
    ⟨_, List.getElem?_eq_getElem (by omega)⟩
  refine ⟨place, connection, hinUse, hfound, ?_⟩
  have hnumber := hcounted.places place connection hfound
  have hepoch := hcounted.epoch
  cases hown : connection.epoch
  cases hits : client.epoch
  rw [hown] at hnumber
  rw [hits] at hepoch
  congr 1
  dsimp only at hnumber hepoch
  omega

theorem running_of_state {client : Client β η} (hshown : client.state = .ready) {place : Nat}
    {connection : Connection (Waiter β) Ticket} (hinUse : client.active = some place)
    (hfound : client.links[place]? = some connection) : connection.ended = false := by
  unfold state activeLink? at hshown
  rw [hinUse, Option.bind_some, hfound, Option.any_some] at hshown
  split at hshown
  next => contradiction
  next hrunning => simpa [hshown] using hrunning

theorem ready_of_state {client : Client β η} (hshown : client.state = .ready) :
    client.phase = .ready := by
  unfold state at hshown
  split at hshown
  next => contradiction
  next => exact hshown

theorem current?_of_running {client : Client β η} (hready : client.phase = .ready) {place : Nat}
    {connection : Connection (Waiter β) Ticket} (hinUse : client.active = some place)
    (hfound : client.links[place]? = some connection) (hrunning : connection.ended = false) :
    client.current? = some place := by
  unfold current?
  rw [if_pos hready, hinUse, Option.filter_some, if_pos]
  unfold hasEnded
  rw [hfound, Option.all_some, hrunning]
  rfl

/-- A client that does not show that it is open takes no calls. -/
theorem current?_of_state {client : Client β η} (hshown : client.state ≠ .ready) :
    client.current? = none := by
  unfold current?
  split
  next hready =>
    apply Option.filter_eq_none_iff.mpr
    intro place hinUse
    unfold state activeLink? at hshown
    rw [hinUse, Option.bind_some, hready] at hshown
    unfold hasEnded
    cases hfound : client.links[place]? with
    | none => simp
    | some connection => simpa [hfound] using hshown
  next => rfl

theorem call_of_current? {client : Client β η} {place : Nat}
    (hcurrent : client.current? = some place) (ticket : Ticket) (call : Call β) :
    client.call ticket call =
      (client.submit ticket
        { link := place, method := call.method, params := call.params
          waiter := .call ticket call.result }, []) := by
  unfold Client.call
  rw [hcurrent]

theorem subscribe_of_current? {client : Client β η} {place : Nat}
    (hcurrent : client.current? = some place) (ticket : Ticket) (call : SubscribeCall β) :
    client.subscribe ticket call =
      (client.submit ticket
        { link := place, method := call.method, params := call.params
          waiter := .subscriber ticket call.unsubscribe call.event }, []) := by
  unfold Client.subscribe
  rw [hcurrent]

/-- A client that takes no calls tells so at once, and nothing of it changes. -/
theorem refuses_of_current? {client : Client β η} (hnone : client.current? = none)
    (ticket : Ticket) :
    (∀ call, client.call ticket call = (client, [.resolved ticket (.error .notConnected)])) ∧
      ∀ call, client.subscribe ticket call
        = (client, [.resolved ticket (.error .notConnected)]) := by
  unfold Client.call Client.subscribe
  rw [hnone]
  exact ⟨fun _ => rfl, fun _ => rfl⟩

/-! ### At any time -/

/-- Whatever has happened to a client, what it shows of itself is true.

* Connects and closes come to an end in the order in which they begin, and one of them is under
  way at most. The epoch counts the connects that succeeded, one of which may still wait for the end
  of the old connection.
* An open client has a connection of its own epoch, one that is disconnected has none or one that
  has ended, and a closed one has none. While the client shows that it is connecting or closing, a
  connect or a close is under way; while none is, one connection runs at most.
* If it shows that it is open, it takes calls and subscriptions for the connection of its epoch,
  which runs. Otherwise it tells every caller that it is not connected, and nothing of it changes:
  no number is taken and nothing is queued. -/
theorem lifecycle_invariant (address : Address) (options : Options)
    (history : List (Action β η)) :
    let client := ((fresh address options : Client β η).run history).1
    let effects := ((fresh address options : Client β η).run history).2
    (fresh address options).begun history = finished effects ++ client.change?.toList ∧
    client.epoch.number = effects.countP Effect.isSuccess + client.unfinished ∧
    (client.change? = none → client.epoch.number = effects.countP Effect.isSuccess) ∧
    (client.phase = .ready → ∃ place connection, client.active = some place ∧
      client.links[place]? = some connection ∧ connection.epoch = client.epoch) ∧
    (client.phase = .disconnected → client.active = none ∨ ∃ place connection,
      client.active = some place ∧ client.links[place]? = some connection ∧
        connection.ended = true) ∧
    (client.phase = .closed → client.active = none) ∧
    (client.phase = .connecting → client.change? = some .connect) ∧
    (client.phase = .closing → client.change? = some .close) ∧
    (client.change? = none → ∀ first second,
      client.hasEnded first = false → client.hasEnded second = false → first = second) ∧
    (client.state = .ready → ∃ place connection, client.links[place]? = some connection ∧
      connection.ended = false ∧ connection.epoch = client.epoch ∧ ∀ ticket,
        (∀ call, client.call ticket call =
          (client.submit ticket
            { link := place, method := call.method, params := call.params
              waiter := .call ticket call.result }, [])) ∧
        ∀ call, client.subscribe ticket call =
          (client.submit ticket
            { link := place, method := call.method, params := call.params
              waiter := .subscriber ticket call.unsubscribe call.event }, [])) ∧
    (client.state ≠ .ready → ∀ ticket,
      (∀ call, client.call ticket call = (client, [.resolved ticket (.error .notConnected)])) ∧
        ∀ call, client.subscribe ticket call
          = (client, [.resolved ticket (.error .notConnected)])) := by
  intro client effects
  have hkept := kept_links address options ([] : List (Action β η))
  have hcounted : Counted client := (Counted.fresh address options).run hkept history
  have hphased : client.Phased := (Phased.fresh address options).run hkept history
  have hgoverned : client.NoneStray := (NoneStray.fresh address options).run hkept history
  have hshows := hphased.shows
  have hepoch : client.epoch.number + 0 = 0 + effects.countP Effect.isSuccess + client.unfinished :=
    (fresh address options).epoch_run history
  rw [Nat.add_zero, Nat.zero_add] at hepoch
  refine ⟨?_, hepoch, ?_, inUse_of_ready hphased hcounted, ?_, ?_, ?_, ?_, ?_, ?_, ?_⟩
  · exact (fresh address options).begun_run history
  · intro hsettled
    have hnone : client.unfinished = 0 := by
      unfold unfinished
      rw [Option.map_eq_none_iff.mp hsettled]
      rfl
    rw [hepoch, hnone, Nat.add_zero]
  · intro hlost
    rw [hlost] at hshows
    cases hinUse : client.active with
    | none => exact .inl rfl
    | some place =>
        have hnewest := hcounted.newest place hinUse
        obtain ⟨connection, hfound⟩ : ∃ connection, client.links[place]? = some connection :=
          ⟨_, List.getElem?_eq_getElem (by omega)⟩
        have hended := hshows.2 place hinUse
        unfold hasEnded at hended
        rw [hfound, Option.all_some] at hended
        exact .inr ⟨place, connection, rfl, hfound, hended⟩
  · intro hclosed
    rw [hclosed] at hshows
    exact hshows.2
  · intro hshaking
    rw [hshaking] at hshows
    exact hshows
  · intro hclosing
    rw [hclosing] at hshows
    exact hshows
  · intro hsettled first second hrunning hrunning'
    have hinUse (place : Nat) (hrunning : client.hasEnded place = false) :
        client.active = some place := by
      have halone := hgoverned place hrunning
      rw [Option.map_eq_none_iff.mp hsettled] at halone
      exact halone.resolve_right (by simp)
    exact Option.some.inj ((hinUse first hrunning).symm.trans (hinUse second hrunning'))
  · intro hshown
    have hready := ready_of_state hshown
    obtain ⟨place, connection, hinUse, hfound, hepoch⟩ := inUse_of_ready hphased hcounted hready
    have hrunning := running_of_state hshown hinUse hfound
    have hcurrent := current?_of_running hready hinUse hfound hrunning
    exact ⟨place, connection, hfound, hrunning, hepoch,
      fun ticket => ⟨call_of_current? hcurrent ticket, subscribe_of_current? hcurrent ticket⟩⟩
  · intro hshown ticket
    exact refuses_of_current? (current?_of_state hshown) ticket

end ChainRpc.Client
