import ChainRpc.Proofs.Client.Course
import ChainRpc.Proofs.Client.Handles

/-!
# Epochs

A client opens its connections one after the other, and each of them begins an epoch. So the epoch
of a connection tells its place, the epoch of the client is that of the newest one, and a
subscription belongs to the connection of its epoch. Nobody asks the connection in use to end.
-/

namespace ChainRpc.Client

open Link (Connection Registry)

variable {β η : Type}

/-! ### What reactions leave alone -/

/-- A reaction is about requests and subscriptions, and not about which connection is in use. -/
theorem react_frame (client : Client β η) (link : Nat) (effect : Link.Effect (Waiter β) Ticket) :
    ∃ coder links awaited handles farewells,
      (client.react link effect).1
        = { client with coder, links, awaited, handles, farewells } := by
  have hreacts := client.reacts link effect
  generalize client.react link effect = next at hreacts ⊢
  cases hreacts <;> exact ⟨_, _, _, _, _, rfl⟩

/-- The client has the same connections, and uses the same one. -/
structure SameLinks (client after : Client β η) : Prop where
  phase : after.phase = client.phase
  epoch : after.epoch = client.epoch
  active : after.active = client.active
  transition : after.transition = client.transition
  count : after.links.length = client.links.length

namespace SameLinks

theorem of_eq {client after : Client β η} (hphase : after.phase = client.phase)
    (hepoch : after.epoch = client.epoch) (hactive : after.active = client.active)
    (htransition : after.transition = client.transition) (hlinks : after.links = client.links) :
    SameLinks client after :=
  ⟨hphase, hepoch, hactive, htransition, congrArg List.length hlinks⟩

theorem trans {first second third : Client β η} (hone : SameLinks first second)
    (htwo : SameLinks second third) : SameLinks first third where
  phase := htwo.phase.trans hone.phase
  epoch := htwo.epoch.trans hone.epoch
  active := htwo.active.trans hone.active
  transition := htwo.transition.trans hone.transition
  count := htwo.count.trans hone.count

theorem react (client : Client β η) (link : Nat) (effect : Link.Effect (Waiter β) Ticket) :
    SameLinks client (client.react link effect).1 := by
  have hcount : (client.react link effect).1.links.length = client.links.length := by
    rw [links_react, List.length_modify]
  obtain ⟨coder, links, awaited, handles, farewells, hframe⟩ := client.react_frame link effect
  rw [hframe] at hcount ⊢
  exact ⟨rfl, rfl, rfl, rfl, hcount⟩

theorem reactAll (client : Client β η) (link : Nat)
    (effects : List (Link.Effect (Waiter β) Ticket)) :
    SameLinks client (client.reactAll link effects).1 := by
  induction effects generalizing client with
  | nil => exact of_eq rfl rfl rfl rfl rfl
  | cons effect effects ih => exact (react client link effect).trans (ih _)

theorem onLink (client : Client β η) (link : Nat)
    (happen : Connection (Waiter β) Ticket →
      Connection (Waiter β) Ticket × List (Link.Effect (Waiter β) Ticket)) :
    SameLinks client (client.onLink link happen).1 := by
  unfold Client.onLink
  split
  next connection hfound =>
    have hrelinked : SameLinks client (client.relink link (happen connection).1) :=
      ⟨rfl, rfl, rfl, rfl, List.length_set⟩
    exact hrelinked.trans (reactAll _ link (happen connection).2)
  next => exact of_eq rfl rfl rfl rfl rfl

end SameLinks

/-- The action is a step of a connect or a close. -/
def Action.IsChange : Action β η → Prop
  | .beginConnect | .endConnect _ | .beginClose | .proceed => True
  | .call _ _ | .subscribe _ _ | .number _ | .enqueue _ | .forget _ | .setHandler _ _
  | .unsubscribe _ _ | .retire _ | .turn _ _ => False

/-- Only a connect or a close changes which connection is in use. -/
theorem sameLinks_step (client : Client β η) (action : Action β η) (hother : ¬action.IsChange) :
    SameLinks client (client.step action).1 := by
  have hstepped := client.stepped action
  generalize client.step action = next at hstepped ⊢
  cases hstepped with
  | shakes _ _ => exact absurd trivial hother
  | fails _ _ _ _ _ => exact absurd trivial hother
  | opens _ _ => exact absurd trivial hother
  | withdraws _ _ => exact absurd trivial hother
  | resets _ _ => exact absurd trivial hother
  | drains _ _ _ => exact absurd trivial hother
  | closes _ _ => exact absurd trivial hother
  | leaves _ _ _ => exact absurd trivial hother
  | sends ticket submission id _ _ =>
      refine SameLinks.trans ?_ (SameLinks.onLink _ submission.link _)
      exact .of_eq rfl rfl rfl rfl rfl
  | retires _ _ _ _ _ => exact ⟨rfl, rfl, rfl, rfl, List.length_modify ..⟩
  | turns link turn => exact .onLink client link (·.turn turn)
  | _ => exact .of_eq rfl rfl rfl rfl rfl

/-- A connection that was not there before has just been started. -/
theorem started_step {client : Client β η} {place : Nat} (habsent : client.links[place]? = none)
    {action : Action β η} {started : Connection (Waiter β) Ticket}
    (hfound : (client.step action).1.links[place]? = some started) :
    ∃ epoch settings, started = .start epoch settings := by
  have houtside := List.getElem?_eq_none_iff.mp habsent
  have hinside := (List.getElem?_eq_some_iff.mp hfound).1
  by_cases hchange : action.IsChange
  · have hstepped := client.stepped action
    generalize client.step action = next at hstepped hfound hinside
    cases hstepped with
    | opens _ _ =>
        unfold openLink at hfound
        dsimp only at hfound
        rw [List.getElem?_append_right houtside] at hfound
        exact ⟨_, _, List.mem_singleton.mp (List.mem_of_getElem? hfound)⟩
    | resets _ _ => exact absurd (List.length_modify .. ▸ hinside) (Nat.not_lt.mpr houtside)
    | closes old _ =>
        cases old with
        | none => exact absurd hinside (Nat.not_lt.mpr houtside)
        | some old => exact absurd (List.length_modify .. ▸ hinside) (Nat.not_lt.mpr houtside)
    | sends _ _ _ _ _ => contradiction
    | retires _ _ _ _ _ => contradiction
    | turns _ _ => contradiction
    | _ => exact absurd hinside (Nat.not_lt.mpr houtside)
  · have := (client.sameLinks_step action hchange).count
    omega

/-- A connection that is in use has been in use since it was there. -/
theorem active_before {client : Client β η} {place : Nat}
    {connection : Connection (Waiter β) Ticket} (hfound : client.links[place]? = some connection)
    {action : Action β η} (hinUse : (client.step action).1.active = some place) :
    client.active = some place := by
  by_cases hchange : action.IsChange
  · have hstepped := client.stepped action
    generalize client.step action = next at hstepped hinUse
    cases hstepped with
    | opens _ _ =>
        -- The new connection has a place of its own.
        have hinside := (List.getElem?_eq_some_iff.mp hfound).1
        have := Option.some.inj hinUse
        omega
    | withdraws _ _ => contradiction
    | closes old _ => cases old <;> exact hinUse
    | sends _ _ _ _ _ => contradiction
    | turns _ _ => contradiction
    | _ => exact hinUse
  · exact (client.sameLinks_step action hchange).active ▸ hinUse

theorem active_before_run {client : Client β η} (hkept : AllLinks Kept client) {place : Nat}
    {connection : Connection (Waiter β) Ticket} (hfound : client.links[place]? = some connection)
    {history : List (Action β η)} (hinUse : (client.run history).1.active = some place) :
    client.active = some place := by
  induction history generalizing client connection with
  | nil => exact hinUse
  | cons action history ih =>
      exact active_before hfound
        (ih (kept_step hkept action) (links_step hkept hfound action) hinUse)

/-! ### Counting connections -/

/-- Only a connection that is replaced or closed is asked to end. -/
theorem moves_shutdown {client : Client β η} {place : Nat} {action : Action β η}
    {reason : Link.CloseReason} (hasks : .shutdown reason ∈ client.moves place action) :
    (client.transition = some (.replacing place) ∧ reason = .reset) ∨
      (client.transition = some (.closing (some place)) ∧ reason = .closed) := by
  cases cause_of_mem_moves hasks with
  | reset hchanging => exact .inl ⟨hchanging, rfl⟩
  | close hchanging => exact .inr ⟨hchanging, rfl⟩

/-- How a client counts its connections. -/
structure Counted (client : Client β η) : Prop where
  epoch : client.epoch.number = client.links.length
  places : ∀ place connection, client.links[place]? = some connection →
    connection.epoch.number = place + 1
  handles : ∀ ticket held, client.handles.find? ticket = some held →
    held.epoch.number = held.link + 1
  /-- The connection in use is the newest one. -/
  newest : ∀ place, client.active = some place → place + 1 = client.links.length
  replaced : ∀ old, client.transition = some (.replacing old) → old + 1 < client.links.length
  withdrawn : ∀ old, client.transition = some (.closing old) → client.active = none
  /-- Nobody has asked the connection in use to end. -/
  unasked : ∀ place connection, client.active = some place →
    client.links[place]? = some connection → connection.Asks fun _ => False

namespace Counted

variable {client : Client β η}

theorem fresh (address : Address) (options : Options) :
    Counted (Client.fresh address options : Client β η) where
  epoch := rfl
  places _ _ hfound := by contradiction
  handles _ _ hfound := by contradiction
  newest _ hactive := by contradiction
  replaced _ hchanging := by contradiction
  withdrawn _ hchanging := by contradiction
  unasked _ _ hactive := by contradiction

theorem handles_step (hcounted : Counted client) (hkept : AllLinks Kept client)
    (action : Action β η) (ticket : Ticket) (held : Handle β η)
    (hfound : (client.step action).1.handles.find? ticket = some held) :
    held.epoch.number = held.link + 1 := by
  obtain ⟨before, handler, hthere, rfl⟩ | hopens := Client.handles_step hkept action hfound
  · exact hcounted.handles ticket before hthere
  · obtain ⟨connection, hthere, hepoch⟩ := hopens.placed
    rw [hepoch]
    exact hcounted.places held.link connection hthere

/-- An action that opens no connection and takes none into use. -/
theorem of_step (hcounted : Counted client) (hkept : AllLinks Kept client) (action : Action β η)
    (hepoch : (client.step action).1.epoch = client.epoch)
    (hcount : (client.step action).1.links.length = client.links.length)
    (hactive : ∀ place, (client.step action).1.active = some place → client.active = some place)
    (hreplaced : ∀ old, (client.step action).1.transition = some (.replacing old) →
      client.transition = some (.replacing old))
    (hwithdrawn : ∀ old, (client.step action).1.transition = some (.closing old) →
      (client.step action).1.active = none) : Counted (client.step action).1 := by
  -- Each connection was there before.
  have hbefore (place : Nat) (connection : Connection (Waiter β) Ticket)
      (hfound : (client.step action).1.links[place]? = some connection) :
      ∃ earlier, client.links[place]? = some earlier ∧
        connection = (earlier.run (client.moves place action)).1 := by
    have hinside : place < client.links.length := by
      rw [← hcount]
      exact (List.getElem?_eq_some_iff.mp hfound).1
    have hthere := List.getElem?_eq_getElem hinside
    exact ⟨_, hthere, Option.some.inj (hfound.symm.trans (links_step hkept hthere action))⟩
  refine ⟨?_, ?_, hcounted.handles_step hkept action, ?_, ?_, hwithdrawn, ?_⟩
  · rw [hepoch, hcount]
    exact hcounted.epoch
  · intro place connection hfound
    obtain ⟨earlier, hthere, rfl⟩ := hbefore place connection hfound
    rw [earlier.run_epoch]
    exact hcounted.places place earlier hthere
  · intro place hinUse
    rw [hcount]
    exact hcounted.newest place (hactive place hinUse)
  · intro old hchanging
    rw [hcount]
    exact hcounted.replaced old (hreplaced old hchanging)
  · intro place connection hinUse hfound
    obtain ⟨earlier, hthere, rfl⟩ := hbefore place connection hfound
    have hnewest := hcounted.newest place (hactive place hinUse)
    refine (hcounted.unasked place earlier (hactive place hinUse) hthere).run _ ?_
    intro reason hasks
    obtain ⟨hchanging, -⟩ | ⟨hchanging, -⟩ := moves_shutdown hasks
    · have := hcounted.replaced place hchanging
      omega
    · have hnone := hcounted.withdrawn _ hchanging
      rw [hactive place hinUse] at hnone
      contradiction

theorem openLink (hcounted : Counted client) : Counted client.openLink where
  epoch := by
    unfold Client.openLink Rpc.Epoch.next
    simp [hcounted.epoch]
  places place connection hfound := by
    unfold Client.openLink at hfound
    dsimp only at hfound
    by_cases hinside : place < client.links.length
    · rw [List.getElem?_append_left hinside] at hfound
      exact hcounted.places place connection hfound
    · have hnewest : place = client.links.length := by
        have := (List.getElem?_eq_some_iff.mp hfound).1
        simp only [List.length_append, List.length_singleton] at this
        omega
      subst hnewest
      rw [List.getElem?_concat_length, Option.some.injEq] at hfound
      subst hfound
      exact congrArg (· + 1) hcounted.epoch
  handles := hcounted.handles
  newest place hinUse := by
    unfold Client.openLink at hinUse ⊢
    cases hinUse
    simp
  replaced old hchanging := by
    unfold Client.openLink at hchanging ⊢
    simp only [Option.map_eq_some_iff, Transition.replacing.injEq] at hchanging
    obtain ⟨place, hinUse, rfl⟩ := hchanging
    have := hcounted.newest place hinUse
    simp only [List.length_append, List.length_singleton]
    omega
  withdrawn old hchanging := by
    unfold Client.openLink at hchanging
    simp at hchanging
  unasked place connection hinUse hfound := by
    unfold Client.openLink at hinUse hfound
    cases hinUse
    simp only [List.getElem?_concat_length, Option.some.injEq] at hfound
    subst hfound
    intro reason hmem
    contradiction

theorem step (hcounted : Counted client) (hkept : AllLinks Kept client) (action : Action β η) :
    Counted (client.step action).1 := by
  have hgeneral := hcounted.of_step hkept action
  by_cases hchange : action.IsChange
  · have hstepped := client.stepped action
    generalize client.step action = next at hstepped hgeneral ⊢
    cases hstepped with
    | idle _ _ _ => exact hcounted
    | forbids _ _ => exact hcounted
    | agrees _ _ => exact hcounted
    | opens _ _ => exact hcounted.openLink
    | withdraws _ _ => exact hgeneral rfl rfl (by simp) (by simp) fun _ _ => rfl
    | resets _ _ =>
        exact hgeneral rfl (List.length_modify ..) (fun _ hsame => hsame) (by simp) (by simp)
    | closes old _ =>
        cases old with
        | none => exact hgeneral rfl rfl (fun _ hsame => hsame) (by simp) (by simp)
        | some old =>
            exact hgeneral rfl (List.length_modify ..) (fun _ hsame => hsame) (by simp) (by simp)
    | shakes _ _ => exact hgeneral rfl rfl (fun _ hsame => hsame) (by simp) (by simp)
    | fails _ _ _ _ _ =>
        exact hgeneral rfl rfl (fun _ hsame => hsame) (by simp [failConnect])
          (by simp [failConnect])
    | drains _ _ _ => exact hgeneral rfl rfl (fun _ hsame => hsame) (by simp) (by simp)
    | leaves _ _ _ => exact hgeneral rfl rfl (fun _ hsame => hsame) (by simp) (by simp)
    | _ => contradiction
  · have hsame := client.sameLinks_step action hchange
    refine hgeneral hsame.epoch hsame.count ?_ ?_ ?_
    · exact fun place hinUse => hsame.active ▸ hinUse
    · exact fun old hchanging => hsame.transition ▸ hchanging
    · intro old hchanging
      rw [hsame.active]
      exact hcounted.withdrawn old (hsame.transition ▸ hchanging)

theorem run (hcounted : Counted client) (hkept : AllLinks Kept client)
    (history : List (Action β η)) : Counted (client.run history).1 := by
  induction history generalizing client with
  | nil => exact hcounted
  | cons action history ih =>
      refine ih (hcounted.step hkept action) ?_
      exact kept_step hkept action

end Counted

end ChainRpc.Client
