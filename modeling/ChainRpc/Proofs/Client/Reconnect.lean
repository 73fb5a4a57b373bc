import ChainRpc.Proofs.Client.Attendance
import ChainRpc.Proofs.Client.Lifecycle
import ChainRpc.Proofs.Client.Openings

/-!
# Reconnecting

A connect on a client that has a connection replaces it. Whatever the old connection was in, the
connect is over only after its loop has ended, and then nothing is left of it: all requests that
waited or were queued were completed, and its subscriptions are forgotten for good. Nothing that
still comes from its socket does anything, and whoever holds one of its subscriptions finds it gone.
-/

namespace ChainRpc.Client

open Link (CloseReason Command Connection Frame Turn told)
open Link.Connection (sent)
open scoped List

variable {β η : Type}

/-- The actions of a connect whose handshake is accepted, with what happens during the handshake
and what happens afterwards. -/
def reconnect (shaking changing : List (Action β η)) : List (Action β η) :=
  .beginConnect :: (shaking ++ .endConnect .accepted :: changing)

/-! ### What becomes of the old connection -/

section Old

variable {client : Client β η} {place : Nat} {connection : Connection (Waiter β) Ticket}

/-- Once a connection has ended there is nothing on it at any later time. -/
theorem ended_forever (hkept : AllLinks Kept client)
    (hfound : client.links[place]? = some connection) (hended : connection.ended = true)
    (history : List (Action β η)) :
    ∃ gone, (client.run history).1.links[place]? = some gone ∧ gone.ended = true ∧
      gone.Vacant := by
  have hthere := links_run hkept hfound history
  have hstopped := Connection.run_ended hended (client.course place history)
  have hkeeps := kept_run hkept history _ (List.mem_of_getElem? hthere)
  exact ⟨_, hthere, hstopped, hkeeps.vacant hstopped⟩

/-- Closing a subscription of a connection that has ended is over at once. -/
theorem unsubscribe_of_ended {gone : Connection (Waiter β) Ticket}
    (hfound : client.links[place]? = some gone) (hvacant : gone.Vacant) {handle : Ticket}
    {held : Handle β η} (hholds : client.handles.find? handle = some held)
    (hlink : held.link = place) (ticket : Ticket) :
    client.isActive held = false ∧
      client.unsubscribe ticket handle = (client, [.unsubscribed ticket (.ok false)]) := by
  have hinactive : client.isActive held = false := by
    unfold isActive Link.Registry.contains
    rw [hlink, hfound, Option.any_some, hvacant.subscriptions]
    rfl
  refine ⟨hinactive, ?_⟩
  unfold Client.unsubscribe
  rw [hholds]
  dsimp only
  rw [hinactive]
  rfl

end Old

/-! ### During a connect -/

theorem connects_reconnect {shaking changing : List (Action β η)}
    (hunprompted : ∀ action ∈ shaking ++ changing, action.Unprompted) :
    ∀ action ∈ reconnect shaking changing, action.Connects := by
  have hconnects (action : Action β η) (halone : action.Unprompted) : action.Connects := by
    cases action <;> trivial
  intro action hmem
  simp only [reconnect, List.mem_cons, List.mem_append] at hmem hunprompted
  rcases hmem with rfl | hmem | rfl | hmem
  · trivial
  · exact hconnects action (hunprompted action (.inl hmem))
  · trivial
  · exact hconnects action (hunprompted action (.inr hmem))

section Connecting

variable {client : Client β η} {place : Nat} {history : List (Action β η)}

theorem notClosing_step (hunclosed : ∀ old, client.transition ≠ some (.closing old))
    {action : Action β η} (hconnects : action.Connects) :
    ∀ old, (client.step action).1.transition ≠ some (.closing old) := by
  cases action with
  | beginConnect =>
      unfold Client.step beginConnect
      dsimp only
      split
      next => exact hunclosed
      next =>
        split
        next => exact hunclosed
        next => simp
  | endConnect handshake =>
      unfold Client.step endConnect failConnect openLink
      dsimp only
      split
      next =>
        split
        next => simp
        next => cases client.active <;> simp
      next => exact hunclosed
  | proceed =>
      unfold Client.step proceed
      dsimp only
      split
      next => simp
      next =>
        split
        next => simp
        next => exact hunclosed
      next => simp
      next =>
        split
        next => simp
        next => exact hunclosed
      next => exact hunclosed
      next => exact hunclosed
  | turn link turn =>
      rw [(client.sameLinks_step (.turn link turn) id).transition]
      exact hunclosed
  | _ => contradiction

/-- A connect asks an old connection to end for a reset. -/
theorem course_shutdown (hunclosed : ∀ old, client.transition ≠ some (.closing old))
    (hconnects : ∀ action ∈ history, action.Connects) {reason : CloseReason}
    (hasks : .shutdown reason ∈ client.course place history) : reason = .reset := by
  induction history generalizing client with
  | nil => contradiction
  | cons action history ih =>
      rcases List.mem_append.mp hasks with hfirst | hlater
      · obtain ⟨-, hsame⟩ | ⟨hclosing, -⟩ := moves_shutdown hfirst
        · exact hsame
        · exact absurd hclosing (hunclosed _)
      · exact ih (notClosing_step hunclosed (hconnects action List.mem_cons_self))
          (fun other hmem => hconnects other (List.mem_cons_of_mem _ hmem)) hlater

variable {connection : Connection (Waiter β) Ticket}

/-- The loop in use ends for a reset in the course of a connect, or for what befalls its socket. -/
theorem old_ends (hkept : AllLinks Kept client) (hcounted : Counted client)
    (hinUse : client.active = some place)
    (hunclosed : ∀ old, client.transition ≠ some (.closing old))
    (hfound : client.links[place]? = some connection) (hrunning : connection.ended = false)
    (hconnects : ∀ action ∈ history, action.Connects)
    (hstopped : (connection.run (client.course place history)).1.ended = true) :
    ∃ turn reason, client.LoopEnds place history turn reason ∧
      (reason = .reset ∨ turn.fault? = some reason) := by
  obtain ⟨earlier, turn, later, dying, reason, rfl, hthere, halive, hends⟩ :=
    exists_ending hkept hfound hrunning hstopped
  refine ⟨turn, reason, loopEnds_of_ending hthere halive hends later, ?_⟩
  have hkeeps := kept_run hkept earlier dying (List.mem_of_getElem? hthere)
  refine (Connection.ending?_eq_some hkeeps.held hends).imp_left ?_
  -- Nobody had asked for the end before, so the command is the one of the connect.
  have hsame := Option.some.inj (hthere.symm.trans (links_run hkept hfound earlier))
  have hunasked := hcounted.unasked place connection hinUse hfound
  have hasks : dying.Asks (· = .reset) := by
    rw [hsame]
    refine Connection.Asks.run (fun reason hmem => (hunasked reason hmem).elim) _ ?_
    exact fun reason => course_shutdown hunclosed
      fun action hmem => hconnects action (List.mem_append_left _ hmem)
  exact hasks reason

end Connecting

section Accepted

variable {client : Client β η} {old : Nat}

/-- A connect whose handshake is accepted opens a new connection, and then waits for the old one. -/
theorem run_reconnect (hinUse : client.active = some old) (hidle : client.transition = none)
    (hunclosed : client.phase ≠ .closed) (shaking changing : List (Action β η))
    (hunprompted : ∀ action ∈ shaking, action.Unprompted) :
    ∃ shaken silent, (client.run (.beginConnect :: shaking)).1 = shaken ∧
      shaken.epoch = client.epoch ∧ shaken.active = some old ∧
      shaken.links.length = client.links.length ∧
      (shaken.step (.endConnect .accepted)).1 = shaken.openLink ∧
      (∀ told ∈ silent, ¬told.EndsConnect) ∧
      client.run (reconnect shaking changing) =
        ((shaken.openLink.run changing).1, silent ++ (shaken.openLink.run changing).2) := by
  let begun := { client with transition := some (.connecting client.phase), phase := .connecting }
  have hfirst : client.step .beginConnect = (begun, []) := by
    unfold Client.step beginConnect
    dsimp only
    rw [hidle, if_neg (by simp), if_neg hunclosed]
  have hbegins : begun.Shaking := .inr ⟨_, rfl⟩
  obtain ⟨hstill, hsilent⟩ := hbegins.run hunprompted
  obtain ⟨hepoch, hactive, hcount⟩ := begun.run_unprompted_frame hunprompted
  have haccepted : (begun.run shaking).1.step (.endConnect .accepted)
      = ((begun.run shaking).1.openLink, []) := by
    unfold Client.step endConnect
    dsimp only
    rw [hstill, hactive, hinUse]
    rfl
  refine ⟨(begun.run shaking).1, (begun.run shaking).2, ?_, hepoch, hactive.trans hinUse, hcount,
    ?_, hsilent, ?_⟩
  · rw [run_cons, hfirst]
  · rw [haccepted]
  · rw [reconnect, run_cons, hfirst, run_append, run_cons, haccepted]
    rfl

/-- A loop that takes commands changes nothing but its own connection. -/
theorem run_commands (hkept : AllLinks Kept client) {connection : Connection (Waiter β) Ticket}
    (hfound : client.links[old]? = some connection) (count : Nat) :
    (client.run (List.replicate count (.turn old (.command none)))).1.transition
        = client.transition ∧
      (client.run (List.replicate count (.turn old (.command none)))).1.links[old]?
        = some (connection.run (List.replicate count (.turn (.command none)))).1 := by
  induction count generalizing client connection with
  | zero => exact ⟨rfl, hfound⟩
  | succ count ih =>
      have hquiet : ∀ effect ∈ (connection.turn (.command none)).2, Connection.IsQuiet effect :=
        connection.turn_quiet (by simp)
      have hsteps : client.moves old (.turn old (.command none)) = [.turn (.command none)] := by
        unfold moves
        rw [hfound]
        dsimp only
        rw [if_pos rfl, List.flatMap_eq_nil_iff.mpr]
        exact fun effect hmem => client.dismissal_quiet (hquiet effect hmem)
      have hthere := links_step hkept hfound (.turn old (.command none))
      rw [hsteps] at hthere
      obtain ⟨htransition, hlinks⟩ := ih (kept_step hkept (.turn old (.command none))) hthere
      have hsame := client.sameLinks_step (.turn old (.command none)) id
      exact ⟨htransition.trans hsame.transition, hlinks⟩

end Accepted

/-! ### After a connect -/

/-- Any connect that succeeds on any client with a connection, whatever happens meanwhile without
other callers, ends the epoch of that connection for good.

* Each request that waited on the old connection or was queued there is completed, once. A loop that
  runs when the connect begins ends for a reset, or for what befalls its socket; all that still
  waits or is queued then fails for that reason, and the callers learn it. A loop that has ended
  before has done the same for what befell its socket, and left nothing.
* The new connection has nothing to do, its epoch is the next one, and so is that of the client.
* The numbers start again. If everybody who has subscribed waits for the answer, nobody calls until
  the connect is over, and the next request has number 0. Otherwise the answer may come for a caller
  who is gone, and then the loop calls to end the subscription: each such call takes a number.
* From then on nothing waits on the old connection, is registered or is queued there, and its loop
  does nothing with what comes from the socket. Its subscriptions are inactive, and closing one
  tells so and does nothing else. -/
theorem reconnect_ends_epoch (address : Address) (options : Options)
    (history : List (Action β η)) {client : Client β η}
    (hreached : ((fresh address options).run history).1 = client) {old : Nat}
    (hinUse : client.active = some old) (hidle : client.transition = none)
    (shaking changing : List (Action β η))
    (hunprompted : ∀ action ∈ shaking ++ changing, action.Unprompted)
    (hsucceeds : .connected (.ok ()) ∈ (client.run (reconnect shaking changing)).2) :
    let actions := reconnect shaking changing
    let opened := ((client.run (.beginConnect :: shaking)).1.step (.endConnect .accepted)).1
    let after := (client.run actions).1
    (∃ connection, client.links[old]? = some connection ∧
      told (connection.run (client.course old actions)).2
        ~ sent (client.course old actions) ++ connection.outstanding ∧
      (∀ waiter ∈ sent (client.course old actions), waiter = .nobody) ∧
      (connection.ended = false → ∃ turn reason, client.LoopEnds old actions turn reason ∧
        (reason = .reset ∨ turn.fault? = some reason)) ∧
      (connection.ended = true → connection.outstanding = [] ∧
        ∃ turn reason, (fresh address options).LoopEnds old history turn reason ∧
          turn.fault? = some reason)) ∧
    (∃ successor, after.active = some client.links.length ∧
      after.links[client.links.length]? = some successor ∧ successor.Vacant ∧
      successor.epoch = client.epoch.next) ∧
    after.epoch = client.epoch.next ∧
    after.nextRequestId = ⟨opened.cleanUps changing % 2 ^ 64⟩ ∧
    ((tickets history).Nodup → client.Attended → after.nextRequestId = ⟨0⟩) ∧
    ∀ later : List (Action β η),
      let state := (after.run later).1
      (∃ gone, state.links[old]? = some gone ∧ gone.ended = true ∧ gone.Vacant) ∧
      (∀ turn, state.turn old turn = (state, [])) ∧
      ∀ handle held, state.handles.find? handle = some held → held.epoch = client.epoch →
        state.isActive held = false ∧ ∀ ticket,
          state.unsubscribe ticket handle = (state, [.unsubscribed ticket (.ok false)]) := by
  intro actions opened after
  subst hreached
  have hkept := kept_links address options history
  have hcounted := (Counted.fresh address options).run (kept_links address options []) history
  set client := ((fresh address options : Client β η).run history).1
  have hnewest := hcounted.newest old hinUse
  obtain ⟨connection, hfound⟩ : ∃ connection, client.links[old]? = some connection :=
    ⟨_, List.getElem?_eq_getElem (by omega)⟩
  have hunclosed :=
    ((Phased.fresh address options).run (kept_links address options []) history).not_closed hinUse
  obtain ⟨shaken, silent, hshook, hepoch, hactive, hcount, haccepted, hquiet, hwhole⟩ :=
    run_reconnect hinUse hidle hunclosed shaking changing
      fun action hmem => hunprompted action (List.mem_append_left changing hmem)
  have hconnected : .connected (.ok ()) ∈ (shaken.openLink.run changing).2 := by
    rw [hwhole] at hsucceeds
    exact (List.mem_append.mp hsucceeds).resolve_left fun hmem => hquiet _ hmem trivial
  have hhanded : opened = shaken.openLink := by
    rw [← haccepted, ← hshook]
  have hrest : ∀ action ∈ changing, action.Unprompted :=
    fun action hmem => hunprompted action (List.mem_append_right shaking hmem)
  have hconnects := connects_reconnect hunprompted
  -- The two connections when the new one is opened.
  have hkeptShaken : AllLinks Kept shaken := hshook ▸ kept_run hkept _
  have hkeptOpened : AllLinks Kept shaken.openLink := haccepted ▸ kept_step hkeptShaken _
  have hthere := haccepted ▸ links_step hkeptShaken (hshook ▸ links_run hkept hfound _)
    (.endConnect .accepted)
  have hsuccessor : shaken.openLink.links[client.links.length]?
      = some (.start shaken.epoch.next shaken.options.settings) := by
    rw [← hcount]
    exact List.getElem?_concat_length
  have hreplaces : Replaces old shaken.openLink := by
    left
    unfold openLink
    rw [hactive]
    rfl
  obtain ⟨hgoesOn, hsettles⟩ := hreplaces.run hkeptOpened hthere hrest
  obtain ⟨hsameEpoch, hsameActive, -⟩ := shaken.openLink.run_unprompted_frame hrest
  have hgone := links_run hkept hfound actions
  have hended : (connection.run (client.course old actions)).1.ended = true := by
    have hfinished := hsettles _ hconnected trivial
    rw [← congrArg Prod.fst hwhole] at hfinished hgoesOn
    unfold Replaces hasEnded at hgoesOn
    rw [hfinished, hgone] at hgoesOn
    simpa using hgoesOn
  have hkeptAfter := kept_run hkept actions
  have hcountedAfter := hcounted.run hkept actions
  have hnumber : after.nextRequestId = ⟨opened.cleanUps changing % 2 ^ 64⟩ := by
    change (client.run actions).1.coder.peek = _
    rw [hwhole, hhanded]
    have hnext : (shaken.openLink.run changing).1.coder.next
        = (0 + shaken.openLink.cleanUps changing) % 2 ^ 64 := next_run hkeptOpened hrest rfl
    rw [Rpc.Coder.peek, hnext, Nat.zero_add]
  refine ⟨⟨connection, hfound, ?_, sent_course hconnects, ?_, ?_⟩, ?_, ?_, ?_, ?_, ?_⟩
  · have haccounts := connection.run_accounts (client.course old actions)
    have horderly := (hkeptAfter _ (List.mem_of_getElem? hgone)).orderly
    unfold Connection.Accounts at haccounts
    rwa [horderly.outstanding hended, List.append_nil] at haccounts
  · intro hrunning
    exact old_ends hkept hcounted hinUse (by simp [hidle]) hfound hrunning hconnects hended
  · intro hstopped
    have horderly := (hkept connection (List.mem_of_getElem? hfound)).orderly
    exact ⟨horderly.outstanding hstopped, ended_in_use address options hinUse hfound hstopped⟩
  · have hother : client.links.length ≠ old := by omega
    have hvacant := vacant_run hreplaces hkeptOpened hthere hsuccessor hother (.start _ _) hrest
    refine ⟨_, ?_, (congrArg (fun after => after.1.links[client.links.length]?) hwhole).trans
      (links_run hkeptOpened hsuccessor changing), hvacant, ?_⟩
    · change (client.run actions).1.active = _
      rw [hwhole, hsameActive, ← hcount]
      rfl
    · rw [Connection.run_epoch, ← hepoch]
      rfl
  · change (client.run actions).1.epoch = _
    rw [hwhole, hsameEpoch, ← hepoch]
    rfl
  · exact hnumber
  · intro hdistinct hattended
    have hbegins : ∀ action ∈ .beginConnect :: shaking, action.Connects :=
      fun action hmem => hconnects action (List.mem_append_left _ hmem)
    have hgoes : ∀ action ∈ .endConnect .accepted :: changing, action.Connects :=
      fun action hmem => hconnects action (List.mem_cons_of_mem _ (List.mem_append_right _ hmem))
    obtain ⟨hwaits, hapart⟩ :=
      hattended.run (openTickets_nodup address options hdistinct) hkept hbegins
    rw [hshook] at hwaits hapart
    -- Until the connect is over the loops make no call, and so none after the numbers start again.
    have hnone : opened.cleanUps changing = 0 := by
      rw [hhanded, ← haccepted]
      exact hwaits.cleanUps_eq_zero hapart hkeptShaken hgoes
    rw [hnumber, hnone, Nat.zero_mod]
  · intro later state
    obtain ⟨rest, hthere, hstopped, hvacant⟩ := ended_forever hkeptAfter hgone hended later
    refine ⟨⟨rest, hthere, hstopped, hvacant⟩, turn_of_ended hthere hstopped, ?_⟩
    intro handle held hholds hsame
    have hplaced := (hcountedAfter.run hkeptAfter later).handles handle held hholds
    have hlink : held.link = old := by
      have hnumber := hcounted.epoch
      rw [hsame] at hplaced
      omega
    have hcloses := unsubscribe_of_ended hthere hvacant hholds hlink
    exact ⟨(hcloses 0).1, fun ticket => (hcloses ticket).2⟩

/-- Whatever state the client and its connection are in, and whatever happens during the handshake,
the connect can go on by itself until it has succeeded: the loop takes the commands that are
queued, and the last one of them is to end. -/
theorem reconnect_can_succeed (address : Address) (options : Options)
    (history : List (Action β η)) {client : Client β η}
    (hreached : ((fresh address options).run history).1 = client) {old : Nat}
    (hinUse : client.active = some old) (hidle : client.transition = none)
    (shaking : List (Action β η)) (hunprompted : ∀ action ∈ shaking, action.Unprompted) :
    ∃ changing : List (Action β η), (∀ action ∈ changing, action.Unprompted) ∧
      .connected (.ok ()) ∈ (client.run (reconnect shaking changing)).2 := by
  subst hreached
  have hkept := kept_links address options history
  have hcounted := (Counted.fresh address options).run (kept_links address options []) history
  have hnewest := hcounted.newest old hinUse
  have hunclosed :=
    ((Phased.fresh address options).run (kept_links address options []) history).not_closed hinUse
  set client := ((fresh address options : Client β η).run history).1
  have hfound := List.getElem?_eq_getElem (show old < client.links.length by omega)
  obtain ⟨shaken, -, hshook, -, hactive, -, haccepted, -, -⟩ :=
    run_reconnect hinUse hidle hunclosed shaking [] hunprompted
  have hkeptShaken : AllLinks Kept shaken := hshook ▸ kept_run hkept _
  have hkeptOpened : AllLinks Kept shaken.openLink := haccepted ▸ kept_step hkeptShaken _
  obtain ⟨connection, hthere⟩ : ∃ connection, shaken.openLink.links[old]? = some connection :=
    ⟨_, haccepted ▸ links_step hkeptShaken (hshook ▸ links_run hkept hfound _)
      (.endConnect .accepted)⟩
  -- The old connection is asked to end, and takes its commands.
  have hasks : shaken.openLink.step .proceed =
      ({ shaken.openLink.shutDown (some old) .reset with
          transition := some (.draining old) }, []) := by
    unfold Client.step proceed
    dsimp only
    rw [show shaken.openLink.transition = some (.replacing old) by rw [openLink, hactive]; rfl]
  have hasked := links_step hkeptOpened hthere .proceed
  have hsteps : shaken.openLink.moves old .proceed = [.shutdown .reset] := by
    unfold moves
    dsimp only
    rw [show shaken.openLink.transition = some (.replacing old) by rw [openLink, hactive]; rfl]
    exact if_pos rfl
  rw [hsteps] at hasked
  obtain ⟨count, hstopped⟩ : ∃ count, ((connection.shutdown .reset).run
      (List.replicate count (.turn (.command none)))).1.ended = true := by
    rcases Bool.eq_false_or_eq_true connection.ended with hended | hrunning
    · exact ⟨0, by simp [Connection.shutdown, Connection.run, hended]⟩
    · have hqueued : .shutdown .reset ∈ (connection.shutdown .reset).queue := by
        simp [Connection.shutdown, hrunning]
      exact Connection.ends_by_commands hqueued
  let commands : List (Action β η) := List.replicate count (.turn old (.command none))
  let drained := ((shaken.openLink.step .proceed).1.run commands).1
  obtain ⟨hdraining, hgone⟩ := run_commands (kept_step hkeptOpened .proceed) hasked count
  have hconnects : (drained.step .proceed).2 = [.connected (.ok ())] := by
    have htransition : drained.transition = some (.draining old) := by
      rw [hdraining, hasks]
    have hended : drained.hasEnded old = true := by
      unfold hasEnded
      rw [hgone]
      exact hstopped
    unfold Client.step proceed
    dsimp only
    rw [htransition]
    dsimp only
    rw [if_pos hended]
  obtain ⟨again, silent, hshook', -, -, -, -, -, hwhole⟩ :=
    run_reconnect hinUse hidle hunclosed shaking (.proceed :: (commands ++ [.proceed])) hunprompted
  obtain rfl : shaken = again := hshook.symm.trans hshook'
  refine ⟨.proceed :: (commands ++ [.proceed]), ?_, ?_⟩
  · intro action hmem
    simp only [List.mem_cons, List.mem_append, List.not_mem_nil, or_false] at hmem
    rcases hmem with rfl | hmem | rfl
    · trivial
    · rw [(List.mem_replicate.mp hmem).2]
      trivial
    · trivial
  · rw [hwhole]
    refine List.mem_append_right _ ?_
    rw [run_cons, run_append, run_cons]
    refine List.mem_append_right _ (List.mem_append_right _ (List.mem_append_left _ ?_))
    rw [hconnects]
    exact List.mem_singleton_self _

/-- The loop takes the command of the connect, and the connect is over. -/
def sampleChange : List (Action String Unit) := [.proceed, .turn 0 (.command none), .proceed]

/-- Two calls wait on the first connection when the client connects again. Both are completed, the
second epoch begins, and nobody hears of the first connection any more. Whatever else happens during
the handshake, the connect can succeed, and then the numbers begin at zero. -/
theorem sampleHistory_reconnects :
    let client := ((fresh sampleAddress {} : Client String Unit).run sampleHistory).1
    let after := (client.run (reconnect [] sampleChange)).1
    (∃ connection, client.links[0]? = some connection ∧
      connection.outstanding.map Waiter.ticket? = [some 1, some 0] ∧
      told (connection.run (client.course 0 (reconnect [] sampleChange))).2
        ~ connection.outstanding) ∧
      after.epoch = ⟨2⟩ ∧ after.nextRequestId = ⟨0⟩ ∧
      (∀ later turn, (after.run later).1.turn 0 turn = ((after.run later).1, [])) ∧
      ∀ shaking : List (Action String Unit), (∀ action ∈ shaking, action.Unprompted) →
        ∃ changing, .connected (.ok ()) ∈ (client.run (reconnect shaking changing)).2 ∧
          (client.run (reconnect shaking changing)).1.nextRequestId = ⟨0⟩ := by
  intro client after
  have hsucceeds : .connected (.ok ()) ∈ (client.run (reconnect [] sampleChange)).2 :=
    List.mem_of_getLast? (show _ = some _ from rfl)
  have hunprompted : ∀ action ∈ [] ++ sampleChange, action.Unprompted := by
    simp [sampleChange, Action.Unprompted]
  -- Only calls wait, so nobody who has subscribed is gone.
  have hattended : client.Attended := by
    intro connection hmem ticket unsubscribe event hwaits
    rw [List.mem_singleton.mp (show connection ∈ [_] from hmem)] at hwaits
    change _ ∈ [Waiter.call 1 _, Waiter.call 0 _] at hwaits
    simp at hwaits
  obtain ⟨⟨connection, hfound, hcompleted, -⟩, -, hepoch, -, hnumber, hlater⟩ :=
    reconnect_ends_epoch sampleAddress {} sampleHistory rfl rfl rfl [] sampleChange hunprompted
      hsucceeds
  refine ⟨⟨connection, hfound, ?_, hcompleted⟩, hepoch, hnumber (by decide) hattended,
    fun history => (hlater history).2.1, ?_⟩
  · rw [← Option.some.inj hfound]
    rfl
  · intro shaking hshaking
    obtain ⟨changing, hchanging, hconnects⟩ :=
      reconnect_can_succeed sampleAddress {} sampleHistory rfl rfl rfl shaking hshaking
    obtain ⟨-, -, -, -, hagain, -⟩ :=
      reconnect_ends_epoch sampleAddress {} sampleHistory rfl rfl rfl shaking changing
        (List.forall_mem_append.mpr ⟨hshaking, hchanging⟩) hconnects
    exact ⟨changing, hconnects, hagain (by decide) hattended⟩

/-- The node names a subscription for a caller who is gone, when the numbers have started again and
the old loop has not been told to end. -/
def sampleLateAnswer : List (Action String Unit) :=
  [.turn 0 (.message (Text.Utf8.encode "\x7b\"id\":0,\"result\":\"s\"\x7d")), .proceed,
   .turn 0 (.command none), .turn 0 (.command none), .proceed]

/-- The old loop takes a number for the unsubscribe call. So the numbers of the new epoch do not
begin at zero, although the connect succeeds and nobody else calls meanwhile. -/
theorem sampleLateAnswer_takes_number :
    let client := ((fresh sampleAddress {} : Client String Unit).run sampleGone).1
    let after := client.run (reconnect [] sampleLateAnswer)
    client.active = some 0 ∧ client.transition = none ∧
      (∀ action ∈ sampleLateAnswer, action.Unprompted) ∧ .connected (.ok ()) ∈ after.2 ∧
      after.1.epoch = client.epoch.next ∧ after.1.nextRequestId = ⟨1⟩ := by
  intro client after
  have hconnected : (after.2.any fun effect => effect matches .connected (.ok ())) = true := by
    decide +kernel
  refine ⟨rfl, rfl, by simp [sampleLateAnswer, Action.Unprompted], ?_, by decide +kernel,
    by decide +kernel⟩
  obtain ⟨effect, hmem, hsuccess⟩ := List.any_eq_true.mp hconnected
  cases effect with
  | connected result =>
      cases result with
      | ok _ => exact hmem
      | error _ => contradiction
  | _ => contradiction

end ChainRpc.Client
