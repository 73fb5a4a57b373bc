import ChainRpc.Proofs.Client.Endings
import ChainRpc.Proofs.Client.Numbers

/-!
# Callers who wait

As long as somebody waits for the outcome of a call or of a subscribe call, the request is on its
way to a connection or the connection has not completed it. Nobody stops waiting without being
told, unless they do not want to know any more. So when no connection has anything left to
complete, whoever has called was told.
-/

namespace ChainRpc.Client

open Link (Connection Registry told)
open Link.Connection (sent)

variable {β η : Type}

/-- The request of an operation is on its way to a connection, or a connection has not completed
it. -/
def InFlight (client : Client β η) (ticket : Ticket) : Prop :=
  (client.submissions.find? ticket).isSome = true ∨
    ∃ connection ∈ client.links, ∃ waiter ∈ connection.outstanding, waiter.caller? = some ticket

/-! ### Who stops waiting -/

section Forgets

variable {client : Client β η} {link : Nat} {waiter : Waiter β} {ticket : Ticket}

theorem forget_self (client : Client β η) (ticket : Ticket) :
    ticket ∉ (client.forget ticket).awaited := by
  simp [forget]

/-- Whoever was told does not wait any more. -/
theorem react_forgets (hown : waiter.caller? = some ticket) (outcome : Link.Outcome) :
    ticket ∉ (client.react link (.completed waiter outcome)).1.awaited := by
  have hreacts := client.reacts link (.completed waiter outcome)
  generalize client.react link (.completed waiter outcome) = next at hreacts ⊢
  cases hreacts with
  | resolves | refuses | opens =>
      cases hown
      exact forget_self _ ticket
  | lapses owner result outcome hunwanted
  | misses owner unsubscribe event outcome error hunnamed hunwanted
  | abandons owner unsubscribe event outcome id hnamed hunwanted =>
      cases hown
      exact hunwanted
  | _ => contradiction

theorem reactAll_forgets (hown : waiter.caller? = some ticket)
    {effects : List (Link.Effect (Waiter β) Ticket)} (hmem : waiter ∈ told effects) :
    ticket ∉ (client.reactAll link effects).1.awaited := by
  induction effects generalizing client with
  | nil => contradiction
  | cons effect effects ih =>
      rw [reactAll_cons]
      obtain ⟨first, hmem, htells⟩ := List.mem_filterMap.mp hmem
      rcases List.mem_cons.mp hmem with rfl | hlater
      · cases first with
        | completed owner outcome =>
            cases htells
            exact (reactAll_unawaited (react_forgets hown outcome) link effects).2
        | _ => contradiction
      · exact ih (List.mem_filterMap.mpr ⟨first, hlater, htells⟩)

theorem onLink_forgets {connection : Connection (Waiter β) Ticket}
    (hfound : client.links[link]? = some connection) (hown : waiter.caller? = some ticket)
    {happening : Connection.Step (Waiter β) Ticket}
    (hmem : waiter ∈ told (connection.step happening).2) :
    ticket ∉ (client.onLink link (·.step happening)).1.awaited := by
  unfold onLink
  rw [hfound]
  exact reactAll_forgets hown hmem

/-- Nobody but the caller of the answered operation stops waiting, and that caller is told. -/
theorem react_tells (hwanted : ticket ∈ client.awaited)
    {effect : Link.Effect (Waiter β) Ticket}
    (hforgotten : ticket ∉ (client.react link effect).1.awaited) :
    ∃ news ∈ (client.react link effect).2, news.Answers ticket := by
  have hown : answers? effect = some ticket := by
    by_contra hother
    exact hforgotten ((client.react_reacted link effect).others ticket hwanted hother)
  have hreacts := client.reacts link effect
  generalize client.react link effect = next at hreacts hforgotten ⊢
  cases hreacts with
  | resolves | refuses =>
      cases hown
      exact ⟨_, List.mem_singleton_self _, .inl ⟨_, rfl⟩⟩
  | opens owner unsubscribe event outcome id =>
      cases hown
      exact ⟨_, List.mem_singleton_self _, .inr ⟨id, rfl⟩⟩
  | _ => exact absurd hwanted hforgotten

theorem reactAll_tells (hwanted : ticket ∈ client.awaited)
    {effects : List (Link.Effect (Waiter β) Ticket)}
    (hforgotten : ticket ∉ (client.reactAll link effects).1.awaited) :
    ∃ news ∈ (client.reactAll link effects).2, news.Answers ticket := by
  induction effects generalizing client with
  | nil => exact absurd hwanted hforgotten
  | cons effect effects ih =>
      rw [reactAll_cons] at hforgotten ⊢
      by_cases hstill : ticket ∈ (client.react link effect).1.awaited
      · obtain ⟨news, hmem, hanswers⟩ := ih hstill hforgotten
        exact ⟨news, List.mem_append_right _ hmem, hanswers⟩
      · obtain ⟨news, hmem, hanswers⟩ := react_tells hwanted hstill
        exact ⟨news, List.mem_append_left _ hmem, hanswers⟩

theorem onLink_tells (hwanted : ticket ∈ client.awaited)
    {happen : Connection (Waiter β) Ticket →
      Connection (Waiter β) Ticket × List (Link.Effect (Waiter β) Ticket)}
    (hforgotten : ticket ∉ (client.onLink link happen).1.awaited) :
    ∃ news ∈ (client.onLink link happen).2, news.Answers ticket := by
  unfold onLink at hforgotten ⊢
  split
  next connection hfound =>
    rw [hfound] at hforgotten
    have hrelinked : ticket ∈ (client.relink link (happen connection).1).awaited := hwanted
    exact reactAll_tells hrelinked hforgotten
  next habsent =>
    rw [habsent] at hforgotten
    exact absurd hwanted hforgotten

theorem onLink_unawaited (hunawaited : ticket ∉ client.awaited) (link : Nat)
    (happen : Connection (Waiter β) Ticket →
      Connection (Waiter β) Ticket × List (Link.Effect (Waiter β) Ticket)) :
    ticket ∉ (client.onLink link happen).1.awaited := by
  unfold onLink
  split
  next connection _ =>
    have hrelinked : ticket ∉ (client.relink link (happen connection).1).awaited := hunawaited
    exact (reactAll_unawaited hrelinked link _).2
  next => exact hunawaited

end Forgets

/-! ### Requests -/

section Given

variable {client : Client β η} {place : Nat} {connection : Connection (Waiter β) Ticket}

/-- Calls that nobody waits for are answered to nobody. -/
theorem told_run_of_quiet {steps : List (Connection.Step (Waiter β) Ticket)}
    (hquiet : ∀ step ∈ steps, (∃ id, step = .unregister id) ∨ (∃ reason, step = .shutdown reason) ∨
      ∃ id payload method, step = .send id payload (Waiter.nobody.request method)) :
    ∀ waiter ∈ told (connection.run steps).2, waiter = .nobody := by
  induction steps generalizing connection with
  | nil => simp [Connection.run]
  | cons step steps ih =>
      intro waiter hmem
      change waiter ∈ told
        ((connection.step step).2 ++ ((connection.step step).1.run steps).2) at hmem
      rw [Link.told_append] at hmem
      rcases List.mem_append.mp hmem with hfirst | hlater
      · obtain ⟨id, rfl⟩ | ⟨reason, rfl⟩ | ⟨id, payload, method, rfl⟩ :=
          hquiet step List.mem_cons_self
        · contradiction
        · contradiction
        · unfold Connection.step Connection.send at hfirst
          dsimp only at hfirst
          split at hfirst
          next => exact List.mem_singleton.mp hfirst
          next => contradiction
      · exact ih (fun other hmem => hquiet other (List.mem_cons_of_mem _ hmem)) waiter hlater

/-- Whoever is told in an action does not wait after it. -/
theorem unawaited_of_told (hfound : client.links[place]? = some connection) {action : Action β η}
    {waiter : Waiter β} {ticket : Ticket} (hown : waiter.caller? = some ticket)
    (hmem : waiter ∈ told (connection.run (client.moves place action)).2) :
    ticket ∉ (client.step action).1.awaited := by
  have hsomebody : waiter ≠ .nobody := by
    rintro rfl
    contradiction
  by_cases hturned : ∃ turn, action = .turn place turn
  · obtain ⟨turn, rfl⟩ := hturned
    have hsteps : client.moves place (.turn place turn)
        = .turn turn :: (connection.turn turn).2.flatMap client.dismissal := by
      unfold moves
      rw [hfound]
      exact if_pos rfl
    rw [hsteps] at hmem
    change waiter ∈ told ((connection.turn turn).2 ++
      ((connection.turn turn).1.run
        ((connection.turn turn).2.flatMap client.dismissal)).2) at hmem
    rw [Link.told_append] at hmem
    rcases List.mem_append.mp hmem with hfirst | hlater
    · have hhappened : waiter ∈ told (connection.step (.turn turn)).2 := hfirst
      exact onLink_forgets hfound hown hhappened
    · refine absurd (told_run_of_quiet ?_ waiter hlater) hsomebody
      intro step hmem
      obtain ⟨effect, -, hmem⟩ := List.mem_flatMap.mp hmem
      exact (mem_dismissal hmem).imp_right .inr
  by_cases hqueued : ∃ request, action = .enqueue request
  · obtain ⟨request, rfl⟩ := hqueued
    obtain ⟨-, hnothing⟩ | ⟨submission, id, payload, -, -, hafter, hsends⟩ :=
      client.enqueue_cases request
    · rw [hnothing] at hmem
      contradiction
    · rw [hsends] at hmem
      split at hmem
      next hhere =>
        subst hhere
        have htaken : { client with
          submissions := client.submissions.erase request }.links[submission.link]?
            = some connection := hfound
        have hhappened : waiter ∈ told (connection.step
            (.send id payload (submission.waiter.request submission.method))).2 := by
          simpa [Connection.run] using hmem
        change ticket ∉ (client.enqueue request).1.awaited
        rw [hafter]
        exact onLink_forgets htaken hown hhappened
      next => contradiction
  · refine absurd (told_run_of_quiet ?_ waiter hmem) hsomebody
    intro step hmem
    cases cause_of_mem_moves hmem with
    | turn turn => exact absurd ⟨turn, rfl⟩ hturned
    | orphan turn id => exact absurd ⟨turn, rfl⟩ hturned
    | dismiss turn id payload method => exact absurd ⟨turn, rfl⟩ hturned
    | send ticket id payload waiter method => exact absurd ⟨ticket, rfl⟩ hqueued
    | retire ticket id => exact .inl ⟨id, rfl⟩
    | reset hchanging => exact .inr (.inl ⟨_, rfl⟩)
    | close hchanging => exact .inr (.inl ⟨_, rfl⟩)

/-- A request that is given to a connection, or that the connection has not completed, is completed
in an action or stays with the connection. -/
theorem inFlight_of_given (hkept : AllLinks Kept client)
    (hfound : client.links[place]? = some connection) {action : Action β η} {waiter : Waiter β}
    {ticket : Ticket} (hown : waiter.caller? = some ticket)
    (hgiven : waiter ∈ sent (client.moves place action) ++ connection.outstanding)
    (hwanted : ticket ∈ (client.step action).1.awaited) :
    (client.step action).1.InFlight ticket := by
  have haccounts := connection.run_accounts (client.moves place action)
  rcases List.mem_append.mp (haccounts.mem_iff.mpr hgiven) with htold | hleft
  · exact absurd hwanted (unawaited_of_told hfound hown htold)
  · exact .inr ⟨_, List.mem_of_getElem? (links_step hkept hfound action), waiter, hleft, hown⟩

end Given

/-! ### Operations that are no closing -/

/-- What a client keeps to about an operation that closes no subscription. -/
structure Serving (client : Client β η) (ticket : Ticket) : Prop where
  addressed : client.Addressed
  /-- Its request tells the caller. -/
  own : ∀ submission, client.submissions.find? ticket = some submission →
    submission.waiter.caller? = some ticket
  unparted : client.farewells.find? ticket = none
  /-- Whoever waits has a request. -/
  inFlight : ticket ∈ client.awaited → client.InFlight ticket

namespace Serving

variable {client : Client β η} {ticket : Ticket}

theorem fresh (address : Address) (options : Options) (ticket : Ticket) :
    (Client.fresh address options : Client β η).Serving ticket where
  addressed := .fresh address options
  own _ hfound := by contradiction
  unparted := rfl
  inFlight hwanted := by contradiction

theorem own_step (hserving : client.Serving ticket) {action : Action β η}
    (hlone : ∀ handle, action ≠ .unsubscribe ticket handle) {submission : Submission β}
    (hfound : (client.step action).1.submissions.find? ticket = some submission) :
    submission.waiter.caller? = some ticket := by
  have hstepped := client.stepped action
  generalize client.step action = next at hstepped hfound
  have hinsert {other : Ticket} {given : Submission β}
      (hown : other = ticket → given.waiter.caller? = some ticket)
      (hfound : (client.submissions.insert other given).find? ticket = some submission) :
      submission.waiter.caller? = some ticket := by
    rw [Registry.find?_insert] at hfound
    split at hfound
    next hsame =>
      cases hfound
      exact hown hsame.symm
    next => exact hserving.own submission hfound
  cases hstepped with
  | calls other call link hcurrent =>
      refine hinsert ?_ hfound
      exact fun hsame => congrArg some hsame
  | subscribes other call link hcurrent =>
      refine hinsert ?_ hfound
      exact fun hsame => congrArg some hsame
  | parts other handle held _ _ =>
      refine hinsert ?_ hfound
      exact fun hsame => absurd rfl (hsame ▸ hlone handle)
  | numbers other given hthere _ =>
      refine hinsert ?_ hfound
      exact fun hsame => hserving.own given (hsame ▸ hthere)
  | sends other given id hthere _ =>
      rw [submissions_onLink, Registry.find?_erase] at hfound
      split at hfound
      next => contradiction
      next => exact hserving.own submission hfound
  | closes old _ =>
      exact hserving.own submission (client.submissions_shutDown old .closed ▸ hfound)
  | turns link turn => exact hserving.own submission (client.submissions_onLink link _ ▸ hfound)
  | _ => exact hserving.own submission hfound

theorem unparted_step (hserving : client.Serving ticket) {action : Action β η}
    (hlone : ∀ handle, action ≠ .unsubscribe ticket handle) :
    (client.step action).1.farewells.find? ticket = none := by
  by_contra hparts
  obtain ⟨farewell, hfound⟩ := Option.ne_none_iff_exists'.mp hparts
  have hcloses : (client.step action).1.closes? ticket = some (farewell.link, farewell.id) := by
    unfold closes?
    rw [hfound]
    rfl
  obtain hbefore | ⟨handle, held, hasked, -⟩ := client.closes?_step action hcloses
  · unfold closes? at hbefore
    rw [hserving.unparted] at hbefore
    contradiction
  · exact hlone handle hasked

/-- Only a call or a subscribe call of its own makes a caller wait. -/
theorem starts_step (hunawaited : ticket ∉ client.awaited) {action : Action β η}
    (hlone : ∀ handle, action ≠ .unsubscribe ticket handle)
    (hwanted : ticket ∈ (client.step action).1.awaited) :
    ((client.step action).1.submissions.find? ticket).isSome = true := by
  have hstepped := client.stepped action
  generalize client.step action = next at hstepped hwanted ⊢
  have hinsert {other : Ticket} {given : Submission β}
      (hwanted : ticket ∈ other :: client.awaited) :
      ((client.submissions.insert other given).find? ticket).isSome = true := by
    rw [Registry.find?_insert, if_pos ((List.mem_cons.mp hwanted).resolve_right hunawaited)]
    rfl
  cases hstepped with
  | calls other call link hcurrent => exact hinsert hwanted
  | subscribes other call link hcurrent => exact hinsert hwanted
  | parts other handle held _ _ =>
      have hsame := (List.mem_cons.mp hwanted).resolve_right hunawaited
      exact absurd rfl (hsame ▸ hlone handle)
  | sends other given id _ _ =>
      let taken := { client with submissions := client.submissions.erase other }
      have hstill : ticket ∉ taken.awaited := hunawaited
      exact absurd hwanted (onLink_unawaited hstill _ _)
  | forgets other => exact absurd (List.mem_of_mem_filter hwanted) hunawaited
  | closes old _ => cases old <;> exact absurd hwanted hunawaited
  | retires other farewell answer _ _ => exact absurd (List.mem_of_mem_filter hwanted) hunawaited
  | turns link turn => exact absurd hwanted (onLink_unawaited hunawaited link _)
  | _ => exact absurd hwanted hunawaited

/-- A request on its way stays there or comes to its connection. -/
theorem inFlight_underway (hserving : client.Serving ticket) (hkept : AllLinks Kept client)
    (hunderway : (client.submissions.find? ticket).isSome = true) {action : Action β η}
    (hwanted : ticket ∈ (client.step action).1.awaited) :
    (client.step action).1.InFlight ticket := by
  have hinsert (other : Ticket) (given : Submission β) :
      ((client.submissions.insert other given).find? ticket).isSome = true := by
    rw [Registry.find?_insert]
    split
    next => rfl
    next => exact hunderway
  cases client.forwards_step action with
  | submits _ other given _ _ hsubmissions =>
      left
      rw [hsubmissions]
      exact hinsert other given
  | numbers other =>
      left
      change ((client.number other).submissions.find? ticket).isSome = true
      rcases client.number_cases other with ⟨hsame, -⟩ | ⟨given, -, hafter, -⟩
      · rw [hsame]
        exact hunderway
      · rw [hafter]
        exact hinsert other _
  | sends other =>
      rcases client.enqueue_cases other with
        ⟨hsame, -⟩ | ⟨given, id, payload, hfound, -, hafter, hsends⟩
      · left
        change ((client.enqueue other).1.submissions.find? ticket).isSome = true
        rw [hsame]
        exact hunderway
      · by_cases hmine : ticket = other
        · subst hmine
          have hthere := hserving.addressed.of_found hfound
          refine inFlight_of_given hkept (List.getElem?_eq_getElem hthere)
            (hserving.own given hfound) (List.mem_append_left _ ?_) hwanted
          rw [hsends, if_pos rfl]
          exact List.mem_singleton_self _
        · left
          change ((client.enqueue other).1.submissions.find? ticket).isSome = true
          rw [hafter, submissions_onLink]
          dsimp only
          rw [Registry.find?_erase, if_neg hmine]
          exact hunderway
  | keeps _ hsubmissions =>
      left
      rw [hsubmissions]
      exact hunderway

theorem step (hserving : client.Serving ticket) (hkept : AllLinks Kept client)
    {action : Action β η} (hlone : ∀ handle, action ≠ .unsubscribe ticket handle) :
    (client.step action).1.Serving ticket where
  addressed := hserving.addressed.step hkept action
  own _ hfound := hserving.own_step hlone hfound
  unparted := hserving.unparted_step hlone
  inFlight hwanted := by
    by_cases hbefore : ticket ∈ client.awaited
    · rcases hserving.inFlight hbefore with hunderway | ⟨connection, hmem, waiter, hwaits, hown⟩
      · exact hserving.inFlight_underway hkept hunderway hwanted
      · obtain ⟨place, hfound⟩ := List.mem_iff_getElem?.mp hmem
        exact inFlight_of_given hkept hfound hown (List.mem_append_right _ hwaits) hwanted
    · exact .inl (starts_step hbefore hlone hwanted)

theorem run (hserving : client.Serving ticket) (hkept : AllLinks Kept client)
    {history : List (Action β η)} (hlone : ∀ handle, .unsubscribe ticket handle ∉ history) :
    (client.run history).1.Serving ticket := by
  induction history generalizing client with
  | nil => exact hserving
  | cons action history ih =>
      refine ih (hserving.step hkept ?_) (kept_step hkept action) ?_
      · exact fun handle hsame => hlone handle (hsame ▸ List.mem_cons_self)
      · exact fun handle hmem => hlone handle (List.mem_cons_of_mem _ hmem)

/-- Whoever waits goes on waiting until told, or until the outcome is not wanted any more. -/
theorem awaited_step (hserving : client.Serving ticket) {action : Action β η}
    (hwanted : ticket ∈ client.awaited) (hunforgotten : action ≠ .forget ticket) :
    ticket ∈ (client.step action).1.awaited ∨
      ∃ news ∈ (client.step action).2, news.Answers ticket := by
  have hstepped := client.stepped action
  generalize client.step action = next at hstepped ⊢
  cases hstepped with
  | calls other call link hcurrent => exact .inl (List.mem_cons_of_mem _ hwanted)
  | subscribes other call link hcurrent => exact .inl (List.mem_cons_of_mem _ hwanted)
  | parts other handle held _ _ => exact .inl (List.mem_cons_of_mem _ hwanted)
  | sends other given id _ _ =>
      let taken := { client with submissions := client.submissions.erase other }
      have hstill : ticket ∈ taken.awaited := hwanted
      exact or_iff_not_imp_left.mpr (onLink_tells hstill)
  | forgets other => exact .inl (forget_other hwanted fun hsame => hunforgotten (congrArg _ hsame))
  | closes old _ => cases old <;> exact .inl hwanted
  | retires other farewell answer hfound _ =>
      refine .inl (List.mem_filter.mpr ⟨hwanted, ?_⟩)
      simp only [decide_eq_true_eq]
      rintro rfl
      rw [hserving.unparted] at hfound
      contradiction
  | turns link turn => exact or_iff_not_imp_left.mpr (onLink_tells hwanted)
  | _ => exact .inl hwanted

/-- Whoever calls waits from then on, or is refused at once. -/
theorem awaited_call (client : Client β η) {action : Action β η}
    (hcalls : action.caller? = some ticket) :
    ticket ∈ (client.step action).1.awaited ∨
      ∃ news ∈ (client.step action).2, news.Answers ticket := by
  have hstepped := client.stepped action
  generalize client.step action = next at hstepped ⊢
  cases hstepped with
  | idle _ _ huncalled => exact absurd (huncalled.symm.trans hcalls) (by simp)
  | calls other call link hcurrent =>
      cases hcalls
      exact .inl List.mem_cons_self
  | subscribes other call link hcurrent =>
      cases hcalls
      exact .inl List.mem_cons_self
  | refusesCall other call hnone =>
      cases hcalls
      exact .inr ⟨_, List.mem_singleton_self _, .inl ⟨_, rfl⟩⟩
  | refusesSubscribe other call hnone =>
      cases hcalls
      exact .inr ⟨_, List.mem_singleton_self _, .inl ⟨_, rfl⟩⟩
  | _ => contradiction

/-- So whoever waits or calls in a history waits at its end, or was told. -/
theorem awaited_run (hserving : client.Serving ticket) (hkept : AllLinks Kept client)
    {history : List (Action β η)} (hlone : ∀ handle, .unsubscribe ticket handle ∉ history)
    (hunforgotten : .forget ticket ∉ history)
    (hwaits : ticket ∈ client.awaited ∨ ∃ action ∈ history, action.caller? = some ticket) :
    ticket ∈ (client.run history).1.awaited ∨
      ∃ news ∈ (client.run history).2, news.Answers ticket := by
  induction history generalizing client with
  | nil => exact .inl (hwaits.resolve_right (by simp))
  | cons action history ih =>
      have hstill : (client.step action).1.Serving ticket :=
        hserving.step hkept fun handle hsame => hlone handle (hsame ▸ List.mem_cons_self)
      have hkeeps := kept_step hkept action
      have hrest := ih hstill hkeeps (fun handle hmem => hlone handle (List.mem_cons_of_mem _ hmem))
        fun hmem => hunforgotten (List.mem_cons_of_mem _ hmem)
      have hfirst : (ticket ∈ (client.step action).1.awaited ∨
          ∃ news ∈ (client.step action).2, news.Answers ticket) ∨
          ∃ action ∈ history, action.caller? = some ticket := by
        rcases hwaits with hwanted | ⟨caller, hmem, hcalls⟩
        · refine .inl (hserving.awaited_step hwanted ?_)
          exact fun hsame => hunforgotten (hsame ▸ List.mem_cons_self)
        · rcases List.mem_cons.mp hmem with rfl | hlater
          · exact .inl (awaited_call client hcalls)
          · exact .inr ⟨caller, hlater, hcalls⟩
      rw [run_cons]
      rcases hfirst with (hwanted | ⟨news, hmem, hanswers⟩) | hlater
      · exact (hrest (.inl hwanted)).imp_right fun ⟨news, hmem, hanswers⟩ =>
          ⟨news, List.mem_append_right _ hmem, hanswers⟩
      · exact .inr ⟨news, List.mem_append_left _ hmem, hanswers⟩
      · exact (hrest (.inr hlater)).imp_right fun ⟨news, hmem, hanswers⟩ =>
          ⟨news, List.mem_append_right _ hmem, hanswers⟩

end Serving

/-- A request that comes to a connection that has ended fails at once, and its caller learns it. -/
theorem enqueue_of_ended {client : Client β η} {ticket : Ticket} {submission : Submission β}
    {connection : Connection (Waiter β) Ticket}
    (hfound : client.submissions.find? ticket = some submission)
    (hown : submission.waiter.caller? = some ticket) (hwanted : ticket ∈ client.awaited)
    (hthere : client.links[submission.link]? = some connection) (hended : connection.ended = true)
    {id : Rpc.RequestId} (hnumbered : submission.id = some id) :
    (client.enqueue ticket).2 = [.resolved ticket (.error .connectionClosed)] := by
  obtain ⟨link, method, params, waiter, number⟩ := submission
  cases hnumbered
  have hstill : ticket ∈ ({ client with
      submissions := client.submissions.erase ticket }.relink link connection).awaited := hwanted
  unfold enqueue onLink
  rw [hfound]
  dsimp only at hthere ⊢
  rw [hthere]
  dsimp only
  rw [Connection.send_of_ended hended, reactAll_cons]
  have htold := resolves_react hstill link hown .connectionClosed
  obtain hnone | ⟨_, effect, -, -, hone⟩ := effects_react_answer
    ({ client with submissions := client.submissions.erase ticket }.relink link connection) link
    waiter (.error .connectionClosed)
  · rw [hnone] at htold
    contradiction
  · rw [hone] at htold
    rw [List.mem_singleton.mp htold]
    exact (List.append_nil _).trans hone

/-- When every connection of a client has ended, everybody who called in a history was told, unless
the outcome is not wanted any more or the request has not come to its connection. It fails as soon
as it comes there. -/
theorem told_of_ended (address : Address) (options : Options) {history : List (Action β η)}
    {client : Client β η} (hreached : ((fresh address options).run history).1 = client)
    (hended : ∀ connection ∈ client.links, connection.ended = true)
    {ticket : Ticket} (hcalls : ∃ action ∈ history, action.caller? = some ticket)
    (hlone : ∀ handle, .unsubscribe ticket handle ∉ history) :
    (∃ news ∈ ((fresh address options : Client β η).run history).2, news.Answers ticket) ∨
      .forget ticket ∈ history ∨
      ∃ submission, client.submissions.find? ticket = some submission ∧
        (submission.id.isSome = true →
          (client.enqueue ticket).2 = [.resolved ticket (.error .connectionClosed)]) := by
  subst hreached
  have hkept := kept_links address options ([] : List (Action β η))
  have hserving : (fresh address options : Client β η).Serving ticket :=
    .fresh address options ticket
  by_cases hunforgotten : .forget ticket ∈ history
  · exact .inr (.inl hunforgotten)
  rcases hserving.awaited_run hkept hlone hunforgotten (.inr hcalls) with hwanted | htold
  · have hserves := hserving.run hkept hlone
    rcases hserves.inFlight hwanted with hunderway | ⟨connection, hmem, waiter, hwaits, -⟩
    · obtain ⟨submission, hfound⟩ := Option.isSome_iff_exists.mp hunderway
      refine .inr (.inr ⟨submission, hfound, fun hnumbered => ?_⟩)
      obtain ⟨id, hnumbered⟩ := Option.isSome_iff_exists.mp hnumbered
      have hthere := List.getElem?_eq_getElem (hserves.addressed.of_found hfound)
      exact enqueue_of_ended hfound (hserves.own submission hfound) hwanted hthere
        (hended _ (List.mem_of_getElem? hthere)) hnumbered
    · have horderly := (kept_links address options history connection hmem).orderly
      rw [horderly.outstanding (hended connection hmem)] at hwaits
      contradiction
  · exact .inl htold

end ChainRpc.Client
