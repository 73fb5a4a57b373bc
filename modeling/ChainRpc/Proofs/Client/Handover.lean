import ChainRpc.Proofs.Client.Epochs
import ChainRpc.Proofs.Client.Occurrences

/-!
# Between two connections

While a connect is under way, no caller needs to do anything: the loops take their turns, and the
change of connections goes on by itself. The client uses the new connection from the end of the
handshake, and the connect is over when the loop of the old one has ended. Until a caller comes,
nothing reaches the new connection, and a number is taken only when a loop ends a subscription
whose caller is gone.
-/

namespace ChainRpc.Client

open Link (Connection told)

variable {β η : Type}

/-- The action happens without any caller: a loop takes a turn, or the change of connections that is
under way goes on. -/
def Action.Unprompted : Action β η → Prop
  | .proceed | .turn _ _ => True
  | .beginConnect | .endConnect _ | .beginClose | .call _ _ | .subscribe _ _ | .number _
  | .enqueue _ | .forget _ | .setHandler _ _ | .unsubscribe _ _ | .retire _ => False

/-! ### What turns tell -/

/-- The effect is news of a connect or a close. -/
def Effect.IsMilestone : Effect β η → Prop
  | .connected _ | .closed | .notified => True
  | .wrote _ _ | .resolved _ _ | .subscribed _ _ | .unsubscribed _ _ | .event _ _ _ => False

/-- The effect is the end of a connect. -/
def Effect.EndsConnect : Effect β η → Prop
  | .connected _ => True
  | .wrote _ _ | .resolved _ _ | .subscribed _ _ | .unsubscribed _ _ | .event _ _ _ | .closed
  | .notified => False

theorem Effect.EndsConnect.isMilestone {effect : Effect β η} (hends : effect.EndsConnect) :
    effect.IsMilestone := by
  cases effect with
  | connected result => trivial
  | _ => contradiction

theorem react_no_milestone (client : Client β η) (link : Nat)
    (effect : Link.Effect (Waiter β) Ticket) :
    ∀ told ∈ (client.react link effect).2, ¬told.IsMilestone := by
  cases effect with
  | registered id => simp [react]
  | wrote frame => simp [react, Effect.IsMilestone]
  | delivered listener method raw =>
      change ∀ told ∈ client.deliver listener method raw, ¬told.IsMilestone
      obtain hnone | ⟨handler, value, hone⟩ := client.deliver_le_one listener method raw
      · simp [hnone]
      · simp [hone, Effect.IsMilestone]
  | completed waiter outcome =>
      obtain hnone | ⟨ticket, effect, -, hanswers, hone⟩ :=
        client.effects_react_answer link waiter outcome
      · simp [hnone]
      · rw [hone]
        intro told hmem
        rw [List.mem_singleton.mp hmem]
        obtain ⟨result, rfl⟩ | ⟨id, rfl⟩ := hanswers
        · exact id
        · exact fun hends => hends

theorem reactAll_no_milestone (client : Client β η) (link : Nat)
    (effects : List (Link.Effect (Waiter β) Ticket)) :
    ∀ told ∈ (client.reactAll link effects).2, ¬told.IsMilestone := by
  induction effects generalizing client with
  | nil => simp [reactAll]
  | cons effect effects ih =>
      intro told hmem
      rw [reactAll_cons] at hmem
      rcases List.mem_append.mp hmem with hfirst | hlater
      · exact client.react_no_milestone link effect told hfirst
      · exact ih _ told hlater

/-- What happens to a connection is no news of a connect or a close. -/
theorem onLink_no_milestone (client : Client β η) (link : Nat)
    (happen : Connection (Waiter β) Ticket →
      Connection (Waiter β) Ticket × List (Link.Effect (Waiter β) Ticket)) :
    ∀ told ∈ (client.onLink link happen).2, ¬told.IsMilestone := by
  unfold onLink
  split
  next connection _ => exact reactAll_no_milestone _ link (happen connection).2
  next => simp

theorem turn_goes_on (client : Client β η) (link : Nat) (turn : Link.Turn) :
    ∀ told ∈ (client.turn link turn).2, ¬told.EndsConnect :=
  fun told hmem hends => client.onLink_no_milestone link (·.turn turn) told hmem hends.isMilestone

/-! ### What happens without callers -/

/-- No connection is taken into use without callers. -/
theorem unprompted_frame (client : Client β η) {action : Action β η}
    (hunprompted : action.Unprompted) :
    (client.step action).1.epoch = client.epoch ∧ (client.step action).1.active = client.active ∧
      (client.step action).1.links.length = client.links.length := by
  cases action with
  | turn link turn =>
      have hsame := client.sameLinks_step (.turn link turn) id
      exact ⟨hsame.epoch, hsame.active, hsame.count⟩
  | proceed =>
      unfold Client.step proceed shutDown
      dsimp only
      split
      next => exact ⟨rfl, rfl, List.length_modify ..⟩
      next => split <;> exact ⟨rfl, rfl, rfl⟩
      next =>
        split
        next => exact ⟨rfl, rfl, List.length_modify ..⟩
        next => exact ⟨rfl, rfl, rfl⟩
      next => split <;> exact ⟨rfl, rfl, rfl⟩
      next => exact ⟨rfl, rfl, rfl⟩
      next => exact ⟨rfl, rfl, rfl⟩
  | _ => contradiction

theorem run_unprompted_frame (client : Client β η) {history : List (Action β η)}
    (hunprompted : ∀ action ∈ history, action.Unprompted) :
    (client.run history).1.epoch = client.epoch ∧ (client.run history).1.active = client.active ∧
      (client.run history).1.links.length = client.links.length := by
  induction history generalizing client with
  | nil => exact ⟨rfl, rfl, rfl⟩
  | cons action history ih =>
      obtain ⟨hepoch, hactive, hcount⟩ :=
        client.unprompted_frame (hunprompted action List.mem_cons_self)
      obtain ⟨hepoch', hactive', hcount'⟩ :=
        ih (client.step action).1 fun other hmem => hunprompted other (List.mem_cons_of_mem _ hmem)
      exact ⟨hepoch'.trans hepoch, hactive'.trans hactive, hcount'.trans hcount⟩

/-- No old connection has to end for the change that is under way, if there is one. -/
def Shaking (client : Client β η) : Prop :=
  client.transition = none ∨ ∃ previous, client.transition = some (.connecting previous)

/-- A connect stays where it is until the handshake ends. -/
theorem Shaking.step {client : Client β η} (hshaking : client.Shaking) {action : Action β η}
    (hunprompted : action.Unprompted) :
    (client.step action).1.transition = client.transition ∧
      ∀ told ∈ (client.step action).2, ¬told.EndsConnect := by
  cases action with
  | turn link turn =>
      have hsame := client.sameLinks_step (.turn link turn) id
      exact ⟨hsame.transition, client.turn_goes_on link turn⟩
  | proceed =>
      unfold Client.step proceed
      dsimp only
      obtain hnone | ⟨previous, hconnecting⟩ := hshaking
      · rw [hnone]
        exact ⟨hnone, by simp⟩
      · rw [hconnecting]
        exact ⟨hconnecting, by simp⟩
  | _ => contradiction

theorem Shaking.run {client : Client β η} (hshaking : client.Shaking) {history : List (Action β η)}
    (hunprompted : ∀ action ∈ history, action.Unprompted) :
    (client.run history).1.transition = client.transition ∧
      ∀ told ∈ (client.run history).2, ¬told.EndsConnect := by
  induction history generalizing client with
  | nil => exact ⟨rfl, by simp [Client.run]⟩
  | cons action history ih =>
      obtain ⟨hsame, hsilent⟩ := hshaking.step (hunprompted action List.mem_cons_self)
      have hstill : (client.step action).1.Shaking := by
        unfold Shaking
        rw [hsame]
        exact hshaking
      obtain ⟨hsame', hsilent'⟩ :=
        ih hstill fun other hmem => hunprompted other (List.mem_cons_of_mem _ hmem)
      refine ⟨hsame'.trans hsame, ?_⟩
      intro told hmem
      rcases List.mem_append.mp hmem with hfirst | hlater
      · exact hsilent told hfirst
      · exact hsilent' told hlater

/-- The old connection has to end, or it has ended and the connect is over. -/
def Replaces (old : Nat) (client : Client β η) : Prop :=
  client.transition = some (.replacing old) ∨ client.transition = some (.draining old) ∨
    client.transition = none ∧ client.hasEnded old = true

section Replaces

variable {old : Nat} {client : Client β η} {connection : Connection (Waiter β) Ticket}

theorem hasEnded_step (hkept : AllLinks Kept client) (hfound : client.links[old]? = some connection)
    (hended : client.hasEnded old = true) (action : Action β η) :
    (client.step action).1.hasEnded old = true := by
  unfold hasEnded at hended ⊢
  rw [hfound, Option.all_some] at hended
  rw [links_step hkept hfound action, Option.all_some]
  exact Connection.run_ended hended _

/-- The change goes on by itself, and the connect is over at its end alone. -/
theorem Replaces.step (hreplaces : Replaces old client) (hkept : AllLinks Kept client)
    (hfound : client.links[old]? = some connection) {action : Action β η}
    (hunprompted : action.Unprompted) :
    Replaces old (client.step action).1 ∧
      ∀ told ∈ (client.step action).2, told.EndsConnect →
        (client.step action).1.transition = none := by
  have hpersists (hended : client.hasEnded old = true) := hasEnded_step hkept hfound hended action
  cases action with
  | turn link turn =>
      have hsame := (client.sameLinks_step (.turn link turn) id).transition
      refine ⟨?_, fun told hmem hends => absurd hends (client.turn_goes_on link turn told hmem)⟩
      unfold Replaces
      rw [hsame]
      exact hreplaces.imp_right fun hlater => hlater.imp_right fun hsettled =>
        ⟨hsettled.1, hpersists hsettled.2⟩
  | proceed =>
      unfold Client.step proceed at hpersists ⊢
      dsimp only at hpersists ⊢
      obtain hreplacing | hdraining | ⟨hsettled, hended⟩ := hreplaces
      · rw [hreplacing]
        exact ⟨.inr (.inl rfl), by simp⟩
      · rw [hdraining]
        dsimp only
        split
        next hended => exact ⟨.inr (.inr ⟨rfl, hended⟩), fun _ _ _ => rfl⟩
        next => exact ⟨.inr (.inl hdraining), by simp⟩
      · rw [hsettled]
        exact ⟨.inr (.inr ⟨hsettled, hended⟩), by simp⟩
  | _ => contradiction

theorem Replaces.run (hreplaces : Replaces old client) (hkept : AllLinks Kept client)
    (hfound : client.links[old]? = some connection) {history : List (Action β η)}
    (hunprompted : ∀ action ∈ history, action.Unprompted) :
    Replaces old (client.run history).1 ∧
      ∀ told ∈ (client.run history).2, told.EndsConnect →
        (client.run history).1.transition = none := by
  induction history generalizing client connection with
  | nil => exact ⟨hreplaces, by simp [Client.run]⟩
  | cons action history ih =>
      obtain ⟨hstill, hsettles⟩ :=
        hreplaces.step hkept hfound (hunprompted action List.mem_cons_self)
      have hrest : ∀ other ∈ history, other.Unprompted :=
        fun other hmem => hunprompted other (List.mem_cons_of_mem _ hmem)
      obtain ⟨hstill', hsettles'⟩ := ih hstill
        (kept_step hkept action)
        (links_step hkept hfound action) hrest
      refine ⟨hstill', ?_⟩
      intro told hmem hends
      rcases List.mem_append.mp hmem with hfirst | hlater
      · -- Nothing is under way after the end, and nothing begins.
        have hnone := hsettles told hfirst hends
        exact (Shaking.run (.inl hnone) hrest).1.trans hnone
      · exact hsettles' told hlater hends

end Replaces

/-! ### A connection without callers -/

section Vacant

variable {client : Client β η} {place : Nat} {connection : Connection (Waiter β) Ticket}

theorem Kept.vacant (hkept : Kept connection) (hended : connection.ended = true) :
    connection.Vacant where
  pending := (hkept.orderly.cleared hended).2
  subscriptions := hkept.forgotten hended
  queue := (hkept.orderly.cleared hended).1

theorem dismissal_of_untold (client : Client β η) {effect : Link.Effect (Waiter β) Ticket}
    (huntold : effect.told? = none) : client.dismissal effect = [] := by
  cases effect with
  | completed waiter outcome => contradiction
  | _ => rfl

/-- Without callers nothing reaches a connection that nobody has asked to end. -/
theorem vacant_moves (hfound : client.links[place]? = some connection) (hkept : Kept connection)
    (hvacant : connection.Vacant) {action : Action β η} (hunprompted : action.Unprompted)
    (hunasked : ∀ reason, .shutdown reason ∉ client.moves place action) :
    (connection.run (client.moves place action)).1.Vacant := by
  cases action with
  | turn link turn =>
      unfold moves
      rw [hfound]
      dsimp only
      split
      next =>
        have huntold : ∀ effect ∈ (connection.turn turn).2, effect.told? = none := by
          have hnone := hvacant.told_turn turn
          unfold told at hnone
          exact List.filterMap_eq_nil_iff.mp hnone
        have hstill : (connection.turn turn).2.flatMap client.dismissal = [] := by
          rw [List.flatMap_eq_nil_iff]
          exact fun effect hmem => client.dismissal_of_untold (huntold effect hmem)
        rw [hstill]
        exact hvacant.turn hkept.orderly turn
      next => exact hvacant
  | proceed =>
      unfold moves at hunasked ⊢
      dsimp only at hunasked ⊢
      split
      next old hchanging =>
        rw [hchanging] at hunasked
        dsimp only at hunasked
        split at hunasked
        next => exact absurd (List.mem_singleton_self _) (hunasked .reset)
        next hother =>
          rw [if_neg hother]
          exact hvacant
      next old hchanging =>
        rw [hchanging] at hunasked
        dsimp only at hunasked
        split at hunasked
        next => exact absurd (List.mem_singleton_self _) (hunasked .closed)
        next hother =>
          rw [if_neg hother]
          exact hvacant
      next => exact hvacant
  | _ => contradiction

/-- As long as an old connection is replaced and no caller comes, the new one has nothing to do. -/
theorem vacant_run {old : Nat} (hreplaces : Replaces old client) (hkept : AllLinks Kept client)
    {leaving : Connection (Waiter β) Ticket} (hthere : client.links[old]? = some leaving)
    (hfound : client.links[place]? = some connection) (hother : place ≠ old)
    (hvacant : connection.Vacant) {history : List (Action β η)}
    (hunprompted : ∀ action ∈ history, action.Unprompted) :
    (connection.run (client.course place history)).1.Vacant := by
  induction history generalizing client leaving connection with
  | nil => exact hvacant
  | cons action history ih =>
      have hfirst := hunprompted action List.mem_cons_self
      -- Only the old connection is asked to end, and this is another one.
      have hunasked : ∀ reason, .shutdown reason ∉ client.moves place action := by
        intro reason hasks
        obtain ⟨hchanging, -⟩ | ⟨hchanging, -⟩ := moves_shutdown hasks
        · unfold Replaces at hreplaces
          simp [hchanging] at hreplaces
          exact hother hreplaces
        · unfold Replaces at hreplaces
          simp [hchanging] at hreplaces
      have hkeeps := hkept connection (List.mem_of_getElem? hfound)
      rw [course, Connection.run_append]
      exact ih (hreplaces.step hkept hthere hfirst).1
        (kept_step hkept action)
        (links_step hkept hthere action) (links_step hkept hfound action)
        (vacant_moves hfound hkeeps hvacant hfirst hunasked)
        fun other hmem => hunprompted other (List.mem_cons_of_mem _ hmem)

end Vacant

/-! ### Numbers -/

/-- The occurrence makes the client end a subscription that nobody holds, by a call of its own. -/
def Occurrence.cleansUp : Occurrence β η → Bool
  | .orphaned _ _ => true
  | .opened _ _ _ _ | .closed _ _ | .ended _ | .attached _ _ | .notice _ _ _ _ | .nothing => false

/-- How many calls a client makes in a history for callers who were gone. -/
def cleanUps (client : Client β η) (history : List (Action β η)) : Nat :=
  (client.occurrences history).countP Occurrence.cleansUp

theorem coder_answer (client : Client β η) (link : Nat) (waiter : Waiter β)
    (outcome : Link.Outcome) :
    (client.react link (.completed waiter outcome)).1.coder =
      bif (client.answerOccurrence link waiter outcome).cleansUp then client.coder.take.2
      else client.coder := by
  have hreacts := client.reacts link (.completed waiter outcome)
  generalize client.react link (.completed waiter outcome) = next at hreacts ⊢
  cases hreacts with
  | refuses ticket unsubscribe event outcome error hunnamed
  | misses ticket unsubscribe event outcome error hunnamed =>
      rw [answerOccurrence_of_unnamed link hunnamed]
      rfl
  | opens ticket unsubscribe event outcome id hnamed hwanted =>
      rw [answerOccurrence_of_wanted link hnamed hwanted]
      rfl
  | abandons ticket unsubscribe event outcome id hnamed hunwanted =>
      rw [answerOccurrence_of_unwanted link hnamed hunwanted]
      rfl
  | _ => rfl

/-- A message takes a number if its answer leaves a subscription that nobody holds. -/
theorem coder_message (client : Client β η) (link : Nat)
    (connection : Connection (Waiter β) Ticket) (bytes : List UInt8) :
    (match connection.bearing bytes with
      | .answer id request outcome =>
          (client.relink link (connection.answered id request outcome)).react link
            (.completed request.owner outcome)
      | .event _ registration method raw =>
          (client, client.deliver registration.listener method raw)
      | .nothing => (client, [])).1.coder =
      bif (client.messageOccurrence link connection bytes).cleansUp then client.coder.take.2
      else client.coder := by
  unfold messageOccurrence Connection.bearing
  cases Link.envelopeOf connection.assembly.limit bytes with
  | none => rfl
  | some envelope =>
      cases envelope with
      | response id reply =>
          dsimp only
          cases connection.pending.find? id with
          | none => rfl
          | some request =>
              exact coder_answer (client.relink link (connection.answered id request _)) link
                request.owner _
      | notification method id raw =>
          dsimp only
          cases connection.subscriptions.find? id <;> rfl

theorem not_cleansUp_without_message {client : Client β η} {link : Nat}
    {connection : Connection (Waiter β) Ticket} (hfound : client.links[link]? = some connection)
    {turn : Link.Turn} (hother : ¬(connection.ended = false ∧ ∃ bytes, turn = .message bytes)) :
    (client.occurrence (.turn link turn)).cleansUp = false := by
  unfold occurrence
  dsimp only
  rw [hfound]
  dsimp only
  rcases Bool.eq_false_or_eq_true connection.ended with hended | hrunning
  · rw [if_pos hended]
    rfl
  · rw [if_neg (by simp [hrunning])]
    cases turn with
    | message bytes => exact absurd ⟨hrunning, bytes, rfl⟩ hother
    | _ =>
        dsimp only
        split <;> rfl

/-- Without callers a number is taken for each subscription that nobody holds, and for nothing
else. -/
theorem coder_unprompted {client : Client β η} (hkept : AllLinks Kept client)
    {action : Action β η} (hunprompted : action.Unprompted) :
    (client.step action).1.coder =
      bif (client.occurrence action).cleansUp then client.coder.take.2 else client.coder := by
  cases action with
  | proceed =>
      unfold Client.step proceed shutDown
      dsimp only
      split
      next => rfl
      next => split <;> rfl
      next => split <;> rfl
      next => split <;> rfl
      next => rfl
      next => rfl
  | turn link turn =>
      clear hunprompted
      change (client.turn link turn).1.coder = _
      cases hfound : client.links[link]? with
      | none =>
          have hnothing : client.occurrence (.turn link turn) = .nothing := by
            unfold occurrence
            dsimp only
            rw [hfound]
          rw [hnothing]
          unfold Client.turn onLink
          rw [hfound]
          rfl
      | some connection =>
          by_cases hmessage : connection.ended = false ∧ ∃ bytes, turn = .message bytes
          · obtain ⟨hrunning, bytes, rfl⟩ := hmessage
            rw [occurrence_message hfound hrunning,
              turn_message hfound (hkept connection (List.mem_of_getElem? hfound)) hrunning]
            exact coder_message client link connection bytes
          · have hquiet := (connection.message_or_quiet turn).resolve_left hmessage
            obtain ⟨⟨awaited, farewells, hframe⟩, -⟩ := onLink_quiet hfound (·.turn turn) hquiet
            rw [not_cleansUp_without_message hfound hmessage, cond_false]
            exact congrArg (fun after => after.coder) hframe
  | _ => contradiction

/-- So the next number is the count of those calls, and it starts again after the last one. -/
theorem next_run {client : Client β η} (hkept : AllLinks Kept client)
    {history : List (Action β η)} (hunprompted : ∀ action ∈ history, action.Unprompted)
    {taken : Nat} (hnext : client.coder.next = taken % 2 ^ 64) :
    (client.run history).1.coder.next = (taken + client.cleanUps history) % 2 ^ 64 := by
  induction history generalizing client taken with
  | nil => exact hnext
  | cons action history ih =>
      have hcoder := coder_unprompted hkept (hunprompted action List.mem_cons_self)
      have hlater (taken : Nat) (hnext : (client.step action).1.coder.next = taken % 2 ^ 64) :
          ((client.step action).1.run history).1.coder.next
            = (taken + (client.step action).1.cleanUps history) % 2 ^ 64 :=
        ih (kept_step hkept action)
          (fun other hmem => hunprompted other (List.mem_cons_of_mem _ hmem)) hnext
      change ((client.step action).1.run history).1.coder.next = _
      cases hcleans : (client.occurrence action).cleansUp with
      | false =>
          rw [hcleans, cond_false] at hcoder
          have hcount : client.cleanUps (action :: history)
              = (client.step action).1.cleanUps history := by
            simp [cleanUps, occurrences, hcleans]
          rw [hcount]
          exact hlater taken (by rw [hcoder, hnext])
      | true =>
          rw [hcleans, cond_true] at hcoder
          have hcount : client.cleanUps (action :: history)
              = (client.step action).1.cleanUps history + 1 := by
            simp [cleanUps, occurrences, hcleans]
          have htaken' : (client.step action).1.coder.next = (taken + 1) % 2 ^ 64 := by
            rw [hcoder]
            change (client.coder.next + 1) % 2 ^ 64 = _
            rw [hnext, Nat.mod_add_mod]
          rw [hlater (taken + 1) htaken', hcount]
          congr 1
          omega

end ChainRpc.Client
