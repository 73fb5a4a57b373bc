import ChainRpc.Proofs.Client.Handover
import ChainRpc.Proofs.Client.Tickets

/-!
# Callers who wait for a subscription

A loop makes a call of its own only for a subscription whose caller is gone. During a connect no
caller comes or goes, and whoever waits goes on waiting until the answer. So if everybody who
has subscribed still waits when a connect begins, the loops make no call until it is over.
-/

namespace ChainRpc.Client

open Link (Connection told)
open Link.Connection (sent)

variable {β η : Type}

/-- The action is a step of a connect, or it happens without any caller. -/
def Action.Connects : Action β η → Prop
  | .beginConnect | .endConnect _ | .proceed | .turn _ _ => True
  | .beginClose | .call _ _ | .subscribe _ _ | .number _ | .enqueue _ | .forget _
  | .setHandler _ _ | .unsubscribe _ _ | .retire _ => False

/-! ### Requests during a connect -/

section Sent

variable {client : Client β η} {place : Nat}

/-- The only requests that come to a connection are calls that nobody waits for. -/
theorem sent_moves {action : Action β η} (hconnects : action.Connects) :
    ∀ waiter ∈ sent (client.moves place action), waiter = .nobody := by
  intro waiter hmem
  obtain ⟨step, hmem, hgiven⟩ := List.mem_filterMap.mp hmem
  cases cause_of_mem_moves hmem with
  | dismiss turn id payload method => exact (Option.some.inj hgiven).symm
  | send ticket id payload waiter method => contradiction
  | _ => contradiction

theorem sent_course {history : List (Action β η)}
    (hconnects : ∀ action ∈ history, action.Connects) :
    ∀ waiter ∈ sent (client.course place history), waiter = .nobody := by
  induction history generalizing client with
  | nil => simp [course, sent]
  | cons action history ih =>
      intro waiter hmem
      unfold course sent at hmem
      rw [List.filterMap_append] at hmem
      rcases List.mem_append.mp hmem with hfirst | hlater
      · exact sent_moves (hconnects action List.mem_cons_self) waiter hfirst
      · exact ih (fun other hmem => hconnects other (List.mem_cons_of_mem _ hmem)) waiter hlater

/-- Whoever waits on a connection after such an action has waited there before. -/
theorem outstanding_moves {connection : Connection (Waiter β) Ticket} {action : Action β η}
    (hconnects : action.Connects) {waiter : Waiter β}
    (hmem : waiter ∈ (connection.run (client.moves place action)).1.outstanding)
    (hsomebody : waiter ≠ .nobody) : waiter ∈ connection.outstanding := by
  have haccounts := connection.run_accounts (client.moves place action)
  have hgiven := haccounts.mem_iff.mp (List.mem_append_right _ hmem)
  refine (List.mem_append.mp hgiven).resolve_left ?_
  exact fun hnew => hsomebody (sent_moves hconnects waiter hnew)

end Sent

/-! ### Tickets during a connect -/

section Tickets

variable {client : Client β η}

theorem awaited_reactAll {ticket : Ticket} (hwanted : ticket ∈ client.awaited) (link : Nat)
    {effects : List (Link.Effect (Waiter β) Ticket)}
    (huntold : ticket ∉ (told effects).filterMap Waiter.ticket?) :
    ticket ∈ (client.reactAll link effects).1.awaited := by
  induction effects generalizing client with
  | nil => exact hwanted
  | cons effect effects ih =>
      have hothers := (client.react_reacted link effect).others ticket hwanted
      refine ih (hothers ?_) ?_
      · intro hown
        obtain ⟨waiter, htells, hsame⟩ := Option.bind_eq_some_iff.mp hown
        refine huntold (List.mem_filterMap.mpr ⟨waiter, ?_, hsame⟩)
        exact List.mem_filterMap.mpr ⟨effect, List.mem_cons_self, htells⟩
      · intro hmem
        obtain ⟨waiter, hmem, hsame⟩ := List.mem_filterMap.mp hmem
        obtain ⟨other, hmem, htells⟩ := List.mem_filterMap.mp hmem
        refine huntold (List.mem_filterMap.mpr ⟨waiter, ?_, hsame⟩)
        exact List.mem_filterMap.mpr ⟨other, List.mem_cons_of_mem _ hmem, htells⟩

/-- A turn completes requests and leaves the others open. -/
theorem count_turn {link : Nat} {connection : Connection (Waiter β) Ticket}
    (hfound : client.links[link]? = some connection) (turn : Link.Turn) (ticket : Ticket) :
    ((told (connection.turn turn).2).filterMap Waiter.ticket?).count ticket
        + (client.turn link turn).1.openTickets.count ticket
      = client.openTickets.count ticket := by
  have hreplaced := count_flatMap_set carried hfound (connection.turn turn).1 ticket
  have hmoved := ((connection.turn_accounts turn).filterMap Waiter.ticket?).count_eq ticket
  rw [List.filterMap_append, List.count_append, List.nil_append] at hmoved
  unfold Client.turn onLink
  rw [hfound]
  dsimp only
  rw [reactAll_openTickets]
  simp only [openTickets, underway, List.count_append]
  unfold carried at hreplaced ⊢
  omega

/-- A caller whose request stays open goes on waiting. -/
theorem awaited_step {action : Action β η} (hconnects : action.Connects)
    (hdistinct : client.openTickets.Nodup) {ticket : Ticket} (hwanted : ticket ∈ client.awaited)
    (hstill : ticket ∈ (client.step action).1.openTickets) :
    ticket ∈ (client.step action).1.awaited := by
  cases action with
  | beginConnect =>
      unfold Client.step beginConnect
      dsimp only
      split
      next => exact hwanted
      next => split <;> exact hwanted
  | endConnect handshake =>
      unfold Client.step endConnect failConnect openLink
      dsimp only
      split
      next => split <;> exact hwanted
      next => exact hwanted
  | proceed =>
      unfold Client.step proceed shutDown
      dsimp only
      split
      next => exact hwanted
      next => split <;> exact hwanted
      next => split <;> exact hwanted
      next => split <;> exact hwanted
      next => exact hwanted
      next => exact hwanted
  | turn link turn =>
      cases hfound : client.links[link]? with
      | none =>
          change ticket ∈ (client.turn link turn).1.awaited
          unfold Client.turn onLink
          rw [hfound]
          exact hwanted
      | some connection =>
          -- The ticket was open once, and it is open still.
          have huntold : ticket ∉ (told (connection.turn turn).2).filterMap Waiter.ticket? := by
            intro hmem
            have hcounted := count_turn hfound turn ticket
            have honce := List.nodup_iff_count_le_one.mp hdistinct ticket
            have hstays : 0 < (client.turn link turn).1.openTickets.count ticket :=
              List.count_pos_iff.mpr hstill
            have := List.count_pos_iff.mpr hmem
            omega
          have hrelinked : ticket ∈ (client.relink link (connection.turn turn).1).awaited := hwanted
          change ticket ∈ (client.turn link turn).1.awaited
          unfold Client.turn onLink
          rw [hfound]
          exact awaited_reactAll hrelinked link huntold
  | _ => contradiction

theorem openTickets_nodup_step (hdistinct : client.openTickets.Nodup) {action : Action β η}
    (hconnects : action.Connects) : (client.step action).1.openTickets.Nodup := by
  rw [List.nodup_iff_count_le_one] at hdistinct ⊢
  intro ticket
  have hadded := client.count_openTickets_step action ticket
  have hnone : action.ticket? = none := by
    cases action <;> first | rfl | contradiction
  rw [hnone] at hadded
  have := hdistinct ticket
  simp only [Option.toList_none, List.count_nil] at hadded
  omega

end Tickets

/-! ### Everybody waits -/

/-- Whoever has subscribed waits for the answer. -/
def Attended (client : Client β η) : Prop :=
  ∀ connection ∈ client.links, ∀ ticket unsubscribe event,
    .subscriber ticket unsubscribe event ∈ connection.outstanding → ticket ∈ client.awaited

namespace Attended

variable {client : Client β η}

theorem step (hattended : client.Attended) (hdistinct : client.openTickets.Nodup)
    (hkept : AllLinks Kept client) {action : Action β η} (hconnects : action.Connects) :
    (client.step action).1.Attended := by
  intro after hmem ticket unsubscribe event hwaits
  have hstill : ticket ∈ (client.step action).1.openTickets := by
    refine List.mem_append_right _ (List.mem_flatMap.mpr ⟨after, hmem, ?_⟩)
    exact List.mem_filterMap.mpr ⟨_, hwaits, rfl⟩
  refine awaited_step hconnects hdistinct ?_ hstill
  obtain ⟨place, hfound⟩ := List.mem_iff_getElem?.mp hmem
  cases hthere : client.links[place]? with
  | some before =>
      rw [links_step hkept hthere action, Option.some.injEq] at hfound
      subst hfound
      have hwaited := outstanding_moves hconnects hwaits (by simp)
      exact hattended before (List.mem_of_getElem? hthere) ticket unsubscribe event hwaited
  | none =>
      -- Nothing waits on a connection that was just started.
      obtain ⟨epoch, settings, rfl⟩ := started_step hthere hfound
      contradiction

theorem run (hattended : client.Attended) (hdistinct : client.openTickets.Nodup)
    (hkept : AllLinks Kept client) {history : List (Action β η)}
    (hconnects : ∀ action ∈ history, action.Connects) :
    (client.run history).1.Attended ∧ (client.run history).1.openTickets.Nodup := by
  induction history generalizing client with
  | nil => exact ⟨hattended, hdistinct⟩
  | cons action history ih =>
      have hfirst := hconnects action List.mem_cons_self
      exact ih (hattended.step hdistinct hkept hfirst) (openTickets_nodup_step hdistinct hfirst)
        (kept_step hkept action) fun other hmem => hconnects other (List.mem_cons_of_mem _ hmem)

/-- An answer to a caller who waits makes no call necessary. -/
theorem cleansUp_answer (client : Client β η) (link : Nat) {waiter : Waiter β}
    (hwanted : ∀ ticket unsubscribe event, waiter = .subscriber ticket unsubscribe event →
      ticket ∈ client.awaited) (outcome : Link.Outcome) :
    (client.answerOccurrence link waiter outcome).cleansUp = false := by
  cases waiter with
  | subscriber ticket unsubscribe event =>
      unfold answerOccurrence
      dsimp only
      split
      next =>
        rw [if_pos (by simpa using hwanted ticket unsubscribe event rfl)]
        rfl
      next => rfl
  | _ => rfl

theorem not_cleansUp (hattended : client.Attended) {action : Action β η}
    (hconnects : action.Connects) : (client.occurrence action).cleansUp = false := by
  cases action with
  | beginConnect => rfl
  | endConnect handshake => rfl
  | proceed => rfl
  | turn link turn =>
      unfold occurrence messageOccurrence
      dsimp only
      split
      next connection hfound =>
        split
        next => rfl
        next =>
          split
          next bytes =>
            split
            next id reply _ =>
              split
              next request hwaits =>
                refine cleansUp_answer client link ?_ _
                intro ticket unsubscribe event howner
                have hheld := (Link.Registry.find?_eq_some_iff _ _ _).mp hwaits
                have hwaiting : request.owner ∈ connection.outstanding :=
                  List.mem_append_right _ (List.mem_map_of_mem (List.mem_map_of_mem hheld))
                exact hattended connection (List.mem_of_getElem? hfound) ticket unsubscribe event
                  (howner ▸ hwaiting)
              next => rfl
            next => rfl
            next => rfl
          next => split <;> rfl
      next => rfl
  | _ => contradiction

/-- As long as everybody waits who has subscribed, no loop makes a call. -/
theorem cleanUps_eq_zero (hattended : client.Attended) (hdistinct : client.openTickets.Nodup)
    (hkept : AllLinks Kept client) {history : List (Action β η)}
    (hconnects : ∀ action ∈ history, action.Connects) : client.cleanUps history = 0 := by
  induction history generalizing client with
  | nil => rfl
  | cons action history ih =>
      have hfirst := hconnects action List.mem_cons_self
      have hlater :=
        ih (hattended.step hdistinct hkept hfirst) (openTickets_nodup_step hdistinct hfirst)
        (kept_step hkept action) fun other hmem => hconnects other (List.mem_cons_of_mem _ hmem)
      unfold cleanUps at hlater ⊢
      rw [occurrences, List.countP_cons, hlater, hattended.not_cleansUp hfirst]
      rfl

end Attended

end ChainRpc.Client
