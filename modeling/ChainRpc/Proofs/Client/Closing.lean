import ChainRpc.Proofs.Client.Callers
import ChainRpc.Proofs.Client.Lifecycle

/-!
# Clients that are closed

When a close is over the client has no connection in use, all its connections have ended, and no
change of connections is under way. Nothing that may happen to it changes that: connects and calls
are refused, and further closes have nothing to do. So the close that comes to an end first is the
only one that tells whoever wanted to know.
-/

namespace ChainRpc.Client

variable {β η : Type}

/-! ### Closed for good -/

/-- The client is closed, and no connect and no close is under way. -/
structure Shut (client : Client β η) : Prop where
  phase : client.phase = .closed
  settled : client.transition = none
  unused : client.active = none

namespace Shut

variable {client : Client β η}

theorem of_phased (hphased : client.Phased) (hclosed : client.phase = .closed) : client.Shut := by
  have hshows := hphased.shows
  rw [hclosed] at hshows
  exact ⟨hclosed, hshows.1, hshows.2⟩

theorem beginConnect (hshut : client.Shut) :
    client.beginConnect = (client, [.connected (.error .connectionClosed)]) := by
  unfold Client.beginConnect
  simp [hshut.settled, hshut.phase]

theorem beginClose (hshut : client.Shut) : client.beginClose = (client, [.closed]) := by
  unfold Client.beginClose
  simp [hshut.settled, hshut.phase]

theorem state (hshut : client.Shut) : client.state = .closed := by
  unfold Client.state
  simp [hshut.phase]

theorem activeLink? (hshut : client.Shut) : client.activeLink? = none := by
  unfold Client.activeLink?
  rw [hshut.unused]
  rfl

/-- A client that is closed stays closed, and no epoch begins. -/
theorem step (hshut : client.Shut) (action : Action β η) :
    (client.step action).1.Shut ∧ (client.step action).1.epoch = client.epoch := by
  by_cases hchange : action.IsChange
  · have hstepped := client.stepped action
    generalize client.step action = next at hstepped ⊢
    have hidle {transition : Transition} (hchanging : client.transition = some transition) :
        False := by
      rw [hshut.settled] at hchanging
      contradiction
    cases hstepped with
    | idle _ _ _ => exact ⟨hshut, rfl⟩
    | forbids _ _ => exact ⟨hshut, rfl⟩
    | shakes _ hunclosed => exact absurd hshut.phase hunclosed
    | fails _ _ _ hshaking _ => exact (hidle hshaking).elim
    | opens _ hshaking => exact (hidle hshaking).elim
    | agrees _ _ => exact ⟨hshut, rfl⟩
    | withdraws _ hunclosed => exact absurd hshut.phase hunclosed
    | resets _ hreplacing => exact (hidle hreplacing).elim
    | drains _ hdraining _ => exact (hidle hdraining).elim
    | closes _ hclosing => exact (hidle hclosing).elim
    | leaves _ hleaving _ => exact (hidle hleaving).elim
    | _ => contradiction
  · have hsame := client.sameLinks_step action hchange
    exact ⟨⟨hsame.phase.trans hshut.phase, hsame.transition.trans hshut.settled,
      hsame.active.trans hshut.unused⟩, hsame.epoch⟩

theorem run (hshut : client.Shut) (history : List (Action β η)) :
    (client.run history).1.Shut ∧ (client.run history).1.epoch = client.epoch := by
  induction history generalizing client with
  | nil => exact ⟨hshut, rfl⟩
  | cons action history ih =>
      obtain ⟨hstill, hepoch⟩ := hshut.step action
      obtain ⟨hlater, hepoch'⟩ := ih hstill
      exact ⟨hlater, hepoch'.trans hepoch⟩

/-- Whoever closes a client is told when it is closed, and not before. -/
theorem of_step (hphased : client.Phased) (hkept : AllLinks Kept client) {action : Action β η}
    (hcloses : .closed ∈ (client.step action).2) : (client.step action).1.Shut := by
  apply of_phased (hphased.step hkept action)
  by_cases hchange : action.IsChange
  · have hstepped := client.stepped action
    generalize client.step action = next at hstepped hcloses ⊢
    cases hstepped with
    | agrees _ hclosed => exact hclosed
    | leaves _ _ _ => rfl
    | opens _ _ =>
        dsimp only at hcloses
        split at hcloses <;> simp at hcloses
    | fails _ _ _ _ _ => simp at hcloses
    | forbids _ _ => simp at hcloses
    | drains _ _ _ => simp at hcloses
    | idle _ _ _ => contradiction
    | shakes _ _ => contradiction
    | withdraws _ _ => contradiction
    | resets _ _ => contradiction
    | closes _ _ => contradiction
    | _ => contradiction
  · exact absurd trivial (client.step_no_milestone hchange .closed hcloses)

theorem of_run (hphased : client.Phased) (hkept : AllLinks Kept client)
    {history : List (Action β η)} (hcloses : .closed ∈ (client.run history).2) :
    (client.run history).1.Shut := by
  induction history generalizing client with
  | nil => contradiction
  | cons action history ih =>
      rcases List.mem_append.mp hcloses with hfirst | hlater
      · exact ((of_step hphased hkept hfirst).run history).1
      · exact ih (hphased.step hkept action) (kept_step hkept action) hlater

end Shut

/-! ### The notice -/

/-- The effect tells whoever wanted to know that the client is closed. -/
def Effect.isNotice : Effect β η → Bool
  | .notified => true
  | .wrote _ _ | .resolved _ _ | .subscribed _ _ | .unsubscribed _ _ | .event _ _ _
  | .connected _ | .closed => false

/-- How often a client has told that it is closed. -/
def notices (client : Client β η) : Nat :=
  if client.options.notifiesClose ∧ client.phase = .closed then 1 else 0

theorem countP_isNotice_of_no_milestone {effects : List (Effect β η)}
    (hquiet : ∀ told ∈ effects, ¬told.IsMilestone) : effects.countP Effect.isNotice = 0 := by
  apply List.countP_eq_zero.mpr
  intro told hmem
  cases told with
  | notified => exact absurd trivial (hquiet _ hmem)
  | _ => simp [Effect.isNotice]

theorem notices_of_unclosed {client : Client β η} (hunclosed : client.phase ≠ .closed) :
    client.notices = 0 :=
  if_neg fun hclosed => hunclosed hclosed.2

/-- The notice comes with the end of the close that closes the client. -/
theorem notices_step {client : Client β η} (hphased : client.Phased) (action : Action β η) :
    (client.step action).2.countP Effect.isNotice + client.notices
      = (client.step action).1.notices := by
  by_cases hchange : action.IsChange
  · have hstepped := client.stepped action
    generalize client.step action = next at hstepped ⊢
    unfold Phased at hphased
    cases hstepped with
    | idle _ _ _ => exact Nat.zero_add _
    | forbids _ _ => exact Nat.zero_add _
    | shakes _ hunclosed =>
        rw [notices_of_unclosed hunclosed, notices_of_unclosed (by simp)]
        rfl
    | fails _ previous _ hshaking _ =>
        rw [hshaking] at hphased
        obtain ⟨hphase, hunclosed, -⟩ := hphased
        have hstill : (client.failConnect previous).phase ≠ .closed := by
          unfold failConnect
          dsimp only
          split
          next => exact hunclosed
          next => simp
        rw [notices_of_unclosed (by simp [hphase]), notices_of_unclosed hstill]
        rfl
    | opens _ hshaking =>
        rw [hshaking] at hphased
        rw [notices_of_unclosed (by simp [hphased.1]), notices_of_unclosed (by simp [openLink])]
        dsimp only
        split <;> rfl
    | agrees _ _ => exact Nat.zero_add _
    | withdraws _ hunclosed =>
        rw [notices_of_unclosed hunclosed, notices_of_unclosed (by simp)]
        rfl
    | resets _ _ => exact Nat.zero_add _
    | drains _ _ _ => exact Nat.zero_add _
    | closes old _ => cases old <;> exact Nat.zero_add _
    | leaves _ hleaving _ =>
        rw [hleaving] at hphased
        rw [notices_of_unclosed (by simp [hphased.1])]
        unfold notices
        dsimp only
        cases client.options.notifiesClose <;> rfl
    | _ => contradiction
  · have hsame := client.sameLinks_step action hchange
    unfold notices
    rw [countP_isNotice_of_no_milestone (client.step_no_milestone hchange), hsame.phase,
      client.options_step, Nat.zero_add]

theorem notices_run {client : Client β η} (hphased : client.Phased) (hkept : AllLinks Kept client)
    (history : List (Action β η)) :
    (client.run history).2.countP Effect.isNotice + client.notices
      = (client.run history).1.notices := by
  induction history generalizing client with
  | nil => exact Nat.zero_add _
  | cons action history ih =>
      have hfirst := notices_step hphased action
      have hlater := ih (hphased.step hkept action) (kept_step hkept action)
      rw [run_cons, List.countP_append]
      dsimp only
      omega

/-! ### From then on -/

/-- Once a close is over, the client is closed for good, whatever happens later and whoever still
connects, closes or calls.

* It shows that it is closed, nothing waits and there are no subscriptions. Every call and every
  subscription is refused without a change, so no number is taken; every connect is refused and
  begins no epoch; every further close is over at once.
* All its connections have ended and nothing is left on them. Everybody who has called at any time
  was told, unless the outcome was not wanted any more, or the request has not come to its
  connection; that fails as soon as it does.
* In its whole life, however often it is closed, it tells once that it is closed, if anybody wanted
  to know. -/
theorem close_is_final (address : Address) (options : Options) (history : List (Action β η))
    (hcloses : .closed ∈ ((fresh address options : Client β η).run history).2)
    (later : List (Action β η)) :
    let client := ((fresh address options : Client β η).run (history ++ later)).1
    let effects := ((fresh address options : Client β η).run (history ++ later)).2
    (client.state = .closed ∧ client.pendingCount = 0 ∧ client.subscriptionCount = 0) ∧
    (∀ ticket,
      (∀ call, client.call ticket call = (client, [.resolved ticket (.error .notConnected)])) ∧
      ∀ call, client.subscribe ticket call
        = (client, [.resolved ticket (.error .notConnected)])) ∧
    client.beginConnect = (client, [.connected (.error .connectionClosed)]) ∧
    client.beginClose = (client, [.closed]) ∧
    client.epoch = ((fresh address options : Client β η).run history).1.epoch ∧
    (∀ connection ∈ client.links, connection.ended = true ∧ connection.Vacant) ∧
    (∀ ticket, (∃ action ∈ history ++ later, action.caller? = some ticket) →
      (∀ handle, .unsubscribe ticket handle ∉ history ++ later) →
      (∃ news ∈ effects, news.Answers ticket) ∨ .forget ticket ∈ history ++ later ∨
        ∃ submission, client.submissions.find? ticket = some submission ∧
          (submission.id.isSome = true →
            (client.enqueue ticket).2 = [.resolved ticket (.error .connectionClosed)])) ∧
    effects.countP Effect.isNotice = if options.notifiesClose then 1 else 0 := by
  intro client effects
  have hkept : AllLinks Kept (fresh address options : Client β η) := kept_links address options []
  have hphased := Phased.fresh (β := β) (η := η) address options
  have hclosed := Shut.of_run hphased hkept hcloses
  have hwhole : client = (((fresh address options : Client β η).run history).1.run later).1 := by
    change ((fresh address options : Client β η).run (history ++ later)).1 = _
    rw [run_append]
  obtain ⟨hshut, hepoch⟩ := hclosed.run later
  rw [← hwhole] at hshut hepoch
  have hended : ∀ connection ∈ client.links, connection.ended = true := by
    have hgoverned : client.NoneStray :=
      (NoneStray.fresh address options).run hkept (history ++ later)
    intro connection hmem
    obtain ⟨place, hfound⟩ := List.mem_iff_getElem?.mp hmem
    by_contra hrunning
    have hinUse := hgoverned place (by simpa [hasEnded, hfound] using hrunning)
    rw [hshut.unused, hshut.settled] at hinUse
    simp at hinUse
  refine ⟨⟨hshut.state, ?_, ?_⟩, ?_, hshut.beginConnect, hshut.beginClose, hepoch, ?_, ?_, ?_⟩
  · unfold pendingCount
    rw [hshut.activeLink?]
    rfl
  · unfold subscriptionCount
    rw [hshut.activeLink?]
    rfl
  · exact refuses_of_current? (current?_of_state (by simp [hshut.state]))
  · intro connection hmem
    have hstopped := hended connection hmem
    exact ⟨hstopped, (kept_links address options _ connection hmem).vacant hstopped⟩
  · exact fun ticket hcalls hlone => told_of_ended address options rfl hended hcalls hlone
  · have hnotices := notices_run hphased hkept (history ++ later)
    rw [notices_of_unclosed (by simp [fresh]), Nat.add_zero] at hnotices
    change effects.countP Effect.isNotice = client.notices at hnotices
    rw [hnotices, Client.notices, hshut.phase,
      show client.options = options from (fresh address options).options_run (history ++ later)]
    simp

/-- Two calls wait when the client is closed, and it is closed once more. -/
def sampleClosing : List (Action String Unit) :=
  sampleHistory ++
    [.beginClose, .proceed, .turn 0 (.command none), .proceed, .beginClose]

/-- Both calls were told, and whoever wanted to know learned once that the client is closed. -/
theorem sampleClosing_is_final :
    let run :=
      (fresh sampleAddress { notifiesClose := true } : Client String Unit).run sampleClosing
    run.2.countP Effect.isNotice = 1 ∧ run.1.epoch = ⟨1⟩ ∧
      (∃ news ∈ run.2, news.Answers 0) ∧ (∃ news ∈ run.2, news.Answers 1) ∧
      ∀ ticket call, run.1.call ticket call
        = (run.1, [.resolved ticket (.error .notConnected)]) := by
  intro run
  have hcloses : .closed ∈ run.2 := List.mem_of_getLast? (show _ = some _ from rfl)
  obtain ⟨-, hrefused, -, -, hepoch, -, htold, hnotice⟩ :=
    close_is_final sampleAddress { notifiesClose := true } sampleClosing hcloses []
  have hlone (ticket handle : Ticket) : .unsubscribe ticket handle ∉ sampleClosing ++ [] := by
    simp [sampleClosing, sampleHistory]
  have hanswered (ticket : Ticket)
      (hcalls : ∃ action ∈ sampleClosing ++ [], action.caller? = some ticket) :
      ∃ news ∈ run.2, news.Answers ticket := by
    obtain hanswered | hforgotten | ⟨submission, hfound, -⟩ := htold ticket hcalls (hlone ticket)
    · exact hanswered
    · simp [sampleClosing, sampleHistory] at hforgotten
    · contradiction
  refine ⟨hnotice, hepoch, hanswered 0 ⟨.call 0 sampleCall, ?_, rfl⟩,
    hanswered 1 ⟨.call 1 sampleCall, ?_, rfl⟩, fun ticket => (hrefused ticket).1⟩
  · simp [sampleClosing, sampleHistory]
  · simp [sampleClosing, sampleHistory]

end ChainRpc.Client
