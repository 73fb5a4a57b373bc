import ChainRpc.Client.Machine
import ChainRpc.Proofs.Link.Messages

/-!
# What happens to subscriptions

A subscription gets the events that carry its name as long as its own entry is the one under that
name. What becomes of the entries can be told from what has happened: a subscribe call was answered
with a name, a subscription was closed, or a loop has ended. So the past alone, read from the
newest occurrence back, says who holds a name and which handler is attached to whom.
-/

namespace ChainRpc.Client

open Link (Connection Registry)
open Rpc (ResultType SubscriptionId)

variable {β η : Type}

/-! ### What happens to subscriptions -/

/-- What an action means for the subscriptions of a client. -/
inductive Occurrence (β η : Type) where
  /-- The subscribe call of a ticket was answered with a name. -/
  | opened (link : Nat) (id : SubscriptionId) (ticket : Ticket) (event : ResultType β)
  /-- A subscribe call was answered with a name, and its caller was gone. -/
  | orphaned (link : Nat) (id : SubscriptionId)
  /-- A subscription of a name was closed. -/
  | closed (link : Nat) (id : SubscriptionId)
  /-- The loop of a connection has ended. -/
  | ended (link : Nat)
  /-- A subscription has another handler now, or none. -/
  | attached (ticket : Ticket) (handler : Option η)
  /-- A notification came in. -/
  | notice (link : Nat) (id : SubscriptionId) (method raw : String)
  | nothing

/-- What an answer means for the subscriptions. -/
def answerOccurrence (client : Client β η) (link : Nat) (waiter : Waiter β)
    (outcome : Link.Outcome) : Occurrence β η :=
  match waiter with
  | .subscriber ticket _ event =>
      match outcome.bind subscriptionOf with
      | .ok id => if client.awaited.contains ticket then .opened link id ticket event
          else .orphaned link id
      | .error _ => .nothing
  | .call _ _ | .closer _ | .nobody => .nothing

section Answer

variable {client : Client β η} {outcome : Link.Outcome} {ticket : Ticket} {unsubscribe : String}
  {event : Rpc.ResultType β} {id : SubscriptionId} {error : Error} (link : Nat)

theorem answerOccurrence_of_wanted (hnamed : outcome.bind subscriptionOf = .ok id)
    (hwanted : ticket ∈ client.awaited) :
    client.answerOccurrence link (.subscriber ticket unsubscribe event) outcome
      = .opened link id ticket event := by
  unfold answerOccurrence
  dsimp only
  rw [hnamed]
  exact if_pos (by simpa using hwanted)

theorem answerOccurrence_of_unwanted (hnamed : outcome.bind subscriptionOf = .ok id)
    (hunwanted : ticket ∉ client.awaited) :
    client.answerOccurrence link (.subscriber ticket unsubscribe event) outcome
      = .orphaned link id := by
  unfold answerOccurrence
  dsimp only
  rw [hnamed]
  exact if_neg (by simpa using hunwanted)

theorem answerOccurrence_of_unnamed (hunnamed : outcome.bind subscriptionOf = .error error) :
    client.answerOccurrence link (.subscriber ticket unsubscribe event) outcome = .nothing := by
  unfold answerOccurrence
  dsimp only
  rw [hunnamed]

end Answer

/-- What a message means for the subscriptions. -/
def messageOccurrence (client : Client β η) (link : Nat)
    (connection : Connection (Waiter β) Ticket) (bytes : List UInt8) : Occurrence β η :=
  match Link.envelopeOf connection.assembly.limit bytes with
  | some (.response id reply) =>
      match connection.pending.find? id with
      | some request => client.answerOccurrence link request.owner (reply.mapError .rpc)
      | none => .nothing
  | some (.notification method id raw) => .notice link id method raw
  | none => .nothing

/-- What an action means for the subscriptions. -/
def occurrence (client : Client β η) : Action β η → Occurrence β η
  | .setHandler handle handler => .attached handle handler
  | .retire ticket =>
      match client.farewells.find? ticket with
      | some { link, id, answer := some _ } => .closed link id
      | _ => .nothing
  | .turn link turn =>
      match client.links[link]? with
      | some connection =>
          if connection.ended then .nothing
          else
            match turn with
            | .message bytes => client.messageOccurrence link connection bytes
            | _ => if (connection.turn turn).1.ended then .ended link else .nothing
      | none => .nothing
  | .beginConnect | .endConnect _ | .beginClose | .proceed | .call _ _ | .subscribe _ _
  | .number _ | .enqueue _ | .forget _ | .unsubscribe _ _ => .nothing

theorem occurrence_message {client : Client β η} {link : Nat}
    {connection : Connection (Waiter β) Ticket} (hfound : client.links[link]? = some connection)
    (hrunning : connection.ended = false) (bytes : List UInt8) :
    client.occurrence (.turn link (.message bytes))
      = client.messageOccurrence link connection bytes := by
  unfold occurrence
  dsimp only
  rw [hfound]
  dsimp only
  rw [if_neg (by simp [hrunning])]

/-- What a history means for the subscriptions. -/
def occurrences (client : Client β η) : List (Action β η) → List (Occurrence β η)
  | [] => []
  | action :: history => client.occurrence action :: (client.step action).1.occurrences history

theorem occurrences_append (client : Client β η) (first second : List (Action β η)) :
    client.occurrences (first ++ second)
      = client.occurrences first ++ (client.run first).1.occurrences second := by
  induction first generalizing client with
  | nil => rfl
  | cons action first ih => exact congrArg (client.occurrence action :: ·) (ih _)

/-! ### What the past says -/

/-- Who holds a name, from what has happened, the newest first. -/
def holder (link : Nat) (id : SubscriptionId) : List (Occurrence β η) → Option Ticket
  | [] => none
  | .opened place name ticket _ :: past =>
      if place = link ∧ name = id then some ticket else holder link id past
  | .orphaned place name :: past | .closed place name :: past =>
      if place = link ∧ name = id then none else holder link id past
  | .ended place :: past => if place = link then none else holder link id past
  | .attached _ _ :: past | .notice _ _ _ _ :: past | .nothing :: past => holder link id past

/-- The type of the events of a subscription and the handler attached to it, from what has
happened, the newest first. -/
def reception (ticket : Ticket) : List (Occurrence β η) → Option (ResultType β × Option η)
  | [] => none
  | .opened _ _ other event :: past =>
      if other = ticket then some (event, none) else reception ticket past
  | .attached other handler :: past =>
      if other = ticket then (reception ticket past).map fun (event, _) => (event, handler)
      else reception ticket past
  | .orphaned _ _ :: past | .closed _ _ :: past | .ended _ :: past | .notice _ _ _ _ :: past
  | .nothing :: past => reception ticket past

/-- What an occurrence brings to a subscription: its ticket, and the event for the handler. -/
def brings (past : List (Occurrence β η)) : Occurrence β η → List (Ticket × η × String × β)
  | .notice link id method raw =>
      match holder link id past with
      | none => []
      | some ticket =>
          match reception ticket past with
          | some (event, some handler) =>
              match event.decode raw with
              | .ok value => [(ticket, handler, method, value)]
              | .error _ => []
          | _ => []
  | _ => []

/-- All events that the subscriptions get, in their order. -/
def received (past : List (Occurrence β η)) :
    List (Occurrence β η) → List (Ticket × η × String × β)
  | [] => []
  | occurrence :: later => brings past occurrence ++ received (occurrence :: past) later

/-! ### The last word -/

/-- What has happened since the newest item of a kind, if nothing of another kind came after it. -/
def Since {α : Type} (kind stop : α → Prop) (past recent : List α) : Prop :=
  ∃ item earlier, past = recent ++ item :: earlier ∧ kind item ∧ ∀ later ∈ recent, ¬stop later

/-- Either the newest item is of the kind, or it does not matter and the past has the last word. -/
theorem exists_since_cons {α : Type} {kind stop : α → Prop} {newest : α} {past : List α}
    {holds : List α → Prop} :
    (∃ recent, Since kind stop (newest :: past) recent ∧ holds recent) ↔
      (kind newest ∧ holds []) ∨
        ¬stop newest ∧ ∃ recent, Since kind stop past recent ∧ holds (newest :: recent) := by
  constructor
  · rintro ⟨recent, ⟨item, earlier, hsplit, hkinds, hkeep⟩, hheld⟩
    cases recent with
    | nil =>
        obtain ⟨rfl, -⟩ := List.cons.inj hsplit
        exact .inl ⟨hkinds, hheld⟩
    | cons first recent =>
        obtain ⟨rfl, rfl⟩ := List.cons.inj hsplit
        refine .inr ⟨hkeep newest List.mem_cons_self, recent, ⟨item, earlier, rfl, hkinds, ?_⟩,
          hheld⟩
        exact fun later hmem => hkeep later (List.mem_cons_of_mem _ hmem)
  · rintro (⟨hkinds, hheld⟩ | ⟨hpasses, recent, ⟨item, earlier, rfl, hkinds, hkeep⟩, hheld⟩)
    · exact ⟨[], ⟨newest, past, rfl, hkinds, by simp⟩, hheld⟩
    · refine ⟨newest :: recent, ⟨item, earlier, rfl, hkinds, ?_⟩, hheld⟩
      intro later hmem
      rcases List.mem_cons.mp hmem with rfl | hmem
      · exact hpasses
      · exact hkeep later hmem

theorem not_since_nil {α : Type} {kind stop : α → Prop} {recent : List α} :
    ¬Since kind stop [] recent := by
  rintro ⟨item, earlier, hsplit, -⟩
  simp at hsplit

/-- The occurrence takes away whoever held the name. -/
def Occurrence.Takes (link : Nat) (id : SubscriptionId) : Occurrence β η → Prop
  | .opened place name _ _ | .orphaned place name | .closed place name =>
      place = link ∧ name = id
  | .ended place => place = link
  | .attached _ _ | .notice _ _ _ _ | .nothing => False

/-- What does not take the name away leaves its holder. -/
theorem holder_of_not_takes {link : Nat} {id : SubscriptionId} {newest : Occurrence β η}
    (hpasses : ¬newest.Takes link id) (past : List (Occurrence β η)) :
    holder link id (newest :: past) = holder link id past := by
  cases newest with
  | opened place name ticket event => exact if_neg hpasses
  | orphaned place name => exact if_neg hpasses
  | closed place name => exact if_neg hpasses
  | ended place => exact if_neg hpasses
  | _ => rfl

/-- The holder of a name is whose call was answered with it last, unless the name was taken away
since. -/
theorem holder_eq_some_iff {link : Nat} {id : SubscriptionId} {ticket : Ticket}
    {past : List (Occurrence β η)} :
    holder link id past = some ticket ↔
      ∃ recent, Since (fun occurrence => ∃ event, occurrence = .opened link id ticket event)
        (Occurrence.Takes link id) past recent := by
  have hstep (newest : Occurrence β η) (past : List (Occurrence β η)) :
      holder link id (newest :: past) = some ticket ↔
        (∃ event, newest = .opened link id ticket event) ∨
          ¬newest.Takes link id ∧ holder link id past = some ticket := by
    cases newest with
    | opened place name owner event =>
        by_cases hsame : place = link ∧ name = id <;> simp [holder, Occurrence.Takes, hsame]
        grind
    | orphaned place name =>
        by_cases hsame : place = link ∧ name = id <;> simp [holder, Occurrence.Takes, hsame]
    | closed place name =>
        by_cases hsame : place = link ∧ name = id <;> simp [holder, Occurrence.Takes, hsame]
    | ended place => by_cases hsame : place = link <;> simp [holder, Occurrence.Takes, hsame]
    | _ => simp [holder, Occurrence.Takes]
  induction past with
  | nil => simp [holder, not_since_nil]
  | cons newest past ih =>
      have hsplit : (∃ recent, Since (fun occurrence => ∃ event,
          occurrence = .opened link id ticket event) (Occurrence.Takes link id) (newest :: past)
            recent ∧ True) ↔ _ := exists_since_cons
      simp only [and_true] at hsplit
      rw [hstep newest past, hsplit]
      simp only [ih]

/-- The handler that was attached to a subscription last, if any was. -/
def lastAttached (ticket : Ticket) (recent : List (Occurrence β η)) : Option η :=
  (recent.findSome? fun
    | .attached other handler => if other = ticket then some handler else none
    | _ => none).join

/-- The handler that is attached after an occurrence, when it was another one before. -/
def Occurrence.leaves (ticket : Ticket) (handler : Option η) : Occurrence β η → Option η
  | .attached other next => if other = ticket then next else handler
  | .opened _ _ _ _ | .orphaned _ _ | .closed _ _ | .ended _ | .notice _ _ _ _ | .nothing => handler

theorem lastAttached_cons (ticket : Ticket) (newest : Occurrence β η)
    (recent : List (Occurrence β η)) :
    lastAttached ticket (newest :: recent)
      = newest.leaves ticket (lastAttached ticket recent) := by
  cases newest with
  | attached owner handler =>
      by_cases hsame : owner = ticket <;> simp [lastAttached, hsame, Occurrence.leaves]
  | _ => rfl

/-- The occurrence hands out a subscription for a ticket. -/
def Occurrence.HandsOut (ticket : Ticket) : Occurrence β η → Prop
  | .opened _ _ owner _ => owner = ticket
  | .orphaned _ _ | .closed _ _ | .ended _ | .attached _ _ | .notice _ _ _ _ | .nothing => False

/-- A subscription has the type of its last subscribe call, and the handler that was attached to it
last since then. -/
theorem reception_eq_some_iff {ticket : Ticket} {event : ResultType β} {handler : Option η}
    {past : List (Occurrence β η)} :
    reception ticket past = some (event, handler) ↔
      ∃ recent, Since (fun occurrence => ∃ link id, occurrence = .opened link id ticket event)
        (Occurrence.HandsOut ticket) past recent ∧ lastAttached ticket recent = handler := by
  have hstep (newest : Occurrence β η) (past : List (Occurrence β η)) (handler : Option η) :
      reception ticket (newest :: past) = some (event, handler) ↔
        ((∃ link id, newest = .opened link id ticket event) ∧ none = handler) ∨
          ¬newest.HandsOut ticket ∧ ∃ before, reception ticket past = some (event, before) ∧
            newest.leaves ticket before = handler := by
    cases newest with
    | opened place name owner type =>
        by_cases hsame : owner = ticket <;>
          simp [reception, Occurrence.HandsOut, Occurrence.leaves, hsame]
    | attached owner next =>
        by_cases hsame : owner = ticket
        · rcases hknown : reception ticket past with _ | ⟨type, before⟩ <;>
            simp [reception, Occurrence.HandsOut, Occurrence.leaves, hsame, hknown]
        · simp [reception, Occurrence.HandsOut, Occurrence.leaves, hsame]
    | _ => simp [reception, Occurrence.HandsOut, Occurrence.leaves]
  induction past generalizing handler with
  | nil => simp [reception, not_since_nil]
  | cons newest past ih =>
      rw [hstep newest past handler, exists_since_cons]
      simp only [ih, lastAttached_cons]
      refine or_congr Iff.rfl (and_congr_right fun _ => ?_)
      constructor
      · rintro ⟨before, ⟨recent, hsince, rfl⟩, hleft⟩
        exact ⟨recent, hsince, hleft⟩
      · rintro ⟨recent, hsince, hleft⟩
        exact ⟨_, ⟨recent, hsince, rfl⟩, hleft⟩

theorem length_brings_le (past : List (Occurrence β η)) (occurrence : Occurrence β η) :
    (brings past occurrence).length ≤ 1 := by
  cases occurrence with
  | notice link id method raw =>
      unfold brings
      dsimp only
      split
      next => exact Nat.zero_le _
      next =>
        split
        next => split <;> simp
        next => exact Nat.zero_le _
  | _ => exact Nat.zero_le _

/-- A notification is an event for the subscription that holds its name, if a handler is attached to
that and the notification is of its type. -/
theorem brings_notice (past : List (Occurrence β η)) (link : Nat) (id : SubscriptionId)
    (method raw : String) (ticket : Ticket) (handler : η) (value : β) :
    brings past (.notice link id method raw) = [(ticket, handler, method, value)] ↔
      holder link id past = some ticket ∧
        ∃ event, reception ticket past = some (event, some handler) ∧
          event.decode raw = .ok value := by
  unfold brings
  dsimp only
  cases holder link id past with
  | none => simp
  | some owner =>
      dsimp only
      constructor
      · intro hbrought
        cases hreceived : reception owner past with
        | none =>
            rw [hreceived] at hbrought
            contradiction
        | some held =>
            obtain ⟨event, attached⟩ := held
            rw [hreceived] at hbrought
            cases attached with
            | none => contradiction
            | some attached =>
                dsimp only at hbrought
                cases hdecoded : event.decode raw with
                | error error =>
                    rw [hdecoded] at hbrought
                    contradiction
                | ok given =>
                    rw [hdecoded] at hbrought
                    cases hbrought
                    exact ⟨rfl, event, hreceived, hdecoded⟩
      · rintro ⟨⟨⟩, event, hreceived, hdecoded⟩
        rw [hreceived]
        dsimp only
        rw [hdecoded]

end ChainRpc.Client
