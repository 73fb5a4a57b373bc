import ChainRpc.Proofs.Client.Events
import ChainRpc.Proofs.Client.Handles

/-!
# Subscriptions of one name

A node may give a name again. The later subscription then takes the place of the earlier one, whose
handle stays with its caller and can be closed. A closing ends by the name, so the one that is still
under way at that time takes the later subscription away, and so does a closing of the old handle
that begins later. No other closing takes a subscription away.
-/

namespace ChainRpc.Client

open Link (Connection Registry)
open Rpc (SubscriptionId)

variable {β η : Type}

/-! ### Where handles and closings come from -/

/-- Every handle was handed out when a subscription of its name was opened, and every closing
that is under way was asked for with such a handle. -/
structure Traced (client : Client β η) (history : List (Action β η))
    (past : List (Occurrence β η)) : Prop where
  handles : ∀ handle held, client.handles.find? handle = some held →
    ∃ event, .opened held.link held.id handle event ∈ past
  closings : ∀ closing name, client.closes? closing = some name →
    ∃ handle event, .unsubscribe closing handle ∈ history ∧
      .opened name.1 name.2 handle event ∈ past

namespace Traced

variable {client : Client β η} {history : List (Action β η)} {past : List (Occurrence β η)}

theorem fresh (address : Address) (options : Options) :
    Traced (Client.fresh address options : Client β η) [] [] where
  handles handle held hfound := by contradiction
  closings closing name hcloses := by contradiction

theorem step (htraced : Traced client history past) (hkept : AllLinks Kept client)
    (action : Action β η) :
    Traced (client.step action).1 (history ++ [action]) (client.occurrence action :: past) where
  handles handle held hfound := by
    obtain ⟨before, handler, hthere, rfl⟩ | hopens := handles_step hkept action hfound
    · obtain ⟨event, hmem⟩ := htraced.handles handle before hthere
      exact ⟨event, List.mem_cons_of_mem _ hmem⟩
    · exact ⟨held.event, List.mem_cons.mpr (.inl hopens.occurrence.symm)⟩
  closings closing name hcloses := by
    obtain hbefore | ⟨handle, held, rfl, hthere, rfl⟩ := client.closes?_step action hcloses
    · obtain ⟨handle, event, hasked, hmem⟩ := htraced.closings closing name hbefore
      exact ⟨handle, event, List.mem_append_left _ hasked, List.mem_cons_of_mem _ hmem⟩
    · obtain ⟨event, hmem⟩ := htraced.handles handle held hthere
      exact ⟨handle, event, by simp, List.mem_cons_of_mem _ hmem⟩

theorem run (htraced : Traced client history past) (hkept : AllLinks Kept client)
    (later : List (Action β η)) :
    Traced (client.run later).1 (history ++ later)
      ((client.occurrences later).reverse ++ past) := by
  induction later generalizing client history past with
  | nil =>
      rw [List.append_nil]
      exact htraced
  | cons action later ih =>
      have hwhole := ih (htraced.step hkept action) (kept_step hkept action)
      rw [List.append_assoc, List.singleton_append] at hwhole
      rw [occurrences, List.reverse_cons, List.append_assoc, List.singleton_append]
      exact hwhole

end Traced

/-! ### Who holds a name -/

theorem answerOccurrence_ne_closed (client : Client β η) (link : Nat) (waiter : Waiter β)
    (outcome : Link.Outcome) (place : Nat) (id : SubscriptionId) :
    client.answerOccurrence link waiter outcome ≠ .closed place id := by
  cases waiter with
  | subscriber ticket unsubscribe event =>
      unfold answerOccurrence
      dsimp only
      cases outcome.bind subscriptionOf with
      | error error => simp
      | ok name =>
          dsimp only
          split <;> simp
  | _ => simp [answerOccurrence]

theorem messageOccurrence_ne_closed (client : Client β η) (link : Nat)
    (connection : Connection (Waiter β) Ticket) (bytes : List UInt8) (place : Nat)
    (id : SubscriptionId) :
    client.messageOccurrence link connection bytes ≠ .closed place id := by
  unfold messageOccurrence
  split
  next =>
    split
    next => exact client.answerOccurrence_ne_closed link _ _ place id
    next => simp
  next => simp
  next => simp

/-- Nothing but the end of a closing gives a name back on purpose. -/
theorem retire_of_closed {client : Client β η} {action : Action β η} {link : Nat}
    {id : SubscriptionId} (hclosed : client.occurrence action = .closed link id) :
    ∃ closing, action = .retire closing ∧ client.closes? closing = some (link, id) := by
  cases action with
  | retire closing =>
      refine ⟨closing, rfl, ?_⟩
      unfold occurrence at hclosed
      dsimp only at hclosed
      split at hclosed
      next place name answer hfound =>
        cases hclosed
        unfold closes?
        rw [hfound]
        rfl
      next => contradiction
  | turn place turn =>
      unfold occurrence at hclosed
      dsimp only at hclosed
      split at hclosed
      next connection _ =>
        split at hclosed
        next => contradiction
        next =>
          split at hclosed
          next bytes => exact absurd hclosed (client.messageOccurrence_ne_closed place _ bytes _ _)
          next => split at hclosed <;> contradiction
      next => contradiction
  | _ => contradiction

section Holds

variable {client : Client β η} {past : List (Occurrence β η)} {link : Nat} {id : SubscriptionId}
  {ticket : Ticket}

/-- Whoever else had got the name had got it before the holder. -/
theorem opened_before {other : Ticket} {event : Rpc.ResultType β}
    (hholds : holder link id past = some ticket) (hopened : .opened link id other event ∈ past)
    (hdifferent : other ≠ ticket) :
    ∃ own, [.opened link id ticket own, .opened link id other event].Sublist past := by
  obtain ⟨recent, item, old, rfl, ⟨own, rfl⟩, hkeep⟩ := holder_eq_some_iff.mp hholds
  have hearlier : .opened link id other event ∈ old := by
    rcases List.mem_append.mp hopened with hmem | hmem
    · exact absurd ⟨rfl, rfl⟩ (hkeep _ hmem)
    · refine (List.mem_cons.mp hmem).resolve_left fun hsame => ?_
      cases hsame
      exact hdifferent rfl
  exact ⟨own, ((List.singleton_sublist.mpr hearlier).cons_cons _).trans
    (List.sublist_append_right _ _)⟩

/-- A subscription has its name until a closing that is about the name ends, if nothing else takes
the name away. -/
theorem holds_until_closed (htracks : Tracks client past) (hkept : AllLinks Kept client)
    (hholds : client.registered? link id = some ticket) {later : List (Action β η)}
    (hunreplaced : ∀ occurrence ∈ client.occurrences later,
      occurrence.Takes link id → occurrence = .closed link id) :
    (client.run later).1.registered? link id = some ticket ∨
      ∃ earlier closing rest, later = earlier ++ .retire closing :: rest ∧
        (client.run earlier).1.registered? link id = some ticket ∧
        (client.run earlier).1.closes? closing = some (link, id) ∧
        (client.run (earlier ++ [.retire closing])).1.registered? link id = none := by
  induction later generalizing client past with
  | nil => exact .inl hholds
  | cons action later ih =>
      have htracked := (htracks.step hkept action).1
      by_cases htakes : (client.occurrence action).Takes link id
      · -- The first action that takes the name away is the end of a closing.
        have hclosed := hunreplaced _ List.mem_cons_self htakes
        obtain ⟨closing, rfl, hcloses⟩ := retire_of_closed hclosed
        refine .inr ⟨[], closing, later, rfl, hholds, hcloses, ?_⟩
        change (client.step (.retire closing)).1.registered? link id = none
        rw [htracked.registered, hclosed]
        exact if_pos ⟨rfl, rfl⟩
      · have hstill : (client.step action).1.registered? link id = some ticket := by
          rw [htracked.registered, holder_of_not_takes htakes, ← htracks.registered, hholds]
        obtain hheld | ⟨earlier, closing, rest, rfl, hbefore, hcloses, hlost⟩ :=
          ih htracked (kept_step hkept action) hstill
            fun occurrence hmem => hunreplaced occurrence (List.mem_cons_of_mem _ hmem)
        · exact .inl hheld
        · exact .inr ⟨action :: earlier, closing, rest, rfl, hbefore, hcloses, hlost⟩

/-- A subscription has its name: its handle is active, and the events of the name are its own. -/
structure Live (client : Client β η) (link : Nat) (id : SubscriptionId) (ticket : Ticket) :
    Prop where
  registered : client.registered? link id = some ticket
  active : ∀ held, client.handles.find? ticket = some held → held.link = link → held.id = id →
    client.isActive held = true
  receives : ∃ connection, client.links[link]? = some connection ∧ connection.ended = false ∧
    ∀ bytes method raw,
      Link.envelopeOf connection.assembly.limit bytes = some (.notification method id raw) →
      client.turn link (.message bytes) = (client, client.deliver ticket method raw)

theorem Live.of_registered (hkept : AllLinks Kept client)
    (hregistered : client.registered? link id = some ticket) : client.Live link id ticket := by
  have hholds := hregistered
  unfold registered? at hholds
  obtain ⟨connection, hfound, hheld⟩ := Option.bind_eq_some_iff.mp hholds
  obtain ⟨registration, hlistens, rfl⟩ := Option.map_eq_some_iff.mp hheld
  have hkeeps := hkept connection (List.mem_of_getElem? hfound)
  have hrunning := hkeeps.running_of_registered hlistens
  refine ⟨hregistered, ?_, connection, hfound, hrunning, ?_⟩
  · intro handle _ hhere hnamed
    unfold isActive Registry.contains
    rw [hhere, hnamed, hfound, Option.any_some, hlistens]
    rfl
  · intro bytes method raw hread
    rw [turn_message hfound hkeeps hrunning]
    unfold Connection.bearing
    rw [hread]
    dsimp only
    rw [hlistens]

end Holds

/-- Whatever callers, nodes and loops do, a subscription that is in place, that its caller does not
close, and whose name is neither given again nor lost with its connection

* stays in place: its handle is active and it gets the events of its name;
* or else a closing takes it away that was asked for with another handle. That handle is of a
  subscription that had got the same name on the same connection before. -/
theorem lost_to_namesake_only (address : Address) (options : Options)
    (history later : List (Action β η)) (link : Nat) (id : SubscriptionId) (ticket : Ticket)
    (hlive : ((fresh address options : Client β η).run history).1.Live link id ticket)
    (hunclosed : ∀ closing, .unsubscribe closing ticket ∉ history ++ later)
    (hunreplaced :
      ∀ occurrence ∈ ((fresh address options : Client β η).run history).1.occurrences later,
        occurrence.Takes link id → occurrence = .closed link id) :
    let client := ((fresh address options : Client β η).run history).1
    (client.run later).1.Live link id ticket ∨
      ∃ earlier closing rest other, later = earlier ++ .retire closing :: rest ∧
        (client.run earlier).1.Live link id ticket ∧
        (client.run (earlier ++ [.retire closing])).1.registered? link id = none ∧
        .unsubscribe closing other ∈ history ++ earlier ∧ other ≠ ticket ∧
        ∃ event own, [.opened link id other event, .opened link id ticket own].Sublist
          ((fresh address options : Client β η).occurrences history) := by
  intro client
  have hstart : AllLinks Kept (fresh address options : Client β η) := kept_links address options []
  have hkept : AllLinks Kept client := kept_links address options history
  have htracks := (Tracks.fresh address options).run hstart history
  rw [List.append_nil] at htracks
  obtain hstays | ⟨earlier, closing, rest, hsplit, hholds, hcloses, hlost⟩ :=
    holds_until_closed htracks hkept hlive.registered hunreplaced
  · exact .inl (.of_registered (kept_run hkept later) hstays)
  · have htraced := ((Traced.fresh address options).run hstart history).run hkept earlier
    rw [List.nil_append, List.append_nil] at htraced
    obtain ⟨other, event, hasked, hopened⟩ := htraced.closings closing _ hcloses
    have hdifferent : other ≠ ticket := by
      rintro rfl
      refine hunclosed closing ?_
      rw [hsplit, ← List.append_assoc]
      exact List.mem_append_left _ hasked
    have hbefore : .opened link id other event
        ∈ ((fresh address options : Client β η).occurrences history).reverse := by
      refine (List.mem_append.mp hopened).resolve_left fun hmem => ?_
      -- The name was not given again, so the other subscription was opened earlier.
      have hamong : .opened link id other event ∈ client.occurrences later := by
        rw [hsplit, occurrences_append]
        exact List.mem_append_left _ (List.mem_reverse.mp hmem)
      have hsame := hunreplaced _ hamong ⟨rfl, rfl⟩
      contradiction
    obtain ⟨own, hordered⟩ :=
      opened_before ((htracks.registered link id).symm.trans hlive.registered) hbefore hdifferent
    exact .inr ⟨earlier, closing, rest, other, hsplit,
      .of_registered (kept_run hkept earlier) hholds, hlost, hasked, hdifferent, event, own,
      List.reverse_sublist.mp hordered⟩

/-- A subscription whose events are their texts. -/
def sampleSubscribe : Rpc.SubscribeCall String :=
  { method := "subscribe", unsubscribe := "unsubscribe", event := .custom "text" .ok }

/-- A subscription of the name `s` is closed. Before its caller learns of the answer to the
unsubscribe call, the node has given the name to the next subscription, which has a handler. -/
def sampleReuse : List (Action String Unit) :=
  [.beginConnect, .endConnect .accepted] ++
  Action.wholeSubscribe 0 sampleSubscribe ++
  [.turn 0 (.command none),
   .turn 0 (.message (Text.Utf8.encode "\x7b\"id\":0,\"result\":\"s\"\x7d"))] ++
  Action.wholeUnsubscribe 1 0 ++ Action.wholeSubscribe 2 sampleSubscribe ++
  [.turn 0 (.command none), .turn 0 (.command none),
   .turn 0 (.message (Text.Utf8.encode "\x7b\"id\":1,\"result\":true\x7d")),
   .turn 0 (.message (Text.Utf8.encode "\x7b\"id\":2,\"result\":\"s\"\x7d")),
   .setHandler 2 (some ())]

/-- An event of the name. -/
def sampleNotification : List UInt8 :=
  Text.Utf8.encode
    "\x7b\"method\":\"m\",\"params\":\x7b\"subscription\":\"s\",\"result\":1\x7d\x7d"

/-- When the closing ends, the later subscription is lost: its caller has not closed it, nothing was
opened meanwhile, and yet it is not active any more and its events are dropped. -/
theorem sampleReuse_loses_later :
    let client := ((fresh sampleAddress {} : Client String Unit).run sampleReuse).1
    let after := (client.step (.retire 1)).1
    (∀ closing, .unsubscribe closing 2 ∉ sampleReuse ++ [.retire 1]) ∧
      client.registered? 0 (.string "s") = some 2 ∧
      (client.handles.find? 2).map client.isActive = some true ∧
      events (client.turn 0 (.message sampleNotification)).2 = [((), "m", "1")] ∧
      after.registered? 0 (.string "s") = none ∧
      (after.handles.find? 2).map after.isActive = some false ∧
      events (after.turn 0 (.message sampleNotification)).2 = [] :=
  ⟨by simp [sampleReuse, Action.wholeSubscribe, Action.wholeUnsubscribe], by decide +kernel⟩

/-- The closing was asked for with the handle that had the name before. -/
theorem sampleReuse_lost_to_namesake :
    ∃ event own, [.opened 0 (.string "s") 0 event, .opened 0 (.string "s") 2 own].Sublist
      ((fresh sampleAddress {} : Client String Unit).occurrences sampleReuse) := by
  let client := ((fresh sampleAddress {} : Client String Unit).run sampleReuse).1
  have hlive : client.Live 0 (.string "s") 2 :=
    .of_registered (kept_links sampleAddress {} sampleReuse) (by decide +kernel)
  have hunclosed (closing : Ticket) : .unsubscribe closing 2 ∉ sampleReuse ++ [.retire 1] := by
    simp [sampleReuse, Action.wholeSubscribe, Action.wholeUnsubscribe]
  have hunreplaced : ∀ occurrence ∈ client.occurrences [.retire 1],
      occurrence.Takes 0 (.string "s") → occurrence = .closed 0 (.string "s") := by
    intro occurrence hmem htakes
    rw [List.mem_singleton.mp hmem] at htakes ⊢
    unfold Client.occurrence at htakes ⊢
    dsimp only at htakes ⊢
    split at htakes
    next => rw [htakes.1, htakes.2]
    next => exact htakes.elim
  obtain hstays | ⟨earlier, closing, rest, other, hsplit, -, -, hasked, -, hopened⟩ :=
    lost_to_namesake_only sampleAddress {} sampleReuse [.retire 1] 0 (.string "s") 2 hlive hunclosed
      hunreplaced
  · have hlost : (client.run [.retire 1]).1.registered? 0 (.string "s") = none := by decide +kernel
    rw [hstays.registered] at hlost
    contradiction
  · cases earlier with
    | cons first earlier => simp at hsplit
    | nil =>
        obtain ⟨⟨⟩, -⟩ := List.cons.inj hsplit
        have hnamed : other = 0 := by
          simpa [sampleReuse, Action.wholeSubscribe, Action.wholeUnsubscribe] using hasked
        rw [hnamed] at hopened
        exact hopened

end ChainRpc.Client
