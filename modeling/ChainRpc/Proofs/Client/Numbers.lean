import ChainRpc.Proofs.Client.Counter
import ChainRpc.Proofs.Client.Tickets
import ChainRpc.Proofs.Link.Numbers

/-!
# The numbers of requests

A request is given its connection first and its number afterwards. When a newer connection was
opened in between, the number comes from a counter that has started again, and it may be in use on
the older connection. This is the only way in which two requests of a connection can meet under one
number.
-/

namespace ChainRpc.Client

open Link (Connection filterMap_cons_toList)
open Link.Connection (given)
open Rpc (RequestId)

variable {β η : Type}

/-! ### Requests and their connections -/

/-- Every request that is on its way has a connection to go to. -/
def Addressed (client : Client β η) : Prop :=
  ∀ submission ∈ client.submissions.values, submission.link < client.links.length

theorem submissions_onLink (client : Client β η) (link : Nat)
    (happen : Connection (Waiter β) Ticket →
      Connection (Waiter β) Ticket × List (Link.Effect (Waiter β) Ticket)) :
    (client.onLink link happen).1.submissions = client.submissions := by
  apply onLink_eq Client.submissions (fun _ _ => rfl)
  exact fun client effect => (client.react_reacted link effect).submissions

/-- What an action does to the requests that are on their way: a caller comes with one for a
connection that is there, one is numbered, one is queued, or nothing. -/
inductive Forwards (client : Client β η) : Action β η → Prop where
  | submits (action : Action β η) (ticket : Ticket) (submission : Submission β)
      (hunnumbered : submission.id = none) (hthere : submission.link < client.links.length)
      (hsubmissions : (client.step action).1.submissions
        = client.submissions.insert ticket submission) : Forwards client action
  | numbers (ticket : Ticket) : Forwards client (.number ticket)
  | sends (ticket : Ticket) : Forwards client (.enqueue ticket)
  | keeps (action : Action β η)
      (hsubmissions : (client.step action).1.submissions = client.submissions) :
      Forwards client action

theorem submissions_shutDown (client : Client β η) (link : Option Nat)
    (reason : Link.CloseReason) :
    (client.shutDown link reason).submissions = client.submissions := by
  cases link <;> rfl

theorem forwards_step (client : Client β η) (action : Action β η) : Forwards client action := by
  have hstepped := client.stepped action
  generalize hafter : client.step action = next at hstepped
  cases hstepped with
  | calls ticket _ _ hcurrent =>
      exact .submits _ ticket _ rfl (inside_of_current? hcurrent) (by rw [hafter]; rfl)
  | subscribes ticket _ _ hcurrent =>
      exact .submits _ ticket _ rfl (inside_of_current? hcurrent) (by rw [hafter]; rfl)
  | parts ticket _ _ _ hactive =>
      exact .submits _ ticket _ rfl (inside_of_isActive hactive) (by rw [hafter]; rfl)
  | numbers ticket _ _ _ => exact .numbers ticket
  | sends ticket _ _ _ _ => exact .sends ticket
  | closes old _ => exact .keeps _ (by rw [hafter]; exact client.submissions_shutDown old .closed)
  | turns link turn => exact .keeps _ (client.submissions_onLink link (·.turn turn))
  | _ => exact .keeps _ (congrArg (fun next => next.1.submissions) hafter)

namespace Addressed

variable {client : Client β η}

theorem fresh (address : Address) (options : Options) :
    (Client.fresh address options : Client β η).Addressed := by
  intro submission hmem
  contradiction

theorem of_found (haddressed : client.Addressed) {ticket : Ticket} {submission : Submission β}
    (hfound : client.submissions.find? ticket = some submission) :
    submission.link < client.links.length := by
  have hmem := (Link.Registry.find?_eq_some_iff _ _ _).mp hfound
  exact haddressed submission (List.mem_map_of_mem hmem)

/-- An action brings no request for a connection that is not there before it. -/
theorem link_lt_step (haddressed : client.Addressed) (action : Action β η) :
    ∀ submission ∈ (client.step action).1.submissions.values,
      submission.link < client.links.length := by
  have hinsert {ticket : Ticket} {submission : Submission β}
      (hthere : submission.link < client.links.length) :
      ∀ other ∈ (client.submissions.insert ticket submission).values,
        other.link < client.links.length := by
    intro other hmem
    rw [Link.Registry.values_insert, List.mem_append, List.mem_singleton] at hmem
    rcases hmem with hold | rfl
    · exact haddressed other ((client.submissions.values_erase_sublist ticket).mem hold)
    · exact hthere
  cases client.forwards_step action with
  | submits _ ticket submission _ hthere hsubmissions =>
      rw [hsubmissions]
      exact hinsert hthere
  | numbers ticket =>
      change ∀ submission ∈ (client.number ticket).submissions.values, _
      rcases client.number_cases ticket with ⟨hsame, -⟩ | ⟨submission, hfound, hafter, -⟩
      · rw [hsame]
        exact haddressed
      · have hthere := haddressed.of_found hfound
        rw [hafter]
        exact hinsert hthere
  | sends ticket =>
      change ∀ submission ∈ (client.enqueue ticket).1.submissions.values, _
      rcases client.enqueue_cases ticket with ⟨hsame, -⟩ | ⟨_, _, _, -, -, hafter, -⟩
      · rw [hsame]
        exact haddressed
      · rw [hafter, submissions_onLink]
        intro submission hmem
        exact haddressed submission ((client.submissions.values_erase_sublist ticket).mem hmem)
  | keeps _ hsubmissions =>
      rw [hsubmissions]
      exact haddressed

theorem step (haddressed : client.Addressed) (hkept : AllLinks Kept client) (action : Action β η) :
    (client.step action).1.Addressed := by
  have hcount : client.links.length ≤ (client.step action).1.links.length := by
    cases counts_step hkept action with
    | keeps _ _ hlinks => exact Nat.le_of_eq hlinks.symm
    | takes _ _ _ hlinks => exact Nat.le_of_eq hlinks.symm
    | restarts _ _ hlinks => exact Nat.le_of_lt (hlinks ▸ Nat.lt_succ_self _)
  intro submission hmem
  exact Nat.lt_of_lt_of_le (haddressed.link_lt_step action submission hmem) hcount

theorem place_lt_opened (haddressed : client.Addressed) {action : Action β η} :
    ∀ allotment ∈ client.allotted action, allotment.place < allotment.opened := by
  intro allotment hmem
  unfold allotted at hmem
  split at hmem
  next =>
    split at hmem
    next hfound =>
      rw [List.mem_singleton.mp hmem]
      exact haddressed.of_found hfound
    next => contradiction
  next link turn =>
    cases hcleans : (client.occurrence (.turn link turn)).cleansUp with
    | false =>
        rw [hcleans] at hmem
        contradiction
    | true =>
        rw [hcleans] at hmem
        rw [List.mem_singleton.mp hmem]
        by_contra houtside
        unfold occurrence at hcleans
        dsimp only at hcleans
        rw [List.getElem?_eq_none (Nat.le_of_not_lt houtside)] at hcleans
        contradiction
  all_goals contradiction

/-- A request gets its number after the connection that it is for was opened. -/
theorem place_lt_opened_run (haddressed : client.Addressed) (hkept : AllLinks Kept client)
    (history : List (Action β η)) :
    ∀ allotment ∈ client.allotments history, allotment.place < allotment.opened := by
  induction history generalizing client with
  | nil => simp [allotments]
  | cons action history ih =>
      intro allotment hmem
      rcases List.mem_append.mp hmem with hfirst | hlater
      · exact haddressed.place_lt_opened allotment hfirst
      · exact ih (haddressed.step hkept action) (kept_step hkept action) allotment hlater

end Addressed

/-! ### Numbers in hand -/

/-- The number of a request for a place that is on its way, if it has one. -/
def Submission.numberFor (place : Nat) (submission : Submission β) : Option RequestId :=
  if submission.link = place then submission.id else none

/-- The numbers of the requests that are on their way to a connection. -/
def pledged (client : Client β η) (place : Nat) : List RequestId :=
  client.submissions.values.filterMap (Submission.numberFor place)

/-- The numbers that a connection has or is about to have. -/
def inHand (client : Client β η) (place : Nat) : List RequestId :=
  client.pledged place ++ ((client.links[place]?).map (·.numbers)).getD []

/-- How often a number was given to requests for a connection. -/
def timesGiven (place : Nat) (number : RequestId) (allotments : List Allotment) : Nat :=
  allotments.countP fun allotment => allotment.place = place ∧ allotment.id = number

theorem given_dismissal (client : Client β η) (link : Nat) (waiter : Waiter β)
    (outcome : Link.Outcome) :
    given (client.dismissal (.completed waiter outcome)) =
      bif (client.answerOccurrence link waiter outcome).cleansUp then [client.coder.peek]
      else [] := by
  cases waiter with
  | subscriber ticket unsubscribe event =>
      unfold dismissal answerOccurrence
      dsimp only
      cases outcome.bind subscriptionOf with
      | error error => rfl
      | ok id =>
          dsimp only
          split <;> rfl
  | _ => rfl

/-- A turn gives a request to the connection if it leaves a subscription that nobody holds. -/
theorem given_moves_turn {client : Client β η} (hkept : AllLinks Kept client) {place : Nat}
    {connection : Connection (Waiter β) Ticket} (hfound : client.links[place]? = some connection)
    (turn : Link.Turn) :
    given (client.moves place (.turn place turn)) =
      bif (client.occurrence (.turn place turn)).cleansUp then [client.coder.peek] else [] := by
  have hsteps : given (client.moves place (.turn place turn))
      = given ((connection.turn turn).2.flatMap client.dismissal) := by
    unfold moves
    rw [hfound]
    dsimp only
    rw [if_pos rfl]
    rfl
  rw [hsteps]
  by_cases hmessage : connection.ended = false ∧ ∃ bytes, turn = .message bytes
  · obtain ⟨hrunning, bytes, rfl⟩ := hmessage
    have hkeeps := hkept connection (List.mem_of_getElem? hfound)
    rw [occurrence_message hfound hrunning, hkeeps.orderly.turn_message hrunning]
    unfold messageOccurrence Connection.bearing
    cases Link.envelopeOf connection.assembly.limit bytes with
    | none => rfl
    | some envelope =>
        cases envelope with
        | response id reply =>
            dsimp only
            cases connection.pending.find? id with
            | none => rfl
            | some request =>
                dsimp only
                rw [List.flatMap_singleton]
                exact client.given_dismissal place request.owner _
        | notification method id raw =>
            dsimp only
            cases connection.subscriptions.find? id <;> rfl
  · have hquiet := (connection.message_or_quiet turn).resolve_left hmessage
    have hnothing : (connection.turn turn).2.flatMap client.dismissal = [] := by
      rw [List.flatMap_eq_nil_iff]
      exact fun effect hmem => client.dismissal_quiet (hquiet effect hmem)
    rw [hnothing, not_cleansUp_without_message hfound hmessage]
    rfl

/-- Only a turn of a loop and a request that is queued give a request to a connection. -/
theorem given_moves_of_other (client : Client β η) (place : Nat) {action : Action β η}
    (hunqueued : ∀ ticket, action ≠ .enqueue ticket)
    (hunturned : ∀ link turn, action ≠ .turn link turn) :
    given (client.moves place action) = [] := by
  unfold given
  rw [List.filterMap_eq_nil_iff]
  intro step hmem
  cases cause_of_mem_moves hmem with
  | turn turn => exact absurd rfl (hunturned place turn)
  | orphan turn id => rfl
  | dismiss turn id payload method => exact absurd rfl (hunturned place turn)
  | send ticket id payload waiter method => exact absurd rfl (hunqueued ticket)
  | retire ticket id => rfl
  | reset hchanging => rfl
  | close hchanging => rfl

theorem count_pledged_insert (client : Client β η) (ticket : Ticket) (submission : Submission β)
    (place : Nat) (number : RequestId) :
    ((client.submissions.insert ticket submission).values.filterMap
        (Submission.numberFor place)).count number
      ≤ (submission.numberFor place).toList.count number
        + (client.pledged place).count number := by
  have hkept := ((client.submissions.values_erase_sublist ticket).filterMap
    (Submission.numberFor place)).count_le number
  unfold pledged
  rw [Link.Registry.values_insert, List.filterMap_append, filterMap_cons_toList,
    List.filterMap_nil, List.append_nil, List.count_append]
  omega

/-- A request that is numbered takes the number that is allotted. -/
theorem count_pledged_number (client : Client β η) (ticket : Ticket) (place : Nat)
    (number : RequestId) :
    ((client.number ticket).pledged place).count number
      ≤ timesGiven place number (client.allotted (.number ticket))
        + (client.pledged place).count number := by
  rcases client.number_cases ticket with ⟨hsame, -⟩ | ⟨submission, -, hafter, hone⟩
  · rw [hsame]
    exact Nat.le_add_left _ _
  · have hinserted := client.count_pledged_insert ticket
      { submission with id := some client.coder.peek } place number
    rw [hafter, hone]
    refine Nat.le_trans hinserted (Nat.add_le_add_right ?_ _)
    unfold Submission.numberFor timesGiven
    dsimp only
    split
    next hhere => simp [hhere, List.count_singleton, List.countP_singleton]
    next => exact Nat.zero_le _

/-- A request that is queued takes its number to the connection. -/
theorem count_pledged_enqueue (client : Client β η) (ticket : Ticket) (place : Nat)
    (number : RequestId) :
    ((client.enqueue ticket).1.pledged place).count number
        + (given (client.moves place (.enqueue ticket))).count number
      ≤ (client.pledged place).count number := by
  rcases client.enqueue_cases ticket with
    ⟨hsame, hnothing⟩ | ⟨submission, id, payload, hfound, hnumbered, hafter, hsends⟩
  · rw [hsame, hnothing]
    exact Nat.le_refl _
  · have hmoved := count_filterMap_submissions (Submission.numberFor place) hfound number
    have hsent : given (client.moves place (.enqueue ticket))
        = (submission.numberFor place).toList := by
      unfold Submission.numberFor
      rw [hsends, hnumbered]
      split <;> rfl
    unfold pledged
    rw [hafter, submissions_onLink, hsent, hmoved]
    exact Nat.le_of_eq (Nat.add_comm _ _)

/-- What an action gives to a connection was on its way to it, or has a number that the action
allots. -/
theorem count_pledged_step {client : Client β η} (hkept : AllLinks Kept client)
    {place : Nat} {connection : Connection (Waiter β) Ticket}
    (hfound : client.links[place]? = some connection) (action : Action β η) (number : RequestId) :
    ((client.step action).1.pledged place).count number
        + (given (client.moves place action)).count number
      ≤ timesGiven place number (client.allotted action)
        + (client.pledged place).count number := by
  by_cases hturned : ∃ link turn, action = .turn link turn
  · obtain ⟨link, turn, rfl⟩ := hturned
    have hsubmissions : (client.step (.turn link turn)).1.submissions = client.submissions :=
      client.submissions_onLink link (·.turn turn)
    rw [pledged, hsubmissions, Nat.add_comm]
    refine Nat.add_le_add_right ?_ _
    by_cases hhere : link = place
    · subst hhere
      rw [given_moves_turn hkept hfound turn]
      unfold allotted
      dsimp only
      cases (client.occurrence (.turn link turn)).cleansUp with
      | false => exact Nat.le_refl _
      | true => simp [timesGiven, List.count_singleton, List.countP_singleton]
    · have hnothing : client.moves place (.turn link turn) = [] := by
        unfold moves
        rw [hfound]
        exact if_neg hhere
      rw [hnothing]
      exact Nat.zero_le _
  · by_cases hqueued : ∃ ticket, action = .enqueue ticket
    · obtain ⟨ticket, rfl⟩ := hqueued
      exact Nat.le_trans (client.count_pledged_enqueue ticket place number)
        (Nat.le_add_left _ _)
    · rw [client.given_moves_of_other place (fun ticket hsame => hqueued ⟨ticket, hsame⟩)
        fun link turn hsame => hturned ⟨link, turn, hsame⟩]
      cases client.forwards_step action with
      | submits _ ticket submission hunnumbered _ hsubmissions =>
          have hinserted := client.count_pledged_insert ticket submission place number
          have hnone : submission.numberFor place = none := by
            unfold Submission.numberFor
            rw [hunnumbered]
            exact ite_self _
          rw [hnone] at hinserted
          rw [pledged, hsubmissions]
          exact Nat.le_trans hinserted (Nat.add_le_add_right (Nat.zero_le _) _)
      | numbers ticket => exact client.count_pledged_number ticket place number
      | sends ticket => exact absurd ⟨ticket, rfl⟩ hqueued
      | keeps _ hsubmissions =>
          rw [pledged, hsubmissions]
          exact Nat.le_add_left _ _

theorem count_inHand_there {client : Client β η} (hkept : AllLinks Kept client)
    (action : Action β η) {place : Nat} {connection : Connection (Waiter β) Ticket}
    (hfound : client.links[place]? = some connection) (number : RequestId) :
    ((client.step action).1.inHand place).count number
      ≤ timesGiven place number (client.allotted action) + (client.inHand place).count number := by
  have hmoved := count_pledged_step hkept hfound action number
  have hrun := connection.count_numbers_run (client.moves place action) number
  unfold inHand
  rw [links_step hkept hfound action, hfound]
  simp only [Option.map_some, Option.getD_some, List.count_append]
  omega

/-- A connection that was just opened has no numbers, and none are on their way to it. -/
theorem inHand_of_absent {client : Client β η} (haddressed : client.Addressed)
    (action : Action β η) {place : Nat} (habsent : client.links[place]? = none) :
    (client.step action).1.inHand place = [] := by
  have houtside := List.getElem?_eq_none_iff.mp habsent
  have hunpledged : (client.step action).1.pledged place = [] := by
    unfold pledged
    rw [List.filterMap_eq_nil_iff]
    intro submission hmem
    have hinside := haddressed.link_lt_step action submission hmem
    exact if_neg (by omega)
  unfold inHand
  rw [hunpledged]
  cases hfound : (client.step action).1.links[place]? with
  | none => rfl
  | some started =>
      obtain ⟨epoch, settings, rfl⟩ := started_step habsent hfound
      rfl

/-- An action puts a number in hand as often as it allots it, at most. -/
theorem count_inHand_step {client : Client β η} (haddressed : client.Addressed)
    (hkept : AllLinks Kept client) (action : Action β η) (place : Nat) (number : RequestId) :
    ((client.step action).1.inHand place).count number
      ≤ timesGiven place number (client.allotted action) + (client.inHand place).count number := by
  cases hfound : client.links[place]? with
  | some connection => exact count_inHand_there hkept action hfound number
  | none =>
      rw [inHand_of_absent haddressed action hfound]
      exact Nat.zero_le _

theorem count_inHand_run {client : Client β η} (haddressed : client.Addressed)
    (hkept : AllLinks Kept client) (history : List (Action β η)) (place : Nat)
    (number : RequestId) :
    ((client.run history).1.inHand place).count number
      ≤ timesGiven place number (client.allotments history)
        + (client.inHand place).count number := by
  induction history generalizing client with
  | nil => exact Nat.le_add_left _ _
  | cons action history ih =>
      have hfirst := count_inHand_step haddressed hkept action place number
      have hlater := ih (haddressed.step hkept action) (kept_step hkept action)
      rw [allotments]
      unfold timesGiven at hfirst hlater ⊢
      rw [List.countP_append]
      change (((client.step action).1.run history).1.inHand place).count number ≤ _
      omega

/-! ### Collisions -/

/-- A number that was given twice for a connection was given once when a newer connection had been
opened. -/
theorem exists_late {client : Client β η} (hkept : AllLinks Kept client)
    (haddressed : client.Addressed) {history : List (Action β η)}
    (hfew : client.coder.next + (client.allotments history).length < 2 ^ 64) {place : Nat}
    {number : RequestId} (htwice : 1 < timesGiven place number (client.allotments history)) :
    ∃ allotment ∈ client.allotments history,
      allotment.place = place ∧ allotment.id = number ∧ allotment.Late := by
  by_contra htimely
  simp only [not_exists, not_and] at htimely
  let same (allotment : Allotment) : Bool := allotment.place = place ∧ allotment.id = number
  -- All these allotments are from one counting, in which no number is given twice.
  have hopened : ∀ allotment ∈ (client.allotments history).filter same,
      allotment = ⟨place, number, place + 1⟩ := by
    intro allotment hmem
    obtain ⟨hmem, hhere⟩ := List.mem_filter.mp hmem
    obtain ⟨hatPlace, hnamed⟩ : allotment.place = place ∧ allotment.id = number := by
      simpa [same] using hhere
    have hafter := haddressed.place_lt_opened_run hkept history allotment hmem
    have hearly := htimely allotment hmem hatPlace hnamed
    obtain ⟨place', id, opened⟩ := allotment
    unfold Allotment.Late at hearly
    dsimp only at hatPlace hnamed hafter hearly
    subst hatPlace hnamed
    congr 1
    omega
  have hordered := (allotments_ordered hkept hfew).2.filter same
  rw [List.eq_replicate_of_mem hopened, List.pairwise_replicate] at hordered
  unfold timesGiven at htwice
  rw [List.countP_eq_length_filter] at htwice
  rcases hordered with honce | hnewer | ⟨-, habove⟩
  · exact absurd htwice (Nat.not_lt.mpr honce)
  · exact Nat.lt_irrefl _ hnewer
  · exact Nat.lt_irrefl _ habove

/-- A loop registers the request that it takes, unless the number of the request waits on its
connection already. With fewer numbers than the counter has, this happens only to a number that a
request for the connection was given when a newer connection had been opened. -/
theorem requests_collide_late (address : Address) (options : Options)
    (history : List (Action β η))
    (hfew : ((fresh address options : Client β η).allotments history).length < 2 ^ 64)
    {place : Nat} {connection : Connection (Waiter β) Ticket}
    (hfound : ((fresh address options : Client β η).run history).1.links[place]? = some connection)
    {id : RequestId} {payload : String} {request : Link.Request (Waiter β) Ticket}
    {queue : List (Link.Command (Waiter β) Ticket)}
    (hnext : connection.queue = .send id payload request :: queue) :
    (∀ failure, ∃ later, (connection.turn (.command failure)).2 = .registered id :: later) ∨
      (∀ failure, (connection.turn (.command failure)).2
        = [.completed request.owner (.error (.transport (.duplicate id.value)))]) ∧
      ∃ allotment ∈ (fresh address options : Client β η).allotments history,
        allotment.place = place ∧ allotment.id = id ∧ allotment.Late := by
  have horderly := orderly_links address options history connection (List.mem_of_getElem? hfound)
  have hrunning : connection.ended = false := by
    by_contra hended
    have hempty := (horderly.cleared (by simpa using hended)).1
    rw [hnext] at hempty
    contradiction
  cases hwaits : connection.pending.find? id with
  | none => exact .inl (Connection.turn_registers hrunning hnext hwaits)
  | some earlier =>
      refine .inr ⟨?_, ?_⟩
      · intro failure
        rw [Connection.turn_duplicate hrunning hnext hwaits failure]
      · have htwice := Connection.one_lt_count_numbers hnext hwaits
        have hkept : AllLinks Kept (fresh address options : Client β η) :=
          kept_links address options []
        have haddressed : (fresh address options : Client β η).Addressed :=
          .fresh address options
        -- Both requests were given the number in the course of the history.
        have htaken := count_inHand_run haddressed hkept history place id
        have hnone : (fresh address options : Client β η).inHand place = [] := rfl
        rw [hnone, inHand, hfound] at htaken
        simp only [Option.map_some, Option.getD_some, List.count_append, List.count_nil] at htaken
        refine exists_late hkept haddressed ?_ (by omega)
        change 0 + _ < _
        rw [Nat.zero_add]
        exact hfew

/-- A second call finds the first connection, and is numbered and queued there when the second
connection has been opened, before the first one is told to end. -/
def sampleRace : List (Action String Unit) :=
  [.beginConnect, .endConnect .accepted, .call 1 sampleCall, .number 1, .enqueue 1,
   .turn 0 (.command none), .call 2 { sampleCall with method := "n" }, .beginConnect,
   .endConnect .accepted, .number 2, .enqueue 2]

/-- Both calls have the number 0, so the loop of the first connection refuses the second one
before it learns that it has to end. -/
theorem sampleRace_collides :
    let client := ((fresh sampleAddress {} : Client String Unit).run sampleRace).1
    ((fresh sampleAddress {} : Client String Unit).allotments sampleRace).length < 2 ^ 64 ∧
      (∃ connection payload request queue earlier, client.links[0]? = some connection ∧
        connection.queue = .send ⟨0⟩ payload request :: queue ∧
        connection.pending.find? ⟨0⟩ = some earlier) ∧
      (client.run [.proceed, .turn 0 (.command none), .turn 0 (.command none)]).2
        = [.resolved 2 (.error (.transport (.duplicate 0))), .wrote 0 (.close (some 1000)),
            .resolved 1 (.error .connectionReset)] :=
  ⟨by decide, ⟨_, _, _, _, _, rfl, rfl, rfl⟩, rfl⟩

/-- The second call was numbered when there were two connections. -/
theorem sampleRace_collides_late :
    ∃ allotment ∈ (fresh sampleAddress {} : Client String Unit).allotments sampleRace,
      allotment.place = 0 ∧ allotment.id = ⟨0⟩ ∧ allotment.Late := by
  have hfew : ((fresh sampleAddress {} : Client String Unit).allotments sampleRace).length
      < 2 ^ 64 := by decide
  obtain ⟨connection, payload, request, queue, hfound, hnext, hrefused⟩ :
      ∃ connection payload request queue,
        ((fresh sampleAddress {} : Client String Unit).run sampleRace).1.links[0]?
          = some connection ∧
        connection.queue = .send ⟨0⟩ payload request :: queue ∧
        (connection.turn (.command none)).2
          = [.completed request.owner (.error (.transport (.duplicate 0)))] :=
    ⟨_, _, _, _, rfl, rfl, rfl⟩
  rcases requests_collide_late sampleAddress {} sampleRace hfew hfound hnext with
    hregistered | hlate
  · obtain ⟨later, hregisters⟩ := hregistered none
    rw [hrefused] at hregisters
    cases hregisters
  · exact hlate.2

end ChainRpc.Client
