import ChainRpc.Proofs.Client.Handover
import ChainRpc.Proofs.Client.Steps

/-!
# The counter of requests

One counter numbers the requests for all connections of a client, and it starts again with each
connection that is opened. So the numbers of a history rise from one opening to the next, as long
as there are fewer of them than the counter can tell apart.
-/

namespace ChainRpc.Client

open Rpc (RequestId)

variable {β η : Type}

/-! ### Allotments -/

/-- A number that a request was given. -/
structure Allotment where
  /-- The place of the connection that the request is for. -/
  place : Nat
  id : RequestId
  /-- How many connections had been opened. -/
  opened : Nat
  deriving DecidableEq, Repr

/-- The counter had started again for a newer connection than that of the request. -/
def Allotment.Late (allotment : Allotment) : Prop := allotment.place + 1 < allotment.opened

/-- The numbers that requests are given in an action. -/
def allotted (client : Client β η) : Action β η → List Allotment
  | .number ticket =>
      match client.submissions.find? ticket with
      | some { link, id := none, .. } => [⟨link, client.coder.peek, client.links.length⟩]
      | _ => []
  | .turn link turn =>
      bif (client.occurrence (.turn link turn)).cleansUp then
        [⟨link, client.coder.peek, client.links.length⟩]
      else []
  | .beginConnect | .endConnect _ | .beginClose | .proceed | .call _ _ | .subscribe _ _
  | .enqueue _ | .forget _ | .setHandler _ _ | .unsubscribe _ _ | .retire _ => []

/-- The numbers that requests are given in a history. -/
def allotments (client : Client β η) : List (Action β η) → List Allotment
  | [] => []
  | action :: history => client.allotted action ++ (client.step action).1.allotments history

/-! ### The counter -/

/-- What an action does to the counter: nothing, or it takes the next number, or it opens a
connection and starts again. -/
inductive Counts (client : Client β η) (action : Action β η) : Prop where
  | keeps (hnone : client.allotted action = [])
      (hcoder : (client.step action).1.coder = client.coder)
      (hlinks : (client.step action).1.links.length = client.links.length)
  | takes (place : Nat)
      (hone : client.allotted action = [⟨place, client.coder.peek, client.links.length⟩])
      (hcoder : (client.step action).1.coder = client.coder.take.2)
      (hlinks : (client.step action).1.links.length = client.links.length)
  | restarts (hnone : client.allotted action = []) (hcoder : (client.step action).1.coder.next = 0)
      (hlinks : (client.step action).1.links.length = client.links.length + 1)

/-- A request on its way that has no number yet gets the next one. -/
theorem number_cases (client : Client β η) (ticket : Ticket) :
    (client.number ticket = client ∧ client.allotted (.number ticket) = []) ∨
      ∃ submission, client.submissions.find? ticket = some submission ∧
        client.number ticket = { client with
          coder := client.coder.take.2
          submissions := client.submissions.insert ticket
            { submission with id := some client.coder.peek } } ∧
        client.allotted (.number ticket)
          = [⟨submission.link, client.coder.peek, client.links.length⟩] := by
  unfold number allotted
  dsimp only
  cases hfound : client.submissions.find? ticket with
  | none => exact .inl ⟨rfl, rfl⟩
  | some submission =>
      obtain ⟨link, method, params, waiter, id⟩ := submission
      cases id with
      | some id => exact .inl ⟨rfl, rfl⟩
      | none => exact .inr ⟨_, rfl, rfl, rfl⟩

theorem counts_number (client : Client β η) (ticket : Ticket) : Counts client (.number ticket) := by
  rcases client.number_cases ticket with ⟨hsame, hnone⟩ | ⟨submission, -, hafter, hone⟩
  · apply Counts.keeps hnone
    · exact congrArg (fun after => after.coder) hsame
    · exact congrArg (fun after => after.links.length) hsame
  · apply Counts.takes submission.link hone
    · exact congrArg (fun after => after.coder) hafter
    · exact congrArg (fun after => after.links.length) hafter

/-- The action neither numbers a request nor opens a connection. -/
def Action.LeavesCounter : Action β η → Prop
  | .number _ | .turn _ _ | .endConnect _ => False
  | .beginConnect | .beginClose | .proceed | .call _ _ | .subscribe _ _ | .enqueue _ | .forget _
  | .setHandler _ _ | .unsubscribe _ _ | .retire _ => True

/-- A request on its way that has its number is queued on its connection. -/
theorem enqueue_cases (client : Client β η) (ticket : Ticket) :
    (client.enqueue ticket = (client, []) ∧
        ∀ place, client.moves place (.enqueue ticket) = []) ∨
      ∃ submission id payload, client.submissions.find? ticket = some submission ∧
        submission.id = some id ∧
        client.enqueue ticket =
          { client with submissions := client.submissions.erase ticket }.onLink submission.link
            (·.send id payload (submission.waiter.request submission.method)) ∧
        ∀ place, client.moves place (.enqueue ticket) =
          if submission.link = place then
            [.send id payload (submission.waiter.request submission.method)]
          else [] := by
  unfold enqueue moves
  dsimp only
  cases hfound : client.submissions.find? ticket with
  | none => exact .inl ⟨rfl, fun _ => rfl⟩
  | some submission =>
      obtain ⟨link, method, params, waiter, id⟩ := submission
      cases id with
      | none => exact .inl ⟨rfl, fun _ => rfl⟩
      | some id => exact .inr ⟨_, id, _, rfl, rfl, rfl, fun _ => rfl⟩

theorem coder_enqueue (client : Client β η) (ticket : Ticket) :
    (client.enqueue ticket).1.coder = client.coder := by
  rcases client.enqueue_cases ticket with ⟨hsame, -⟩ | ⟨submission, id, payload, -, -, hafter, -⟩
  · rw [hsame]
  · let taken := { client with submissions := client.submissions.erase ticket }
    rw [hafter]
    cases hthere : taken.links[submission.link]? with
    | none =>
        unfold onLink
        rw [hthere]
    | some connection =>
        obtain ⟨⟨awaited, farewells, hframe⟩, -⟩ :=
          onLink_quiet hthere (·.send id payload (submission.waiter.request submission.method))
            (connection.send_quiet id payload _)
        rw [hframe]

theorem length_shutDown (client : Client β η) (link : Option Nat) (reason : Link.CloseReason) :
    (client.shutDown link reason).links.length = client.links.length := by
  cases link with
  | none => rfl
  | some link => exact List.length_modify ..

theorem coder_shutDown (client : Client β η) (link : Option Nat) (reason : Link.CloseReason) :
    (client.shutDown link reason).coder = client.coder := by
  cases link <;> rfl

theorem counter_frame (client : Client β η) {action : Action β η}
    (hleaves : action.LeavesCounter) :
    (client.step action).1.coder = client.coder ∧
      (client.step action).1.links.length = client.links.length := by
  have hstepped := client.stepped action
  generalize hafter : client.step action = next at hstepped
  cases hstepped with
  | resets old _ =>
      exact ⟨client.coder_shutDown (some old) .reset, client.length_shutDown (some old) .reset⟩
  | closes old _ => exact ⟨client.coder_shutDown old .closed, client.length_shutDown old .closed⟩
  | retires _ _ _ _ _ => exact ⟨rfl, List.length_modify ..⟩
  | sends ticket _ _ _ _ =>
      rw [← hafter]
      exact ⟨client.coder_enqueue ticket, (client.sameLinks_step (.enqueue ticket) id).count⟩
  | fails _ _ _ _ _ => exact hleaves.elim
  | opens _ _ => exact hleaves.elim
  | numbers _ _ _ _ => exact hleaves.elim
  | turns _ _ => exact hleaves.elim
  | _ => exact ⟨rfl, rfl⟩

theorem counts_endConnect (client : Client β η) (handshake : Handshake) :
    Counts client (.endConnect handshake) := by
  have hstepped := client.stepped (.endConnect handshake)
  generalize hafter : client.step (.endConnect handshake) = next at hstepped
  cases hstepped with
  | idle _ _ _ => exact .keeps rfl (by rw [hafter]) (by rw [hafter])
  | fails _ _ _ _ _ => exact .keeps rfl (by rw [hafter]; rfl) (by rw [hafter]; rfl)
  | opens previous _ =>
      refine .restarts rfl ?_ ?_
      · rw [hafter]
        rfl
      · rw [hafter]
        exact List.length_append

theorem counts_step {client : Client β η} (hkept : AllLinks Kept client) (action : Action β η) :
    Counts client action := by
  by_cases hleaves : action.LeavesCounter
  · obtain ⟨hcoder, hlinks⟩ := client.counter_frame hleaves
    refine .keeps ?_ hcoder hlinks
    cases action <;> first | rfl | contradiction
  · cases action with
    | number ticket => exact client.counts_number ticket
    | turn link turn =>
        have hunprompted : (Action.turn link turn : Action β η).Unprompted := trivial
        have hcoder := coder_unprompted hkept hunprompted
        have hcount := (client.sameLinks_step (.turn link turn) id).count
        cases hcleans : (client.occurrence (.turn link turn)).cleansUp with
        | false =>
            rw [hcleans] at hcoder
            refine .keeps ?_ hcoder hcount
            unfold allotted
            dsimp only
            rw [hcleans]
            rfl
        | true =>
            rw [hcleans] at hcoder
            refine .takes link ?_ hcoder hcount
            unfold allotted
            dsimp only
            rw [hcleans]
            rfl
    | endConnect handshake => exact client.counts_endConnect handshake
    | _ => exact absurd trivial hleaves

/-- The number comes after another one: from the same counting, or from a later one. -/
def Allotment.After (opened next : Nat) (allotment : Allotment) : Prop :=
  opened < allotment.opened ∨ opened = allotment.opened ∧ next ≤ allotment.id.value

/-- As long as the counter cannot come round, each number comes after the ones before it. -/
theorem allotments_ordered {client : Client β η} (hkept : AllLinks Kept client)
    {history : List (Action β η)}
    (hfew : client.coder.next + (client.allotments history).length < 2 ^ 64) :
    (∀ allotment ∈ client.allotments history,
      allotment.After client.links.length client.coder.next) ∧
    (client.allotments history).Pairwise fun first second =>
      second.After first.opened (first.id.value + 1) := by
  induction history generalizing client with
  | nil => exact ⟨by simp [allotments], .nil⟩
  | cons action history ih =>
      have hkeeps := kept_step hkept action
      unfold allotments at hfew ⊢
      cases counts_step hkept action with
      | keeps hnone hcoder hlinks =>
          rw [hnone, List.nil_append] at hfew ⊢
          have hlater := ih hkeeps (by rw [hcoder]; exact hfew)
          rw [hcoder, hlinks] at hlater
          exact hlater
      | takes place hone hcoder hlinks =>
          rw [hone] at hfew ⊢
          simp only [List.singleton_append, List.length_cons] at hfew
          have hnext : (client.step action).1.coder.next = client.coder.next + 1 := by
            rw [hcoder]
            change (client.coder.next + 1) % 2 ^ 64 = _
            rw [Nat.mod_eq_of_lt (by omega)]
          obtain ⟨hleast, hordered⟩ := ih hkeeps (by rw [hnext]; omega)
          rw [hnext, hlinks] at hleast
          refine ⟨?_, List.pairwise_cons.mpr ⟨hleast, hordered⟩⟩
          intro allotment hmem
          rcases List.mem_cons.mp hmem with rfl | hmem
          · exact .inr ⟨rfl, Nat.le_refl _⟩
          · rcases hleast allotment hmem with hnewer | ⟨hsame, habove⟩
            · exact .inl hnewer
            · exact .inr ⟨hsame, by omega⟩
      | restarts hnone hcoder hlinks =>
          rw [hnone, List.nil_append] at hfew ⊢
          obtain ⟨hleast, hordered⟩ := ih hkeeps (by rw [hcoder]; omega)
          refine ⟨?_, hordered⟩
          intro allotment hmem
          rw [hcoder, hlinks] at hleast
          rcases hleast allotment hmem with hnewer | ⟨hsame, -⟩
          · exact .inl (by omega)
          · exact .inl (by omega)

end ChainRpc.Client
