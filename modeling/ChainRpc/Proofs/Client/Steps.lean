import ChainRpc.Client.Machine

/-!
# What actions make of a client

An action that is not possible in a state leaves the client as it is. Each of the others changes it
in one way, which is all that there is to know about the client after it and the effects. Connects
and closes wait for each other. What a connection tells its client comes down to the caller of a
request in the same way: there are few things that a client makes of it.
-/

namespace ChainRpc.Client

open Link (Outcome)
open Rpc (Call Coder RequestId ResultType SubscribeCall SubscriptionId)

variable {β η : Type}

/-- The connection that takes calls is there. -/
theorem inside_of_current? {client : Client β η} {link : Nat}
    (hcurrent : client.current? = some link) : link < client.links.length := by
  unfold current? at hcurrent
  split at hcurrent
  next =>
    have hrunning := (Option.filter_eq_some_iff.mp hcurrent).2
    refine Nat.lt_of_not_le fun houtside => ?_
    rw [hasEnded, List.getElem?_eq_none houtside] at hrunning
    contradiction
  next => contradiction

theorem inside_of_isActive {client : Client β η} {held : Handle β η}
    (hactive : client.isActive held = true) : held.link < client.links.length := by
  refine Nat.lt_of_not_le fun houtside => ?_
  rw [isActive, List.getElem?_eq_none houtside] at hactive
  contradiction

/-! ### Connects and closes -/

/-- What can be done about the connections of a client. -/
inductive Change where
  | connect
  | close
  deriving DecidableEq, Repr

/-- The change that a transition is a part of. -/
def Transition.change : Transition → Change
  | .connecting _ | .replacing _ | .draining _ => .connect
  | .closing _ | .leaving _ => .close

/-- The change that is under way. -/
def change? (client : Client β η) : Option Change := client.transition.map Transition.change

/-- The change that an action begins. While one is under way, no other begins. -/
def begins? (client : Client β η) : Action β η → Option Change
  | .beginConnect => if client.transition.isSome then none else some .connect
  | .beginClose => if client.transition.isSome then none else some .close
  | .endConnect _ | .proceed | .call _ _ | .subscribe _ _ | .number _ | .enqueue _ | .forget _
  | .setHandler _ _ | .unsubscribe _ _ | .retire _ | .turn _ _ => none

theorem begins?_of_busy {client : Client β η} (hbusy : client.transition.isSome = true)
    (action : Action β η) : client.begins? action = none := by
  cases action with
  | beginConnect => exact if_pos hbusy
  | beginClose => exact if_pos hbusy
  | _ => rfl

/-! ### Reactions -/

section Tell

variable {client : Client β η} {ticket : Ticket}

theorem tell_of_wanted (hwanted : ticket ∈ client.awaited) (effect : Effect β η) :
    client.tell ticket effect = (client.forget ticket, [effect]) := by
  unfold tell
  rw [if_pos (by simpa using hwanted)]

theorem tell_of_unwanted (hunwanted : ticket ∉ client.awaited) (effect : Effect β η) :
    client.tell ticket effect = (client, []) := by
  unfold tell
  rw [if_neg (by simpa using hunwanted)]

/-- Whoever was told does not wait any more. -/
theorem tell_fst (client : Client β η) (ticket : Ticket) (effect : Effect β η) :
    (client.tell ticket effect).1 = client.forget ticket := by
  by_cases hwanted : ticket ∈ client.awaited
  · rw [tell_of_wanted hwanted]
  · rw [tell_of_unwanted hwanted]
    have hkept : client.awaited.filter (· ≠ ticket) = client.awaited := by
      rw [List.filter_eq_self]
      intro other hmem
      simpa using fun hsame : other = ticket => hwanted (hsame ▸ hmem)
    unfold forget
    rw [hkept]

end Tell

/-- The client after an effect of a connection, and the effects of the client. -/
inductive Reacts (client : Client β η) (link : Nat) :
    Link.Effect (Waiter β) Ticket → Client β η × List (Effect β η) → Prop where
  | registers (id : RequestId) : Reacts client link (.registered id) (client, [])
  | writes (frame : Link.Frame) :
      Reacts client link (.wrote frame) (client, [.wrote link frame])
  | delivers (listener : Ticket) (method raw : String) :
      Reacts client link (.delivered listener method raw)
        (client, client.deliver listener method raw)
  | resolves (ticket : Ticket) (result : ResultType β) (outcome : Outcome)
      (hwanted : ticket ∈ client.awaited) :
      Reacts client link (.completed (.call ticket result) outcome)
        (client.forget ticket, [.resolved ticket (outcome.bind result.decode)])
  /-- The caller has gone. -/
  | lapses (ticket : Ticket) (result : ResultType β) (outcome : Outcome)
      (hunwanted : ticket ∉ client.awaited) :
      Reacts client link (.completed (.call ticket result) outcome) (client, [])
  | refuses (ticket : Ticket) (unsubscribe : String) (event : ResultType β) (outcome : Outcome)
      (error : Error) (hunnamed : outcome.bind subscriptionOf = .error error)
      (hwanted : ticket ∈ client.awaited) :
      Reacts client link (.completed (.subscriber ticket unsubscribe event) outcome)
        (client.forget ticket, [.resolved ticket (.error error)])
  /-- The caller has gone, and there is no subscription. -/
  | misses (ticket : Ticket) (unsubscribe : String) (event : ResultType β) (outcome : Outcome)
      (error : Error) (hunnamed : outcome.bind subscriptionOf = .error error)
      (hunwanted : ticket ∉ client.awaited) :
      Reacts client link (.completed (.subscriber ticket unsubscribe event) outcome) (client, [])
  | opens (ticket : Ticket) (unsubscribe : String) (event : ResultType β) (outcome : Outcome)
      (id : SubscriptionId) (hnamed : outcome.bind subscriptionOf = .ok id)
      (hwanted : ticket ∈ client.awaited) :
      Reacts client link (.completed (.subscriber ticket unsubscribe event) outcome)
        ({ client with
          handles := client.handles.insert ticket
            { id, unsubscribe, event, link
              epoch := ((client.links[link]?).map Link.Connection.epoch).getD client.epoch
            } }.forget ticket,
          [.subscribed ticket id])
  /-- The caller has gone, and nobody holds the subscription. -/
  | abandons (ticket : Ticket) (unsubscribe : String) (event : ResultType β) (outcome : Outcome)
      (id : SubscriptionId) (hnamed : outcome.bind subscriptionOf = .ok id)
      (hunwanted : ticket ∉ client.awaited) :
      Reacts client link (.completed (.subscriber ticket unsubscribe event) outcome)
        (client.abandon link unsubscribe id, [])
  | answers (ticket : Ticket) (outcome : Outcome) (farewell : Farewell)
      (hfound : client.farewells.find? ticket = some farewell) :
      Reacts client link (.completed (.closer ticket) outcome)
        ({ client with
          farewells := client.farewells.insert ticket
            { farewell with answer := some (outcome.bind unsubscribeResult.decode) } }, [])
  /-- The closing is over. -/
  | strays (ticket : Ticket) (outcome : Outcome)
      (habsent : client.farewells.find? ticket = none) :
      Reacts client link (.completed (.closer ticket) outcome) (client, [])
  | ignores (outcome : Outcome) : Reacts client link (.completed .nobody outcome) (client, [])

theorem reacts_opened (client : Client β η) (link : Nat) (ticket : Ticket) (unsubscribe : String)
    (event : ResultType β) (outcome : Outcome) :
    Reacts client link (.completed (.subscriber ticket unsubscribe event) outcome)
      (client.opened link ticket unsubscribe event outcome) := by
  unfold opened
  split
  next error hunnamed =>
    by_cases hwanted : ticket ∈ client.awaited
    · rw [tell_of_wanted hwanted]
      exact .refuses ticket unsubscribe event outcome error hunnamed hwanted
    · rw [tell_of_unwanted hwanted]
      exact .misses ticket unsubscribe event outcome error hunnamed hwanted
  next id hnamed =>
    by_cases hwanted : ticket ∈ client.awaited
    · rw [if_pos (by simpa using hwanted)]
      dsimp only
      rw [tell_of_wanted (by exact hwanted)]
      exact .opens ticket unsubscribe event outcome id hnamed hwanted
    · rw [if_neg (by simpa using hwanted)]
      exact .abandons ticket unsubscribe event outcome id hnamed hwanted

/-- What a client makes of an effect of a connection, whatever the state and the effect. -/
theorem reacts (client : Client β η) (link : Nat) (effect : Link.Effect (Waiter β) Ticket) :
    Reacts client link effect (client.react link effect) := by
  cases effect with
  | registered id => exact .registers id
  | wrote frame => exact .writes frame
  | delivered listener method raw => exact .delivers listener method raw
  | completed waiter outcome =>
      cases waiter with
      | call ticket result =>
          unfold react
          dsimp only
          by_cases hwanted : ticket ∈ client.awaited
          · rw [tell_of_wanted hwanted]
            exact .resolves ticket result outcome hwanted
          · rw [tell_of_unwanted hwanted]
            exact .lapses ticket result outcome hwanted
      | subscriber ticket unsubscribe event =>
          exact client.reacts_opened link ticket unsubscribe event outcome
      | closer ticket =>
          unfold react answered
          dsimp only
          split
          next farewell hfound => exact .answers ticket outcome farewell hfound
          next habsent => exact .strays ticket outcome habsent
      | nobody => exact .ignores outcome

/-! ### All actions -/

/-- The operation that an action starts, unless that closes a subscription. -/
def Action.caller? : Action β η → Option Ticket
  | .call ticket _ | .subscribe ticket _ => some ticket
  | .beginConnect | .endConnect _ | .beginClose | .proceed | .number _ | .enqueue _ | .forget _
  | .setHandler _ _ | .unsubscribe _ _ | .retire _ | .turn _ _ => none

/-- The client after an action, and the effects of the action. -/
inductive Stepped (client : Client β η) :
    Action β η → Client β η × List (Effect β η) → Prop where
  /-- The action is not possible, or it has to wait, or it has been done. -/
  | idle (action : Action β η) (hnothing : client.begins? action = none)
      (huncalled : action.caller? = none) : Stepped client action (client, [])
  | forbids (hsettled : client.transition = none) (hclosed : client.phase = .closed) :
      Stepped client .beginConnect (client, [.connected (.error .connectionClosed)])
  | shakes (hsettled : client.transition = none) (hunclosed : client.phase ≠ .closed) :
      Stepped client .beginConnect
        ({ client with transition := some (.connecting client.phase), phase := .connecting }, [])
  | fails (handshake : Handshake) (previous : Phase) (error : Error)
      (hshaking : client.transition = some (.connecting previous))
      (hfailed : handshake.error? client.options = some error) :
      Stepped client (.endConnect handshake)
        (client.failConnect previous, [.connected (.error error)])
  | opens (previous : Phase) (hshaking : client.transition = some (.connecting previous)) :
      Stepped client (.endConnect .accepted)
        (client.openLink, if client.active.isNone then [.connected (.ok ())] else [])
  | agrees (hsettled : client.transition = none) (hclosed : client.phase = .closed) :
      Stepped client .beginClose (client, [.closed])
  | withdraws (hsettled : client.transition = none) (hunclosed : client.phase ≠ .closed) :
      Stepped client .beginClose
        ({ client with
          transition := some (.closing client.active), phase := .closing, active := none }, [])
  | resets (old : Nat) (hreplacing : client.transition = some (.replacing old)) :
      Stepped client .proceed
        ({ client.shutDown (some old) .reset with transition := some (.draining old) }, [])
  | drains (old : Nat) (hdraining : client.transition = some (.draining old))
      (hended : client.hasEnded old = true) :
      Stepped client .proceed ({ client with transition := none }, [.connected (.ok ())])
  | closes (old : Option Nat) (hclosing : client.transition = some (.closing old)) :
      Stepped client .proceed
        ({ client.shutDown old .closed with transition := some (.leaving old) }, [])
  | leaves (old : Option Nat) (hleaving : client.transition = some (.leaving old))
      (hended : old.all client.hasEnded = true) :
      Stepped client .proceed
        ({ client with transition := none, phase := .closed },
          if client.options.notifiesClose then [.notified, .closed] else [.closed])
  | calls (ticket : Ticket) (call : Call β) (link : Nat) (hcurrent : client.current? = some link) :
      Stepped client (.call ticket call)
        (client.submit ticket
          { link, method := call.method, params := call.params
            waiter := .call ticket call.result }, [])
  | refusesCall (ticket : Ticket) (call : Call β) (hnone : client.current? = none) :
      Stepped client (.call ticket call) (client, [.resolved ticket (.error .notConnected)])
  | subscribes (ticket : Ticket) (call : SubscribeCall β) (link : Nat)
      (hcurrent : client.current? = some link) :
      Stepped client (.subscribe ticket call)
        (client.submit ticket
          { link, method := call.method, params := call.params
            waiter := .subscriber ticket call.unsubscribe call.event }, [])
  | refusesSubscribe (ticket : Ticket) (call : SubscribeCall β) (hnone : client.current? = none) :
      Stepped client (.subscribe ticket call) (client, [.resolved ticket (.error .notConnected)])
  | parts (ticket handle : Ticket) (held : Handle β η)
      (hfound : client.handles.find? handle = some held)
      (hactive : client.isActive held = true) :
      Stepped client (.unsubscribe ticket handle)
        ({ client with
          farewells := client.farewells.insert ticket { link := held.link, id := held.id } }.submit
          ticket
          { link := held.link, method := held.unsubscribe, params := [held.id.toJson]
            waiter := .closer ticket }, [])
  | parted (ticket handle : Ticket) (held : Handle β η)
      (hfound : client.handles.find? handle = some held)
      (hinactive : client.isActive held = false) :
      Stepped client (.unsubscribe ticket handle) (client, [.unsubscribed ticket (.ok false)])
  | numbers (ticket : Ticket) (submission : Submission β)
      (hfound : client.submissions.find? ticket = some submission)
      (hunnumbered : submission.id = none) :
      Stepped client (.number ticket)
        ({ client with
          coder := client.coder.take.2
          submissions := client.submissions.insert ticket
            { submission with id := some client.coder.peek } }, [])
  | sends (ticket : Ticket) (submission : Submission β) (id : RequestId)
      (hfound : client.submissions.find? ticket = some submission)
      (hnumbered : submission.id = some id) :
      Stepped client (.enqueue ticket)
        ({ client with submissions := client.submissions.erase ticket }.onLink submission.link
          (·.send id (Coder.encode id submission.method submission.params)
            (submission.waiter.request submission.method)))
  | forgets (ticket : Ticket) : Stepped client (.forget ticket) (client.forget ticket, [])
  | attaches (handle : Ticket) (handler : Option η) (held : Handle β η)
      (hfound : client.handles.find? handle = some held) :
      Stepped client (.setHandler handle handler)
        ({ client with handles := client.handles.insert handle { held with handler } }, [])
  | retires (ticket : Ticket) (farewell : Farewell) (answer : Except Error Bool)
      (hfound : client.farewells.find? ticket = some farewell)
      (hanswered : farewell.answer = some answer) :
      Stepped client (.retire ticket)
        ({ client.modifyLink farewell.link (·.unregister farewell.id) with
          farewells := client.farewells.erase ticket
          awaited := client.awaited.filter (· ≠ ticket) }, [.unsubscribed ticket answer])
  | turns (link : Nat) (turn : Link.Turn) :
      Stepped client (.turn link turn) (client.turn link turn)

section

variable (client : Client β η)

theorem stepped_beginConnect : Stepped client .beginConnect client.beginConnect := by
  unfold beginConnect
  split
  next hbusy => exact .idle _ (begins?_of_busy hbusy _) rfl
  next hsettled =>
    have hsettled : client.transition = none := by simpa using hsettled
    split
    next hclosed => exact .forbids hsettled hclosed
    next hunclosed => exact .shakes hsettled hunclosed

theorem stepped_beginClose : Stepped client .beginClose client.beginClose := by
  unfold beginClose
  split
  next hbusy => exact .idle _ (begins?_of_busy hbusy _) rfl
  next hsettled =>
    have hsettled : client.transition = none := by simpa using hsettled
    split
    next hclosed => exact .agrees hsettled hclosed
    next hunclosed => exact .withdraws hsettled hunclosed

theorem stepped_proceed : Stepped client .proceed client.proceed := by
  unfold proceed
  cases hchanging : client.transition with
  | none => exact .idle _ rfl rfl
  | some transition =>
      cases transition with
      | connecting previous => exact .idle _ rfl rfl
      | replacing old => exact .resets old hchanging
      | draining old =>
          dsimp only
          split
          next hended => exact .drains old hchanging hended
          next => exact .idle _ rfl rfl
      | closing old => exact .closes old hchanging
      | leaving old =>
          dsimp only
          split
          next hended => exact .leaves old hchanging hended
          next => exact .idle _ rfl rfl

theorem stepped_endConnect (handshake : Handshake) :
    Stepped client (.endConnect handshake) (client.endConnect handshake) := by
  unfold endConnect
  split
  next previous hshaking =>
    cases handshake with
    | accepted => exact .opens previous hshaking
    | refused => exact .fails .refused previous _ hshaking rfl
    | timedOut => exact .fails .timedOut previous _ hshaking rfl
  next => exact .idle _ rfl rfl

theorem stepped_unsubscribe (ticket handle : Ticket) :
    Stepped client (.unsubscribe ticket handle) (client.unsubscribe ticket handle) := by
  unfold Client.unsubscribe
  cases hfound : client.handles.find? handle with
  | none => exact .idle _ rfl rfl
  | some held =>
      dsimp only
      split
      next hactive => exact .parts ticket handle held hfound hactive
      next hinactive => exact .parted ticket handle held hfound (by simpa using hinactive)

theorem stepped_number (ticket : Ticket) :
    Stepped client (.number ticket) (client.number ticket, []) := by
  unfold Client.number
  cases hfound : client.submissions.find? ticket with
  | none => exact .idle _ rfl rfl
  | some submission =>
      dsimp only
      split
      next hunnumbered => exact .numbers ticket submission hfound (by simpa using hunnumbered)
      next => exact .idle _ rfl rfl

theorem stepped_enqueue (ticket : Ticket) :
    Stepped client (.enqueue ticket) (client.enqueue ticket) := by
  unfold Client.enqueue
  split
  next id hfound => exact .sends ticket _ id hfound rfl
  next => exact .idle _ rfl rfl

/-- What an action makes of a client, whatever the state and the action. -/
theorem stepped (action : Action β η) : Stepped client action (client.step action) := by
  cases action with
  | beginConnect => exact client.stepped_beginConnect
  | endConnect handshake => exact client.stepped_endConnect handshake
  | beginClose => exact client.stepped_beginClose
  | proceed => exact client.stepped_proceed
  | call ticket call =>
      unfold Client.step Client.call
      dsimp only
      split
      next link hcurrent => exact .calls ticket call link hcurrent
      next hnone => exact .refusesCall ticket call hnone
  | subscribe ticket call =>
      unfold Client.step Client.subscribe
      dsimp only
      split
      next link hcurrent => exact .subscribes ticket call link hcurrent
      next hnone => exact .refusesSubscribe ticket call hnone
  | number ticket => exact client.stepped_number ticket
  | enqueue ticket => exact client.stepped_enqueue ticket
  | forget ticket => exact .forgets ticket
  | setHandler handle handler =>
      unfold Client.step Client.setHandler
      dsimp only
      split
      next held hfound => exact .attaches handle handler held hfound
      next => exact .idle _ rfl rfl
  | unsubscribe ticket handle => exact client.stepped_unsubscribe ticket handle
  | retire ticket =>
      unfold Client.step Client.retire
      dsimp only
      split
      next link id answer hfound => exact .retires ticket _ answer hfound rfl
      next => exact .idle _ rfl rfl
  | turn link turn => exact .turns link turn

end

end ChainRpc.Client
