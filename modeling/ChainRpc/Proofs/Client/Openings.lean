import ChainRpc.Proofs.Client.Endings
import ChainRpc.Proofs.Client.Namesakes
import ChainRpc.Proofs.Client.Numbers
import ChainRpc.Proofs.Json.Printed
import ChainRpc.Proofs.Rpc.Order

/-!
# What becomes of a subscribe call

The answer to a subscribe call names a subscription if it is a string or a whole number of 64
bits. If the caller is still there, the subscription stays registered and the caller is told its
name. If the caller has gone, the subscription is forgotten and a call that ends it is queued, whose
own answer nobody learns. Every other answer, and every error, is told to the caller and touches no
subscription. So a subscription that the node has opened is never left to nobody.
-/

namespace ChainRpc.Client

open Json (Numeral Piece Written stringValue)
open Link (Connection Outcome)
open Rpc (Coder RequestId ResultType SubscriptionId)

variable {β η : Type}

/-! ### Names -/

/-- The numeral is digits alone and stands for the number. -/
structure Digits (numeral : Numeral) (n : Nat) : Prop where
  unsigned : numeral.negative = false
  whole : numeral.fraction = none ∧ numeral.exponent = none
  value : Numeral.digitsValue numeral.whole = n

/-- The text is JSON and names a subscription: it is a string that stands for a text, or a whole
number of 64 bits that is written in digits alone. -/
inductive Names (raw : String) : SubscriptionId → Prop
  | string {before after : List Char} {pieces : List Piece} {name : String}
      (hwritten : Written raw before (.string pieces) after)
      (htext : stringValue pieces = .ok name) : Names raw (.string name)
  | number {before after : List Char} {numeral : Numeral} {n : Nat}
      (hwritten : Written raw before (.number numeral) after) (hdigits : Digits numeral n)
      (hfits : n < 2 ^ 64) : Names raw (.number n)

/-- A numeral stands for a natural number of 64 bits when it is digits alone. -/
theorem value?_eq_natural_iff {numeral : Numeral} {n : Nat} :
    numeral.value? = some (.natural n) ↔ Digits numeral n ∧ n < 2 ^ 64 := by
  rw [Numeral.value?_eq_natural_iff]
  constructor
  · rintro ⟨digits, rfl, hvalue, hfits⟩
    exact ⟨⟨rfl, ⟨rfl, rfl⟩, hvalue⟩, hfits⟩
  · obtain ⟨negative, whole, fraction, exponent⟩ := numeral
    rintro ⟨⟨rfl, ⟨rfl, rfl⟩, hvalue⟩, hfits⟩
    exact ⟨whole, rfl, hvalue, hfits⟩

theorem subscriptionOf_eq_ok_iff_ofText {raw : String} {id : SubscriptionId} :
    subscriptionOf raw = .ok id ↔ SubscriptionId.decoder.ofText raw = .ok id := by
  unfold subscriptionOf
  cases SubscriptionId.decoder.ofText raw <;> simp [Except.mapError]

/-- A client reads the names that there are. -/
theorem subscriptionOf_eq_ok_iff {raw : String} {id : SubscriptionId} :
    subscriptionOf raw = .ok id ↔ Names raw id := by
  rw [subscriptionOf_eq_ok_iff_ofText]
  constructor
  · intro hdecoded
    obtain ⟨before, node, after, hwritten, hdecoded⟩ :=
      SubscriptionId.careful_decoder.written_of_ofText hdecoded
    obtain ⟨pieces, name, rfl, htext, rfl⟩ | ⟨numeral, n, rfl, hvalue, hfits, rfl⟩ :=
      SubscriptionId.decoder_eq_ok_iff.mp hdecoded
    · exact .string hwritten htext
    · exact .number hwritten (value?_eq_natural_iff.mp hvalue).1 hfits
  · intro hnames
    cases hnames with
    | string hwritten htext =>
        rw [Json.Decoder.ofText_of_written _ hwritten]
        exact SubscriptionId.decoder_eq_ok_iff.mpr (.inl ⟨_, _, rfl, htext, rfl⟩)
    | number hwritten hdigits hfits =>
        rw [Json.Decoder.ofText_of_written _ hwritten]
        have hvalue := value?_eq_natural_iff.mpr ⟨hdigits, hfits⟩
        exact SubscriptionId.decoder_eq_ok_iff.mpr (.inr ⟨_, _, rfl, hvalue, hfits, rfl⟩)

/-- A text that names nothing is reported with its own text. -/
theorem subscriptionOf_of_unnamed {raw : String} (hunnamed : ∀ id, ¬Names raw id) :
    ∃ data, subscriptionOf raw =
      .error (.rpc ⟨-32603, "invalid subscription id: " ++ raw, some data⟩) := by
  cases hnamed : subscriptionOf raw with
  | ok id => exact absurd (subscriptionOf_eq_ok_iff.mp hnamed) (hunnamed id)
  | error error =>
      unfold subscriptionOf at hnamed
      cases hdecoded : SubscriptionId.decoder.ofText raw with
      | ok id =>
          rw [hdecoded] at hnamed
          cases hnamed
      | error fault =>
          rw [hdecoded] at hnamed
          cases hnamed
          exact ⟨_, rfl⟩

/-- A text names one subscription at most. -/
theorem Names.unique {raw : String} {id other : SubscriptionId} (hnames : Names raw id)
    (halso : Names raw other) : id = other := by
  rw [← subscriptionOf_eq_ok_iff] at hnames halso
  exact Except.ok.inj (hnames.symm.trans halso)

/-! ### Errors -/

section Errors

variable {client : Client β η} {ticket : Ticket} {error : Error}
  {effects : List (Link.Effect (Waiter β) Ticket)}

/-- Every effect of the list that completes a request fails it for the error. -/
def Fails (error : Error) (effects : List (Link.Effect (Waiter β) Ticket)) : Prop :=
  ∀ waiter outcome, .completed waiter outcome ∈ effects → outcome = .error error

/-- Among requests that fail for an error, a caller who waits for one of them learns it. -/
theorem resolves_among (hwanted : ticket ∈ client.awaited) (link : Nat)
    (hfails : Fails error effects) {waiter : Waiter β}
    (hmem : .completed waiter (.error error) ∈ effects) (hown : waiter.caller? = some ticket) :
    .resolved ticket (.error error) ∈ (client.reactAll link effects).2 := by
  induction effects generalizing client with
  | nil => contradiction
  | cons first effects ih =>
      have hlater : Fails error effects :=
        fun waiter outcome hmem => hfails waiter outcome (List.mem_cons_of_mem _ hmem)
      rw [reactAll_cons]
      rcases List.mem_cons.mp hmem with rfl | hthere
      · exact List.mem_append_left _ (resolves_react hwanted link hown error)
      · cases first with
        | completed owner outcome =>
            obtain rfl := hfails owner outcome List.mem_cons_self
            by_cases hmine : owner.caller? = some ticket
            · exact List.mem_append_left _ (resolves_react hwanted link hmine error)
            · exact List.mem_append_right _
                (ih (awaited_failed hwanted link hmine error) hlater hthere)
        | _ => exact List.mem_append_right _ (ih hwanted hlater hthere)

/-- A caller whose request fails is told the error, if the caller waits, and nothing else. -/
theorem told_error (client : Client β η) (link : Nat) (hfails : Fails error effects)
    {told : Effect β η} (hmem : told ∈ (client.reactAll link effects).2)
    (hanswers : told.Answers ticket) :
    told = .resolved ticket (.error error) ∧ ticket ∈ client.awaited := by
  induction effects generalizing client with
  | nil => contradiction
  | cons first effects ih =>
      have hlater : Fails error effects :=
        fun waiter outcome hmem => hfails waiter outcome (List.mem_cons_of_mem _ hmem)
      rw [reactAll_cons] at hmem
      rcases List.mem_append.mp hmem with hhere | hthere
      · have hreacts := client.reacts link first
        generalize client.react link first = next at hreacts hhere
        cases hreacts with
        | resolves owner result outcome hwanted =>
            obtain rfl := hfails _ _ List.mem_cons_self
            obtain rfl := List.mem_singleton.mp hhere
            obtain ⟨result, hsame⟩ | ⟨id, hsame⟩ := hanswers <;> cases hsame
            exact ⟨rfl, hwanted⟩
        | refuses owner unsubscribe event outcome refused hunnamed hwanted =>
            obtain rfl := hfails _ _ List.mem_cons_self
            cases hunnamed
            obtain rfl := List.mem_singleton.mp hhere
            obtain ⟨result, hsame⟩ | ⟨id, hsame⟩ := hanswers <;> cases hsame
            exact ⟨rfl, hwanted⟩
        | opens owner unsubscribe event outcome id hnamed =>
            obtain rfl := hfails _ _ List.mem_cons_self
            cases hnamed
        | writes frame =>
            obtain rfl := List.mem_singleton.mp hhere
            obtain ⟨result, hsame⟩ | ⟨id, hsame⟩ := hanswers <;> cases hsame
        | delivers listener method raw =>
            rcases client.deliver_le_one listener method raw with hnone | ⟨handler, value, hone⟩
            · rw [hnone] at hhere
              contradiction
            · rw [hone] at hhere
              obtain rfl := List.mem_singleton.mp hhere
              obtain ⟨result, hsame⟩ | ⟨id, hsame⟩ := hanswers <;> cases hsame
        | _ => contradiction
      · obtain ⟨hsame, hwanted⟩ := ih _ hlater hthere
        exact ⟨hsame, (client.react_reacted link first).fewer ticket hwanted⟩

end Errors

/-! ### Fresh numbers -/

/-- As long as the counter cannot come round, it is ahead of all numbers that it has given since it
last started. -/
theorem counter_ahead {client : Client β η} (hkept : AllLinks Kept client)
    {history : List (Action β η)}
    (hfew : client.coder.next + (client.allotments history).length < 2 ^ 64) :
    (client.links.length < (client.run history).1.links.length ∨
      client.links.length = (client.run history).1.links.length ∧
        client.coder.next ≤ (client.run history).1.coder.next) ∧
    ∀ earlier ∈ client.allotments history,
      earlier.opened < (client.run history).1.links.length ∨
        earlier.opened = (client.run history).1.links.length ∧
          earlier.id.value < (client.run history).1.coder.next := by
  induction history generalizing client with
  | nil => exact ⟨.inr ⟨rfl, Nat.le_refl _⟩, by simp [allotments]⟩
  | cons action history ih =>
      have hkeeps := kept_step hkept action
      unfold allotments at hfew ⊢
      rw [run_cons]
      dsimp only
      cases counts_step hkept action with
      | keeps hnone hcoder hlinks =>
          rw [hnone, List.nil_append] at hfew ⊢
          have hlater := ih hkeeps (by rw [hcoder]; exact hfew)
          rw [hcoder, hlinks] at hlater
          exact hlater
      | takes place hone hcoder hlinks =>
          rw [hone] at hfew ⊢
          simp only [List.singleton_append, List.length_cons] at hfew
          have hnext : (client.step action).1.coder.next = client.coder.next + 1 := by
            rw [hcoder]
            change (client.coder.next + 1) % 2 ^ 64 = _
            rw [Nat.mod_eq_of_lt (by omega)]
          obtain ⟨hrises, hahead⟩ := ih hkeeps (by rw [hnext]; omega)
          rw [hnext, hlinks] at hrises
          refine ⟨by omega, ?_⟩
          intro earlier hmem
          rcases List.mem_cons.mp hmem with rfl | hmem
          · exact hrises
          · exact hahead earlier hmem
      | restarts hnone hcoder hlinks =>
          rw [hnone, List.nil_append] at hfew ⊢
          obtain ⟨hrises, hahead⟩ := ih hkeeps (by rw [hcoder]; omega)
          rw [hlinks] at hrises
          exact ⟨by omega, hahead⟩

/-- The next number is none that was given since the counter last started, and on the connection
that was opened last no request has it. -/
theorem peek_fresh (address : Address) (options : Options) {history : List (Action β η)}
    (hfew : ((fresh address options : Client β η).allotments history).length < 2 ^ 64) :
    let client := ((fresh address options : Client β η).run history).1
    (∀ earlier ∈ (fresh address options : Client β η).allotments history,
        earlier.opened = client.links.length → earlier.id ≠ client.coder.peek) ∧
      ∀ link, link + 1 = client.links.length → client.coder.peek ∉ client.inHand link := by
  intro client
  have hkept : AllLinks Kept (fresh address options : Client β η) := kept_links address options []
  have haddressed : (fresh address options : Client β η).Addressed := .fresh address options
  have hfew : (fresh address options : Client β η).coder.next
      + ((fresh address options : Client β η).allotments history).length < 2 ^ 64 := by
    change 0 + _ < _
    rw [Nat.zero_add]
    exact hfew
  have hahead := (counter_ahead hkept hfew).2
  have hunused : ∀ earlier ∈ (fresh address options : Client β η).allotments history,
      earlier.opened = client.links.length → earlier.id ≠ client.coder.peek := by
    intro earlier hmem hlast hsame
    rcases hahead earlier hmem with holder | ⟨-, hbelow⟩
    · exact absurd hlast (Nat.ne_of_lt holder)
    · rw [hsame] at hbelow
      exact Nat.lt_irrefl _ hbelow
  refine ⟨hunused, ?_⟩
  intro link hnewest hmem
  have hgiven := count_inHand_run haddressed hkept history link client.coder.peek
  have hnone : (fresh address options : Client β η).inHand link = [] := rfl
  have hsomeGiven : 0 < timesGiven link client.coder.peek
      ((fresh address options : Client β η).allotments history) := by
    have hthere := List.count_pos_iff.mpr hmem
    rw [hnone, List.count_nil] at hgiven
    exact Nat.lt_of_lt_of_le hthere hgiven
  obtain ⟨earlier, hgiven, hatLink⟩ := List.countP_pos_iff.mp hsomeGiven
  obtain ⟨hplace, hid⟩ : earlier.place = link ∧ earlier.id = client.coder.peek := by
    simpa using hatLink
  -- It was given for the connection that was opened last, so after that was opened.
  have hopened := haddressed.place_lt_opened_run hkept history earlier hgiven
  have hlast : earlier.opened = client.links.length := by
    rcases hahead earlier hgiven with holder | ⟨hsame, -⟩
    · have holder : earlier.opened < client.links.length := holder
      omega
    · exact hsame
  exact hunused earlier hgiven hlast hid

/-! ### Outcomes -/

section Outcomes

variable (client : Client β η) (link : Nat) (remains : Connection (Waiter β) Ticket)

/-- The caller holds the subscription: it is registered for the caller, who was told its name. -/
structure Holds (ticket : Ticket) (unsubscribe : String) (event : ResultType β)
    (name : SubscriptionId) (after : Client β η × List (Effect β η)) : Prop where
  links : after.1.links = client.links.set link
    { remains with subscriptions := remains.subscriptions.insert name ⟨unsubscribe, ticket⟩ }
  registered : (after.1.links[link]?).bind (·.subscriptions.find? name)
    = some ⟨unsubscribe, ticket⟩
  handle : after.1.handles.find? ticket
    = some { id := name, unsubscribe, event, link, epoch := remains.epoch }
  coder : after.1.coder = client.coder
  told : after.2 = [.subscribed ticket name]

/-- Nobody holds the subscription: it is forgotten, a call with the next number is queued that ends
it, and nobody waits for the answer. -/
structure Dismisses (unsubscribe : String) (name : SubscriptionId)
    (after : Client β η × List (Effect β η)) : Prop where
  links : after.1.links = client.links.set link
    { remains with
      subscriptions := remains.subscriptions.erase name
      queue := remains.queue ++
        [.send client.coder.peek (Coder.encode client.coder.peek unsubscribe [name.toJson])
          (Waiter.nobody.request unsubscribe)] }
  forgotten : (after.1.links[link]?).bind (·.subscriptions.find? name) = none
  handles : after.1.handles = client.handles
  coder : after.1.coder = client.coder.take.2
  told : after.2 = []

/-- There is no subscription: the caller is told the error and nothing else, if the caller is still
there, and nothing else changes. -/
structure Refuses (ticket : Ticket) (error : Error)
    (after : Client β η × List (Effect β η)) : Prop where
  links : after.1.links = client.links.set link remains
  handles : after.1.handles = client.handles
  coder : after.1.coder = client.coder
  told : ∀ effect : Effect β η, effect.Answers ticket →
    (effect ∈ after.2 ↔ effect = .resolved ticket (.error error) ∧ ticket ∈ client.awaited)

end Outcomes

section Message

variable {client : Client β η} {link : Nat} {connection : Connection (Waiter β) Ticket}
  {bytes : List UInt8} {id : RequestId} {request : Link.Request (Waiter β) Ticket}
  {ticket : Ticket} {unsubscribe : String} {event : ResultType β} {outcome : Outcome}
  (hfound : client.links[link]? = some connection) (hkept : Kept connection)
  (hrunning : connection.ended = false)
  (hbears : connection.bearing bytes = .answer id request outcome)
  (howner : request.owner = .subscriber ticket unsubscribe event)
include hfound hkept hrunning hbears howner

theorem turn_answer :
    client.turn link (.message bytes) =
      (client.relink link (connection.answered id request outcome)).opened link ticket unsubscribe
        event outcome := by
  rw [turn_message hfound hkept hrunning, hbears]
  dsimp only
  rw [howner]
  rfl

theorem links_answer :
    (client.turn link (.message bytes)).1.links =
      client.links.set link (client.completerOn (.subscriber ticket unsubscribe event) outcome
        { connection with pending := connection.pending.erase id }) := by
  have hgenuine : request.registers = request.owner.registers := by
    have hmeans := connection.bearing_spec bytes
    rw [hbears] at hmeans
    obtain ⟨reply, -, hwaits, -⟩ := hmeans
    exact hkept.waiting_of_found hwaits
  rw [← howner, ← links_react_answer client link connection hgenuine id outcome,
    turn_message hfound hkept hrunning, hbears]

/-- The answer names a subscription, and the caller is still there. -/
theorem holds_of_answer {name : SubscriptionId} (hnamed : outcome.bind subscriptionOf = .ok name)
    (hwanted : ticket ∈ client.awaited) :
    client.Holds link { connection with pending := connection.pending.erase id } ticket
      unsubscribe event name (client.turn link (.message bytes)) := by
  have hlinks := links_answer hfound hkept hrunning hbears howner
  have hinside := (List.getElem?_eq_some_iff.mp hfound).1
  unfold completerOn at hlinks
  dsimp only at hlinks
  rw [hnamed] at hlinks
  dsimp only at hlinks
  rw [if_pos (by simpa using hwanted)] at hlinks
  have hreacts := (client.relink link (connection.answered id request outcome)).reacts_opened link
    ticket unsubscribe event outcome
  rw [turn_answer hfound hkept hrunning hbears howner] at hlinks ⊢
  generalize opened _ link ticket unsubscribe event outcome = next at hlinks hreacts ⊢
  cases hreacts with
  | refuses _ _ _ _ error hunnamed | misses _ _ _ _ error hunnamed =>
      rw [hnamed] at hunnamed
      cases hunnamed
  | abandons _ _ _ _ name' hnamed' hunwanted => exact absurd hwanted hunwanted
  | opens _ _ _ _ name' hnamed' _ =>
      obtain rfl : name = name' := Except.ok.inj (hnamed.symm.trans hnamed')
      constructor
      · exact hlinks
      · rw [hlinks, List.getElem?_set_self hinside]
        exact (Link.Registry.find?_insert ..).trans (if_pos rfl)
      · dsimp only [relink, forget]
        rw [Link.Registry.find?_insert, if_pos rfl, List.getElem?_set_self hinside]
        rfl
      · rfl
      · rfl

/-- The answer names a subscription, and the caller has gone. -/
theorem dismisses_of_answer {name : SubscriptionId}
    (hnamed : outcome.bind subscriptionOf = .ok name) (hunwanted : ticket ∉ client.awaited) :
    client.Dismisses link { connection with pending := connection.pending.erase id } unsubscribe
      name (client.turn link (.message bytes)) := by
  have hlinks := links_answer hfound hkept hrunning hbears howner
  have hinside := (List.getElem?_eq_some_iff.mp hfound).1
  unfold completerOn at hlinks
  dsimp only at hlinks
  rw [hnamed] at hlinks
  dsimp only at hlinks
  rw [if_neg (by simpa using hunwanted)] at hlinks
  unfold dismiss Connection.unregister Connection.send at hlinks
  dsimp only at hlinks
  rw [if_neg (by simp [hrunning])] at hlinks
  have hreacts := (client.relink link (connection.answered id request outcome)).reacts_opened link
    ticket unsubscribe event outcome
  rw [turn_answer hfound hkept hrunning hbears howner] at hlinks ⊢
  generalize opened _ link ticket unsubscribe event outcome = next at hlinks hreacts ⊢
  cases hreacts with
  | refuses _ _ _ _ error hunnamed | misses _ _ _ _ error hunnamed =>
      rw [hnamed] at hunnamed
      cases hunnamed
  | opens _ _ _ _ name' hnamed' hwanted => exact absurd hwanted hunwanted
  | abandons _ _ _ _ name' hnamed' _ =>
      constructor
      · exact hlinks
      · rw [hlinks, List.getElem?_set_self hinside]
        exact (Link.Registry.find?_erase ..).trans (if_pos rfl)
      · rfl
      · rfl
      · rfl

/-- The answer names no subscription, or it is an error. -/
theorem refuses_of_answer {error : Error} (hunnamed : outcome.bind subscriptionOf = .error error) :
    client.Refuses link { connection with pending := connection.pending.erase id } ticket error
      (client.turn link (.message bytes)) := by
  have hlinks := links_answer hfound hkept hrunning hbears howner
  unfold completerOn at hlinks
  dsimp only at hlinks
  rw [hunnamed] at hlinks
  have hreacts := (client.relink link (connection.answered id request outcome)).reacts_opened link
    ticket unsubscribe event outcome
  rw [turn_answer hfound hkept hrunning hbears howner] at hlinks ⊢
  generalize opened _ link ticket unsubscribe event outcome = next at hlinks hreacts ⊢
  cases hreacts with
  | opens _ _ _ _ name hnamed | abandons _ _ _ _ name hnamed =>
      rw [hunnamed] at hnamed
      cases hnamed
  | refuses _ _ _ _ error' hunnamed' hwanted =>
      obtain rfl : error = error' := Except.error.inj (hunnamed.symm.trans hunnamed')
      refine ⟨hlinks, rfl, rfl, ?_⟩
      intro effect hanswers
      have hwanted : ticket ∈ client.awaited := hwanted
      simp [hwanted]
  | misses _ _ _ _ error' hunnamed' hunwanted =>
      refine ⟨hlinks, rfl, rfl, ?_⟩
      intro effect hanswers
      have hunwanted : ticket ∉ client.awaited := hunwanted
      simp [hunwanted]

end Message

/-- A loop keeps the subscriptions of its connection as long as no message comes, unless it ends. -/
theorem subscriptions_turn {connection : Connection (Waiter β) Ticket}
    (hrunning : connection.ended = false) {turn : Link.Turn}
    (hother : ∀ bytes, turn ≠ .message bytes) :
    (connection.turn turn).1.subscriptions = connection.subscriptions ∨
      (connection.turn turn).1.ended = true := by
  cases hends : connection.ending? turn with
  | some reason =>
      obtain ⟨frames, hsame, -⟩ := Connection.turn_of_ending hrunning hends
      rw [hsame]
      exact .inr rfl
  | none =>
      obtain ⟨pending, queue, keepalive, hframe, -⟩ :=
        Connection.turn_of_going_on hrunning hends hother
      rw [hframe]
      exact .inl rfl

/-- Without a message a subscribe call fails, and there is no subscription. -/
theorem refuses_of_failure {client : Client β η} {link : Nat}
    {connection : Connection (Waiter β) Ticket} (hfound : client.links[link]? = some connection)
    (hrunning : connection.ended = false) {turn : Link.Turn}
    (hother : ∀ bytes, turn ≠ .message bytes) {ticket : Ticket} {unsubscribe : String}
    {event : ResultType β} {outcome : Outcome}
    (hcompleted : .completed (.subscriber ticket unsubscribe event) outcome
      ∈ (connection.turn turn).2) :
    ∃ error, outcome = .error error ∧
      client.Refuses link (connection.turn turn).1 ticket error (client.turn link turn) := by
  obtain ⟨error, hfails⟩ := Connection.fails_alike hrunning hother
  obtain rfl := hfails _ _ hcompleted
  obtain ⟨⟨awaited, farewells, hframe⟩, -⟩ :=
    onLink_quiet hfound (·.turn turn) (connection.turn_quiet hother)
  have heffects : (client.turn link turn).2 =
      ((client.relink link (connection.turn turn).1).reactAll link
        (connection.turn turn).2).2 := by
    unfold Client.turn onLink
    rw [hfound]
    rfl
  have hlinks := congrArg (fun after => after.links) hframe
  have hhandles := congrArg (fun after => after.handles) hframe
  have hcoder := congrArg (fun after => after.coder) hframe
  refine ⟨error, rfl, hlinks, hhandles, hcoder, ?_⟩
  intro effect hanswers
  rw [heffects]
  constructor
  · intro hmem
    exact told_error (client.relink link (connection.turn turn).1) link hfails hmem hanswers
  · rintro ⟨rfl, hwanted⟩
    have hwanted : ticket ∈ (client.relink link (connection.turn turn).1).awaited := hwanted
    exact resolves_among hwanted link hfails hcompleted rfl

/-- An answer that nobody waits for takes its request out, and nothing else comes of it. -/
theorem turn_of_unowned {client : Client β η} {link : Nat}
    {connection : Connection (Waiter β) Ticket} (hfound : client.links[link]? = some connection)
    (hkept : Kept connection) {bytes : List UInt8} {id : RequestId}
    {request : Link.Request (Waiter β) Ticket} {outcome : Outcome}
    (hbears : connection.bearing bytes = .answer id request outcome)
    (hunowned : request.owner = .nobody) :
    client.turn link (.message bytes) =
      (client.relink link { connection with pending := connection.pending.erase id }, []) := by
  have hmeans := connection.bearing_spec bytes
  rw [hbears] at hmeans
  obtain ⟨reply, -, hwaits, -⟩ := hmeans
  have hsettled := settle_eq (hkept.waiting_of_found hwaits) outcome connection.subscriptions
  rw [hunowned] at hsettled
  rw [turn_message hfound hkept (hkept.orderly.running_of_found hwaits), hbears]
  dsimp only
  rw [hunowned]
  unfold Connection.answered
  rw [hsettled]
  rfl

/-- Whenever the loop of any connection completes a subscribe call, one of four things happens.

* The answer names a subscription, and the caller is still there. The subscription is registered
  before the next message can come, and the caller is told its name and holds it.
* The answer names a subscription, and the caller has gone. The subscription is not registered, and
  one call with the next number is queued, which asks the node to end it. That number is none that
  was given since the counter last started, and no request on the newest connection has it. Nothing
  comes of the answer, whatever it is and whenever it comes.
* The answer names no subscription. The caller is told so, and no subscription changes.
* The call has failed. The caller is told the error, and that changes no subscription. If the
  connection ends with it, the subscriptions are forgotten because of its end. -/
theorem subscribe_has_four_outcomes (address : Address) (options : Options)
    (history : List (Action β η)) (link : Nat) (connection : Connection (Waiter β) Ticket)
    (hfound : ((fresh address options : Client β η).run history).1.links[link]? = some connection)
    (turn : Link.Turn) (ticket : Ticket) (unsubscribe : String) (event : ResultType β)
    (outcome : Outcome)
    (hcompleted : .completed (.subscriber ticket unsubscribe event) outcome
      ∈ (connection.turn turn).2) :
    let client := ((fresh address options : Client β η).run history).1
    let after := client.turn link turn
    (∀ raw, outcome = .ok raw →
      ∃ id request, connection.pending.find? id = some request ∧
        request.owner = .subscriber ticket unsubscribe event ∧
        (∀ name, Names raw name →
          (∀ other, Names raw other → other = name) ∧
          (ticket ∈ client.awaited →
            client.Holds link { connection with pending := connection.pending.erase id } ticket
              unsubscribe event name after) ∧
          (ticket ∉ client.awaited →
            client.Dismisses link { connection with pending := connection.pending.erase id }
              unsubscribe name after)) ∧
        ((∀ name, ¬Names raw name) → ∃ data,
          client.Refuses link { connection with pending := connection.pending.erase id } ticket
            (.rpc ⟨-32603, "invalid subscription id: " ++ raw, data⟩) after)) ∧
    (∀ error, outcome = .error error →
      (∀ now : Client β η, (now.react link
        (.completed (.subscriber ticket unsubscribe event) (.error error))).1.links = now.links) ∧
      ((connection.turn turn).1.subscriptions = connection.subscriptions ∨
        (connection.turn turn).1.ended = true) ∧
      client.Refuses link (connection.turn turn).1 ticket error after) ∧
    (((fresh address options : Client β η).allotments history).length < 2 ^ 64 →
      (∀ earlier ∈ (fresh address options : Client β η).allotments history,
        earlier.opened = client.links.length → earlier.id ≠ client.coder.peek) ∧
      (link + 1 = client.links.length → client.coder.peek ∉ client.inHand link)) ∧
    ∀ (later : List (Action β η)) (now : Connection (Waiter β) Ticket) (bytes : List UInt8)
      (id : RequestId) (request : Link.Request (Waiter β) Ticket) (answer : Outcome),
      (after.1.run later).1.links[link]? = some now →
      now.bearing bytes = .answer id request answer → request.owner = .nobody →
      (after.1.run later).1.turn link (.message bytes) =
        ((after.1.run later).1.relink link { now with pending := now.pending.erase id }, []) := by
  intro client after
  have hkeeps : AllLinks Kept client := kept_links address options history
  have hkept := hkeeps connection (List.mem_of_getElem? hfound)
  have hrunning : connection.ended = false := by
    rcases Bool.eq_false_or_eq_true connection.ended with hended | hrunning
    · rw [Connection.turn_of_ended hended] at hcompleted
      contradiction
    · exact hrunning
  have hfailed (error : Error) (now : Client β η) : (now.react link
      (.completed (.subscriber ticket unsubscribe event) (.error error))).1.links = now.links := by
    have hquiet : Connection.IsQuiet (.completed (.subscriber ticket unsubscribe event)
        (.error error) : Link.Effect (Waiter β) Ticket) := ⟨error, rfl⟩
    obtain ⟨⟨awaited, farewells, hframe⟩, -⟩ := now.react_quiet link hquiet
    rw [hframe]
  rw [← and_assoc]
  refine ⟨?_, ?_, ?_⟩
  · by_cases hmessage : ∃ bytes, turn = .message bytes
    · obtain ⟨bytes, rfl⟩ := hmessage
      have hmeans := connection.bearing_spec bytes
      have hturned := hkept.orderly.turn_message hrunning bytes
      cases hbears : connection.bearing bytes with
      | nothing =>
          rw [hturned, hbears] at hcompleted
          contradiction
      | event name registration method raw =>
          rw [hturned, hbears] at hcompleted
          cases List.mem_singleton.mp hcompleted
      | answer id request answer =>
          rw [hbears] at hmeans hturned
          rw [hturned] at hcompleted ⊢
          obtain ⟨howner, rfl⟩ := Link.Effect.completed.inj (List.mem_singleton.mp hcompleted)
          obtain ⟨reply, -, hwaits, -⟩ := hmeans
          have hrefuses {error : Error} (hunnamed : outcome.bind subscriptionOf = .error error) :=
            refuses_of_answer hfound hkept hrunning hbears howner.symm hunnamed
          constructor
          · rintro raw rfl
            refine ⟨id, request, hwaits, howner.symm, ?_, ?_⟩
            · intro name hnames
              have hnamed : (Except.ok raw : Outcome).bind subscriptionOf = .ok name :=
                subscriptionOf_eq_ok_iff.mpr hnames
              exact ⟨fun other halso => halso.unique hnames,
                holds_of_answer hfound hkept hrunning hbears howner.symm hnamed,
                dismisses_of_answer hfound hkept hrunning hbears howner.symm hnamed⟩
            · intro hunnamed
              obtain ⟨data, hinvalid⟩ := subscriptionOf_of_unnamed hunnamed
              exact ⟨some data, hrefuses hinvalid⟩
          · rintro error rfl
            exact ⟨hfailed error, .inl rfl, hrefuses rfl⟩
    · have hother : ∀ bytes, turn ≠ .message bytes := fun bytes hsame => hmessage ⟨bytes, hsame⟩
      obtain ⟨error, rfl, hrefuses⟩ := refuses_of_failure hfound hrunning hother hcompleted
      constructor
      · intro raw hsame
        cases hsame
      · intro again hsame
        cases hsame
        exact ⟨hfailed error, subscriptions_turn hrunning hother, hrefuses⟩
  · intro hfew
    obtain ⟨hunused, hunheld⟩ := peek_fresh address options hfew
    exact ⟨hunused, hunheld link⟩
  · intro later now bytes id request answer hthere hbears hunowned
    have hkeeps := kept_run (kept_step hkeeps (.turn link turn)) later
    exact turn_of_unowned hthere (hkeeps now (List.mem_of_getElem? hthere)) hbears hunowned

/-- A subscribe call whose caller goes before it is answered. -/
def sampleGone : List (Action String Unit) :=
  [.beginConnect, .endConnect .accepted] ++ Action.wholeSubscribe 0 sampleSubscribe ++
  [.turn 0 (.command none), .forget 0]

/-- The node names a subscription for it: the name is not registered, and its unsubscribe call is
queued with the next number. -/
theorem sampleGone_dismisses :
    let client := ((fresh sampleAddress {} : Client String Unit).run sampleGone).1
    let after := client.turn 0 (.message (Text.Utf8.encode "\x7b\"id\":0,\"result\":\"s\"\x7d"))
    after.2 = [] ∧ (after.1.links[0]?).bind (·.subscriptions.find? (.string "s")) = none ∧
      ∃ connection, after.1.links[0]? = some connection ∧ connection.queue =
        [.send ⟨1⟩ (Coder.encode ⟨1⟩ "unsubscribe" [SubscriptionId.toJson (.string "s")])
          (Waiter.nobody.request "unsubscribe")] := by
  intro client after
  obtain ⟨connection, request, hfound, hlimit, hwaits, howner, hidle, hnext, hinside⟩ :
      ∃ connection request, client.links[0]? = some connection ∧
        connection.assembly.limit = 64 * 2 ^ 20 ∧
        connection.pending.find? ⟨0⟩ = some request ∧
        request.owner = .subscriber 0 "unsubscribe" (.custom "text" .ok) ∧
        connection.queue = [] ∧ client.coder.peek = ⟨1⟩ ∧ 0 < client.links.length :=
    ⟨_, _, rfl, rfl, rfl, rfl, rfl, rfl, by decide⟩
  have horderly : connection.Orderly :=
    (kept_links sampleAddress {} sampleGone connection (List.mem_of_getElem? hfound)).orderly
  have hanswer : Link.responseOf connection.assembly.limit
      (Text.Utf8.encode "\x7b\"id\":0,\"result\":\"s\"\x7d") = some (⟨0⟩, .ok "\"s\"") := by
    rw [hlimit]
    decide +kernel
  have hnamed : Names "\"s\"" (.string "s") := subscriptionOf_eq_ok_iff.mp (by decide +kernel)
  have hcompleted : .completed (.subscriber 0 "unsubscribe" (.custom "text" .ok)) (.ok "\"s\"") ∈
      (connection.turn (.message (Text.Utf8.encode "\x7b\"id\":0,\"result\":\"s\"\x7d"))).2 := by
    rw [horderly.turn_found hanswer hwaits, howner]
    exact List.mem_singleton_self _
  obtain ⟨hanswered, -⟩ := subscribe_has_four_outcomes sampleAddress {} sampleGone 0 connection
    hfound _ 0 "unsubscribe" _ _ hcompleted
  obtain ⟨id, request, -, -, hnames, -⟩ := hanswered _ rfl
  obtain ⟨hlinks, hforgotten, -, -, htold⟩ := (hnames _ hnamed).2.2 (by decide)
  have hplace := (congrArg (fun links => links[0]?) hlinks).trans (List.getElem?_set_self hinside)
  refine ⟨htold, hforgotten, _, hplace, ?_⟩
  change connection.queue ++ [.send client.coder.peek _ _] = _
  rw [hidle, hnext]
  rfl

/-- A call and a subscribe call wait on the first connection, the subscriber goes, and the client
connects again. The second connection has been opened, and the first one has not been told to
end. -/
def sampleSuperseded : List (Action String Unit) :=
  [.beginConnect, .endConnect .accepted] ++
  Action.wholeCall 0 sampleCall ++ Action.wholeSubscribe 1 sampleSubscribe ++
  [.turn 0 (.command none), .turn 0 (.command none), .forget 1, .beginConnect,
   .endConnect .accepted]

/-- The node names a subscription for the subscriber. The numbers have started again, so the
unsubscribe call has the number of the call that waits, and the loop refuses it: the node is never
asked to end the subscription. -/
theorem sampleSuperseded_reuses_number :
    let client := ((fresh sampleAddress {} : Client String Unit).run sampleSuperseded).1
    let after := client.turn 0 (.message (Text.Utf8.encode "\x7b\"id\":1,\"result\":\"s\"\x7d"))
    after.2 = [] ∧ ∃ connection call, after.1.links[0]? = some connection ∧
      connection.ended = false ∧ connection.pending.find? ⟨0⟩ = some call ∧
      connection.queue =
        [.send ⟨0⟩ (Coder.encode ⟨0⟩ "unsubscribe" [SubscriptionId.toJson (.string "s")])
          (Waiter.nobody.request "unsubscribe")] ∧
      (connection.turn (.command none)).2
        = [.completed .nobody (.error (.transport (.duplicate 0)))] := by
  intro client after
  obtain ⟨connection, call, request, hfound, hlimit, hrunning, hcall, hwaits, howner, hidle, hnext,
      hinside⟩ :
      ∃ connection call request, client.links[0]? = some connection ∧
        connection.assembly.limit = 64 * 2 ^ 20 ∧ connection.ended = false ∧
        connection.pending.find? ⟨0⟩ = some call ∧ connection.pending.find? ⟨1⟩ = some request ∧
        request.owner = .subscriber 1 "unsubscribe" (.custom "text" .ok) ∧
        connection.queue = [] ∧ client.coder.peek = ⟨0⟩ ∧ 0 < client.links.length :=
    ⟨_, _, _, rfl, rfl, rfl, rfl, rfl, rfl, rfl, rfl, by decide⟩
  have hkept := kept_links sampleAddress {} sampleSuperseded connection
    (List.mem_of_getElem? hfound)
  have hanswer : Link.responseOf connection.assembly.limit
      (Text.Utf8.encode "\x7b\"id\":1,\"result\":\"s\"\x7d") = some (⟨1⟩, .ok "\"s\"") := by
    rw [hlimit]
    decide +kernel
  have hbears := Connection.bearing_eq_answer hanswer hwaits
  have hnamed : (Except.ok "\"s\"" : Outcome).bind subscriptionOf = .ok (.string "s") := by
    decide +kernel
  have hdismisses := dismisses_of_answer hfound hkept hrunning hbears howner hnamed (by decide)
  -- The call waits when the loop comes to the unsubscribe call.
  obtain ⟨later, hplace, hrunning, hcall, hqueue⟩ :
      ∃ later : Connection (Waiter String) Ticket, after.1.links[0]? = some later ∧
        later.ended = false ∧ later.pending.find? ⟨0⟩ = some call ∧
        later.queue = connection.queue ++ [.send client.coder.peek
          (Coder.encode client.coder.peek "unsubscribe" [SubscriptionId.toJson (.string "s")])
          (Waiter.nobody.request "unsubscribe")] :=
    ⟨_, (congrArg (fun links => links[0]?) hdismisses.links).trans
      (List.getElem?_set_self hinside), hrunning, (Link.Registry.find?_erase ..).trans hcall, rfl⟩
  rw [hidle, hnext] at hqueue
  exact ⟨hdismisses.told, later, call, hplace, hrunning, hcall, hqueue,
    congrArg Prod.snd (Connection.turn_duplicate hrunning hqueue hcall none)⟩

end ChainRpc.Client
