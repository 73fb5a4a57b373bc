import ChainRpc.Proofs.Link.Reassembly

/-!
# Responses

A message is a response when it keeps to the size limit, is UTF-8 and classifies as one. A
response whose id waits takes that request out of the registry; every other message leaves the
connection as it was.
-/

namespace ChainRpc.Link

open Rpc (Envelope RequestId)
open Text (Utf8.decode)

variable {κ δ : Type}

/-- The id and the outcome that a message carries, if it is a response that is not dropped. -/
def responseOf (limit : Nat) (bytes : List UInt8) : Option (RequestId × Outcome) :=
  if bytes.length > limit then none
  else
    match Utf8.decode bytes with
    | .ok text =>
        match Envelope.parse text with
        | .ok (.response id outcome) => some (id, outcome.mapError .rpc)
        | .ok (.notification ..) | .error _ => none
    | .error _ => none

theorem responseOf_eq_some_iff {limit : Nat} {bytes : List UInt8} {id : RequestId}
    {outcome : Outcome} :
    responseOf limit bytes = some (id, outcome) ↔
      ∃ text reply, ¬ bytes.length > limit ∧ Utf8.decode bytes = .ok text ∧
        Envelope.parse text = .ok (.response id reply) ∧ reply.mapError .rpc = outcome := by
  unfold responseOf
  by_cases hlarge : bytes.length > limit
  · simp [hlarge]
  · rw [if_neg hlarge]
    cases hdecoded : Utf8.decode bytes with
    | error fault => simp
    | ok text =>
        dsimp only
        cases hparsed : Envelope.parse text with
        | error fault => simp [hparsed]
        | ok envelope =>
            cases envelope with
            | notification method name raw => simp [hparsed]
            | response named reply =>
                constructor
                · intro h
                  cases h
                  exact ⟨text, reply, hlarge, rfl, hparsed, rfl⟩
                · rintro ⟨_, _, -, hsame, hfound, rfl⟩
                  cases hsame
                  rw [hparsed] at hfound
                  cases hfound
                  rfl

/-- The first outcome that responses carry for an id. -/
def firstOutcome (id : RequestId) (responses : List (RequestId × Outcome)) : Option Outcome :=
  (responses.find? fun response => response.1 = id).map Prod.snd

/-- The ids that responses carry. -/
def mentioned (responses : List (RequestId × Outcome)) : List RequestId :=
  responses.map Prod.fst

@[simp] theorem mem_mentioned_cons (id other : RequestId) (outcome : Outcome)
    (responses : List (RequestId × Outcome)) :
    id ∈ mentioned ((other, outcome) :: responses) ↔ id = other ∨ id ∈ mentioned responses :=
  List.mem_cons

theorem firstOutcome_cons_self (id : RequestId) (outcome : Outcome)
    (responses : List (RequestId × Outcome)) :
    firstOutcome id ((id, outcome) :: responses) = some outcome := by
  simp [firstOutcome]

theorem firstOutcome_cons_of_ne {id other : RequestId} (hdifferent : other ≠ id)
    (outcome : Outcome) (responses : List (RequestId × Outcome)) :
    firstOutcome id ((other, outcome) :: responses) = firstOutcome id responses := by
  simp [firstOutcome, hdifferent]

/-- The first outcome of an id depends on the responses with that id and their order alone. -/
theorem firstOutcome_congr {id : RequestId} {first second : List (RequestId × Outcome)}
    (hsame : first.filter (fun response => response.1 = id)
      = second.filter fun response => response.1 = id) :
    firstOutcome id first = firstOutcome id second := by
  unfold firstOutcome
  rw [← List.head?_filter, ← List.head?_filter, hsame]

theorem mentioned_congr {id : RequestId} {first second : List (RequestId × Outcome)}
    (hsame : first.filter (fun response => response.1 = id)
      = second.filter fun response => response.1 = id) :
    id ∈ mentioned first ↔ id ∈ mentioned second := by
  have hsomeOf : ∀ responses : List (RequestId × Outcome),
      id ∈ mentioned responses ↔ responses.filter (fun response => response.1 = id) ≠ [] := by
    intro responses
    simp [mentioned, List.filter_eq_nil_iff]
  rw [hsomeOf, hsomeOf, hsame]

namespace Connection

variable {connection : Connection κ δ}

/-- A message is read on its own: nothing of an earlier one is left. -/
theorem Orderly.receive_eq (horderly : Orderly connection) (bytes : List UInt8) :
    connection.receive bytes =
      if bytes.length > connection.assembly.limit then (connection, [])
      else
        match Utf8.decode bytes with
        | .ok text => connection.dispatch text
        | .error _ => (connection, []) := by
  have hpushed := Assembly.push_whole connection.assembly.limit bytes
  rw [← horderly.whole] at hpushed
  unfold receive
  rw [hpushed]
  unfold Assembly.verdict
  by_cases hlarge : connection.assembly.limit < bytes.length
  · rw [if_pos hlarge, if_pos hlarge]
  · rw [if_neg hlarge, if_neg hlarge]
    cases Utf8.decode bytes with
    | ok text => rfl
    | error fault => rfl

/-- A response completes the request of its id. -/
theorem Orderly.turn_response (horderly : Orderly connection)
    (hrunning : connection.ended = false) {bytes : List UInt8} {id : RequestId}
    {outcome : Outcome}
    (hresponse : responseOf connection.assembly.limit bytes = some (id, outcome)) :
    connection.turn (.message bytes) = connection.complete id outcome := by
  obtain ⟨text, reply, hsmall, hdecoded, hparsed, rfl⟩ := responseOf_eq_some_iff.mp hresponse
  unfold Connection.turn
  rw [if_neg (by simp [hrunning])]
  dsimp only
  rw [horderly.receive_eq, if_neg hsmall, hdecoded]
  dsimp only
  unfold dispatch
  rw [hparsed]

/-- An event, and nothing else, is what other messages can bring about. -/
theorem dispatch_other {text : String}
    (hother : ∀ id reply, Envelope.parse text ≠ .ok (.response id reply)) :
    ∃ effects, connection.dispatch text = (connection, effects) ∧
      ∀ effect ∈ effects, ∃ listener method raw, effect = .delivered listener method raw := by
  unfold dispatch
  cases hparsed : Envelope.parse text with
  | error fault => exact ⟨[], rfl, by simp⟩
  | ok envelope =>
      cases envelope with
      | response id reply => exact absurd hparsed (hother id reply)
      | notification method id raw =>
          refine ⟨connection.deliver method id raw, rfl, ?_⟩
          intro effect hmem
          unfold deliver at hmem
          split at hmem
          next registration _ =>
            rw [List.mem_singleton] at hmem
            exact ⟨registration.listener, method, raw, hmem⟩
          next => contradiction

/-- Every other message delivers an event at most. -/
theorem Orderly.turn_other (horderly : Orderly connection) {bytes : List UInt8}
    (hother : responseOf connection.assembly.limit bytes = none) :
    ∃ effects, connection.turn (.message bytes) = (connection, effects) ∧
      ∀ effect ∈ effects, ∃ listener method raw, effect = .delivered listener method raw := by
  unfold Connection.turn
  by_cases hended : connection.ended = true
  · rw [if_pos hended]
    exact ⟨[], rfl, by simp⟩
  · rw [if_neg hended]
    dsimp only
    rw [horderly.receive_eq]
    by_cases hlarge : bytes.length > connection.assembly.limit
    · rw [if_pos hlarge]
      exact ⟨[], rfl, by simp⟩
    · rw [if_neg hlarge]
      cases hdecoded : Utf8.decode bytes with
      | error fault => exact ⟨[], rfl, by simp⟩
      | ok text =>
          refine dispatch_other ?_
          intro id reply hparsed
          have hresponse := responseOf_eq_some_iff.mpr ⟨text, reply, hlarge, hdecoded, hparsed, rfl⟩
          rw [hother] at hresponse
          contradiction

/-- The response to an id that does not wait changes nothing. -/
theorem complete_of_absent {id : RequestId} (habsent : connection.pending.find? id = none)
    (outcome : Outcome) : connection.complete id outcome = (connection, []) := by
  unfold complete
  rw [habsent]

/-- The connection without a request that was answered. -/
def answered (connection : Connection κ δ) (id : RequestId) (request : Request κ δ)
    (outcome : Outcome) : Connection κ δ :=
  { connection with
    pending := connection.pending.erase id
    subscriptions := request.settle outcome connection.subscriptions }

/-- The response to an id that waits takes its request out. -/
theorem complete_of_found {id : RequestId} {request : Request κ δ}
    (hfound : connection.pending.find? id = some request) (outcome : Outcome) :
    connection.complete id outcome
      = (connection.answered id request outcome, [.completed request.owner outcome]) := by
  unfold complete
  rw [hfound]
  rfl

/-- Nothing waits on a connection that has ended. -/
theorem Orderly.running_of_found (horderly : Orderly connection) {id : RequestId}
    {request : Request κ δ} (hfound : connection.pending.find? id = some request) :
    connection.ended = false := by
  cases hended : connection.ended with
  | false => rfl
  | true =>
      rw [(horderly.cleared hended).2] at hfound
      contradiction

/-- A response to a request that waits answers it, and does nothing else. -/
theorem Orderly.turn_found (horderly : Orderly connection) {bytes : List UInt8}
    {id : RequestId} {outcome : Outcome} {request : Request κ δ}
    (hresponse : responseOf connection.assembly.limit bytes = some (id, outcome))
    (hfound : connection.pending.find? id = some request) :
    connection.turn (.message bytes)
      = (connection.answered id request outcome, [.completed request.owner outcome]) := by
  rw [horderly.turn_response (horderly.running_of_found hfound) hresponse]
  exact complete_of_found hfound outcome

end Connection

end ChainRpc.Link
