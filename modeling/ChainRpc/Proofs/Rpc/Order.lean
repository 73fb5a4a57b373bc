import ChainRpc.Proofs.Json.Rearrangement
import ChainRpc.Proofs.Rpc.Classification

/-!
# The order of the members of a message

What a message is does not depend on the order of its members, on members that have none of
the five names, or on the blanks between its tokens, except for those inside the result, which is
kept as it was written. The same goes for the parameters of an event.
-/

namespace ChainRpc.Rpc

open Json (Decoder Node Written)

/-! ### Each member by itself -/

namespace RequestId

theorem careful_decoder : Decoder.Careful decoder := (Decoder.careful_natural _).map _

theorem blind_decoder : Decoder.Blind decoder := (Decoder.blind_natural _).map _

end RequestId

namespace SubscriptionId

theorem careful_decoder : Decoder.Careful decoder where
  whole hread := by
    obtain ⟨pieces, name, rfl, -⟩ | ⟨n, value, rfl, -⟩ := decoder_eq_ok_iff.mp hread
    · rfl
    · rfl
  plain room node := by
    unfold decoder
    split
    · exact (Json.isPlain_stringValue _).map _
    · exact ((Decoder.careful_natural _).plain room _).map _

theorem blind_decoder : Decoder.Blind decoder := by
  intro room node
  cases node <;> rfl

end SubscriptionId

namespace ErrorObject

theorem careful_decoder : Decoder.Careful decoder := by
  apply Decoder.careful_record
  intro field hmem
  fin_cases hmem
  · exact Decoder.careful_int64.field _ _ _
  · exact Decoder.careful_string.field _ _ _
  · exact (Decoder.careful_value.map _).field _ _ _

theorem blind_decoder : Decoder.Blind decoder := by
  apply Decoder.blind_record
  intro field hmem
  fin_cases hmem
  · exact Decoder.blind_int64.field _ _ _
  · exact Decoder.blind_string.field _ _ _
  · exact (Decoder.blind_value.map _).field _ _ _

end ErrorObject

/-! ### The parameters of an event -/

namespace EventParams

theorem interchangeable_fields : Decoder.Interchangeable fields where
  toApart := fields_apart
  careful := by
    intro field hmem
    fin_cases hmem
    · exact SubscriptionId.careful_decoder.field _ _ _
    · exact Decoder.careful_raw.field _ _ _
  comm := by
    intro first hmem second hmem' hdifferent room value value' draft
    have hname := SubscriptionId.careful_decoder
    have hresult := Decoder.careful_raw
    fin_cases hmem <;> fin_cases hmem' <;> first
      | contradiction
      | apply Decoder.store_comm <;> first | assumption | exact fun _ _ _ => rfl

theorem careful_decoder : Decoder.Careful decoder :=
  Decoder.careful_record interchangeable_fields.careful _ _

/-- The names of the parameters. -/
def names : List String := ["subscription", "result"]

/-- The blanks in a parameter may change, but not in the result. -/
def Rewrites (name : Option String) (value value' : Node) : Prop :=
  name ≠ some "result" ∧ value.SameTokens value'

theorem unnoticed_rewrites : Decoder.Unnoticed fields Rewrites where
  known := by
    intro field hmem
    fin_cases hmem <;> apply Decoder.overlooks_field
    · exact fun hallowed => SubscriptionId.blind_decoder.congr hallowed.2
    · exact fun hallowed => absurd rfl hallowed.1
  unknown := fun ⟨_, hsame⟩ _ => Node.SameTokens.isWhole hsame

end EventParams

/-! ### The message -/

namespace Members

theorem interchangeable_fields : Decoder.Interchangeable fields where
  toApart := fields_apart
  careful := by
    intro field hmem
    fin_cases hmem
    · exact RequestId.careful_decoder.nullable.field _ _ _
    · exact Decoder.careful_raw.field _ _ _
    · exact ErrorObject.careful_decoder.nullable.field _ _ _
    · exact Decoder.careful_string.nullable.field _ _ _
    · exact EventParams.careful_decoder.nullable.field _ _ _
  comm := by
    intro first hmem second hmem' hdifferent room value value' draft
    have hid := RequestId.careful_decoder.nullable
    have hresult := Decoder.careful_raw
    have herror := ErrorObject.careful_decoder.nullable
    have hmethod := Decoder.careful_string.nullable
    have hparams := EventParams.careful_decoder.nullable
    fin_cases hmem <;> fin_cases hmem' <;> first
      | contradiction
      | apply Decoder.store_comm <;> first | assumption | exact fun _ _ _ => rfl

/-- The names of the members that count. -/
def names : List String := ["id", "result", "error", "method", "params"]

/-- How a member of a message may be rewritten: blanks may change outside a result, and the
parameters of an event may be rearranged. -/
inductive Rewrites : Option String → Node → Node → Prop
  | blanks {name value value'} (hother : name ≠ some "result" ∧ name ≠ some "params")
      (hsame : value.SameTokens value') : Rewrites name value value'
  | params {members members'}
      (hrearranged : members.Rearranged EventParams.names EventParams.Rewrites members') :
      Rewrites (some "params") (.object members) (.object members')
  | list {items items'} (hrespaced : items.Respaced EventParams.Rewrites EventParams.names items') :
      Rewrites (some "params") (.array items) (.array items')

theorem Rewrites.sameTokens {name : String} {value value' : Node}
    (hallowed : Rewrites (some name) value value') (hother : name ≠ "params") :
    value.SameTokens value' := by
  cases hallowed with
  | blanks _ hsame => exact hsame
  | params => contradiction
  | list => contradiction

/-- The result stays as it was written. -/
theorem not_rewrites_result {value value' : Node} : ¬Rewrites (some "result") value value' := by
  intro hallowed
  generalize hnamed : some "result" = name at hallowed
  cases hallowed with
  | blanks hother => exact hother.1 hnamed.symm
  | params => simp at hnamed
  | list => simp at hnamed

/-- Rewritten parameters are the same parameters. -/
theorem Rewrites.params_eq {value value' : Node} (hallowed : Rewrites (some "params") value value')
    (room : Nat) : Decoder.nullable EventParams.decoder room value
      = Decoder.nullable EventParams.decoder room value' := by
  cases hallowed with
  | blanks hother => exact absurd rfl hother.2
  | params hrearranged =>
      apply congrArg (Except.map some)
      exact Decoder.record_rearranged EventParams.interchangeable_fields
        EventParams.unnoticed_rewrites hrearranged _ _ _
  | list hrespaced =>
      apply congrArg (Except.map some)
      exact Decoder.record_respaced hrespaced EventParams.unnoticed_rewrites.known _ _ _

theorem unnoticed_rewrites : Decoder.Unnoticed fields Rewrites where
  known := by
    intro field hmem
    fin_cases hmem <;> apply Decoder.overlooks_field
    · exact fun hallowed =>
        RequestId.blind_decoder.nullable.congr (hallowed.sameTokens (by decide))
    · exact fun hallowed => absurd hallowed not_rewrites_result
    · exact fun hallowed =>
        ErrorObject.blind_decoder.nullable.congr (hallowed.sameTokens (by decide))
    · exact fun hallowed => Decoder.blind_string.nullable.congr (hallowed.sameTokens (by decide))
    · exact fun hallowed => hallowed.params_eq
  unknown := by
    intro name value value' hallowed hother
    cases hallowed with
    | blanks _ hsame => exact hsame.isWhole
    | params => exact absurd rfl (hother _ (.tail _ (.tail _ (.tail _ (.tail _ (.head _))))))
    | list => exact absurd rfl (hother _ (.tail _ (.tail _ (.tail _ (.tail _ (.head _))))))

end Members

namespace Envelope

/-- Take two JSON objects between blanks, one of which comes from the other when members change
places, members of other names come and go, whatever is in them, and blanks change anywhere but in
the result, all this as well in the parameters of an event. Both are the same message, with the
same text for a result, or both are refused for the same fault. -/
theorem parse_rearranged {text text' : String} {before after before' after' : List Char}
    {members members' : Json.Members} (hwritten : Written text before (.object members) after)
    (hwritten' : Written text' before' (.object members') after')
    (hrearranged : members.Rearranged Members.names Members.Rewrites members') :
    parse text = parse text' := by
  have hread := Decoder.ofText_of_written Members.decoder hwritten
  have hread' := Decoder.ofText_of_written Members.decoder hwritten'
  have hsame : Members.decoder Json.nestingLimit (.object members)
      = Members.decoder Json.nestingLimit (.object members') :=
    Decoder.record_rearranged Members.interchangeable_fields Members.unnoticed_rewrites hrearranged
      _ _ _
  simp only [parse, hread, hread', hsame]

/-- A member without blanks. -/
def bareEntry (name : List Char) (value : Node) : Json.Members.Entry :=
  ⟨[], name.map .plain, [], [], value, []⟩

def sampleResult : Json.Members.Entry :=
  bareEntry ['r', 'e', 's', 'u', 'l', 't'] (.number ⟨false, ['1'], none, none⟩)

def sampleSubscription : Json.Members.Entry :=
  bareEntry ['s', 'u', 'b', 's', 'c', 'r', 'i', 'p', 't', 'i', 'o', 'n'] (.string [.plain 's'])

def sampleMethod : Json.Members.Entry :=
  bareEntry ['m', 'e', 't', 'h', 'o', 'd'] (.string [.plain 'm'])

def sampleUnknown : Json.Members.Entry := bareEntry ['x'] (.array (.close [' ']))

def sampleParams (entries : List Json.Members.Entry) : Json.Members.Entry :=
  bareEntry ['p', 'a', 'r', 'a', 'm', 's'] (.object (.ofEntries entries))

/-- The message `{"method":"m","params":{"subscription":"s","result":1}}`. -/
def sampleEvent : Json.Members :=
  .ofEntries [sampleMethod, sampleParams [sampleSubscription, sampleResult]]

/-- The message `{"params":{"x":[ ],"result":1,"subscription":"s"},"method":"m"}`. -/
def sampleTurned : Json.Members :=
  .ofEntries [sampleParams [sampleUnknown, sampleResult, sampleSubscription], sampleMethod]

/-- Both messages are the event `1` for the subscription `s`. -/
theorem sampleEvent_rearranged :
    parse (String.ofList (Node.object sampleEvent).text)
        = parse (String.ofList (' ' :: (Node.object sampleTurned).text)) ∧
      parse (String.ofList (Node.object sampleEvent).text)
        = .ok (.notification "m" (.string "s") "1") := by
  have hwritten : Written (String.ofList (Node.object sampleEvent).text) [] (.object sampleEvent)
      [] := by
    apply Json.Document.ofText_eq_iff.mp
    unfold Json.Document.ofText
    rw [String.toList_ofList]
    exact ⟨rfl, rfl⟩
  have hwritten' : Written (String.ofList (' ' :: (Node.object sampleTurned).text)) [' ']
      (.object sampleTurned) [] := by
    apply Json.Document.ofText_eq_iff.mp
    unfold Json.Document.ofText
    rw [String.toList_ofList]
    exact ⟨rfl, rfl⟩
  have hinside : Json.Members.Rearranged EventParams.names EventParams.Rewrites
      (.ofEntries [sampleSubscription, sampleResult])
      (.ofEntries [sampleUnknown, sampleResult, sampleSubscription]) := by
    have hswapped : Json.Members.Rearranged EventParams.names EventParams.Rewrites _ _ :=
      Json.Members.rearranged_of_perm (.swap sampleResult sampleSubscription [])
    exact hswapped.trans _ _ _ (.rel _ _ (.insert rfl (by decide) rfl))
  have hrearranged : sampleEvent.Rearranged Members.names Members.Rewrites sampleTurned := by
    have hswapped : Json.Members.Rearranged Members.names Members.Rewrites _ _ :=
      Json.Members.rearranged_of_perm
        (.swap (sampleParams [sampleSubscription, sampleResult]) sampleMethod [])
    exact hswapped.trans _ _ _ (.rel _ _ (.rewrite (.params hinside)))
  refine ⟨parse_rearranged hwritten hwritten' hrearranged, ?_⟩
  rw [parse_of_object (Json.Document.ofText_eq_iff.mpr hwritten).1]
  rfl

end Envelope

end ChainRpc.Rpc
