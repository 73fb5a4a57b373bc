import ChainRpc.Proofs.Json.Lossless
import ChainRpc.Proofs.Json.Record
import ChainRpc.Rpc.Envelope
import Mathlib.Tactic.FinCases

/-!
# What a message is

A message is classified by five members of its object. Four of them may be `null`, which counts as
absence; the result may not, for `null` is a result. A message is typed when each of the four that
is given has the type of its name. The members are read in the order of the text, but what the
message is depends on none of it: a message that is not typed is refused whole, and a typed one is
classified by what is given alone.

Every key of the object has to be a text, that of a member nobody asks for as well. A key
with an unpaired surrogate is JSON and no text.
-/

namespace ChainRpc.Rpc

open Json (Decoder Node)

variable {room : Nat} {node : Node}

/-! ### The types of the members -/

theorem RequestId.decoder_eq_ok_iff {id : RequestId} :
    RequestId.decoder room node = .ok id ↔
      ∃ n, node = .number n ∧ n.value? = some (.natural id.value) ∧ id.value < 2 ^ 64 := by
  refine Json.map_eq_ok_iff.trans ⟨?_, ?_⟩
  · rintro ⟨value, hread, rfl⟩
    exact Decoder.natural_eq_ok_iff.mp hread
  · intro hwritten
    exact ⟨id.value, Decoder.natural_eq_ok_iff.mpr hwritten, rfl⟩

theorem SubscriptionId.decoder_eq_ok_iff {id : SubscriptionId} :
    SubscriptionId.decoder room node = .ok id ↔
      (∃ pieces name, node = .string pieces ∧ Json.stringValue pieces = .ok name ∧
        .string name = id) ∨
      ∃ n value, node = .number n ∧ n.value? = some (.natural value) ∧ value < 2 ^ 64 ∧
        .number value = id := by
  cases node <;>
    simp [SubscriptionId.decoder, Decoder.nat64, Json.map_eq_ok_iff, Decoder.natural_eq_ok_iff,
      and_assoc]

namespace EventParams

theorem fields_apart : Decoder.Apart fields := by
  apply Decoder.Apart.of_places (by decide)
  · intro field hmem
    fin_cases hmem <;> exact Decoder.field_hasPlace fun _ _ => rfl
  · intro field hmem other hhere hdifferent room node draft after hstored
    fin_cases hmem <;> fin_cases hhere <;> first
      | contradiction
      | obtain ⟨value, -, rfl⟩ := Decoder.store_field_eq_ok.mp hstored; rfl

theorem store_keeps {field : Decoder.Field Draft} (hmem : field ∈ fields) {draft after : Draft}
    (hstored : field.store room node draft = .ok after) :
    (field.name ≠ "subscription" → after.subscription = draft.subscription) ∧
      (field.name ≠ "result" → after.result = draft.result) := by
  fin_cases hmem <;>
    (obtain ⟨value, -, rfl⟩ := Decoder.store_field_eq_ok.mp hstored; simp [Decoder.field])

theorem subscription_owned :
    Decoder.Owns fields "subscription" Draft.subscription SubscriptionId.decoder :=
  fields_apart.owns (.head _) (fun _ _ => rfl)
    fun _ hmem hdifferent _ _ _ _ hstored => (store_keeps hmem hstored).1 hdifferent

theorem result_owned : Decoder.Owns fields "result" Draft.result Decoder.raw :=
  fields_apart.owns (.tail _ (.head _)) (fun _ _ => rfl)
    fun _ hmem hdifferent _ _ _ _ hstored => (store_keeps hmem hstored).2 hdifferent

/-- The parameters of an event that is written as an object. -/
theorem decoder_object_eq_ok_iff {members : Json.Members} {params : EventParams}
    (hwhole : members.isWhole = true) :
    decoder (room + 1) (.object members) = .ok params ↔
      none ∉ members.keys ∧ members.Once "subscription" ∧ members.Once "result" ∧
        (∃ node, members.find? "subscription" = some node ∧
          SubscriptionId.decoder room node = .ok params.subscription) ∧
        ∃ node, members.find? "result" = some node ∧
          params.result = String.ofList node.text := by
  have hcomplete (draft : Draft) : ofDraft? draft = some params ↔
      draft.subscription = some params.subscription ∧ draft.result = some params.result := by
    cases params
    simp [ofDraft?, Option.bind_eq_some_iff]
  have hparts {draft : Draft} (honce : members.Once "subscription") (honce' : members.Once "result")
      (hread : Decoder.storeMembers fields room members {} = .ok draft) :
      ofDraft? draft = some params ↔
        (∃ node, members.find? "subscription" = some node ∧
          SubscriptionId.decoder room node = .ok params.subscription) ∧
        ∃ node, members.find? "result" = some node ∧
          Decoder.raw room node = .ok params.result := by
    rw [hcomplete, Decoder.storeMembers_get_eq_some_iff subscription_owned honce rfl hread,
      Decoder.storeMembers_get_eq_some_iff result_owned honce' rfl hread]
  have hraw {node : Node} (hfound : members.find? "result" = some node) :
      Decoder.raw room node = .ok params.result ↔ params.result = String.ofList node.text := by
    simp [Decoder.raw_eq_ok_iff, Json.Members.isWhole_find? hwhole hfound]
  have hempty : ∀ field ∈ fields, field.isSet {} = false := by simp [fields, Decoder.field]
  have hreadable := Decoder.storeMembers_isOk_iff fields_apart room hwhole hempty
  unfold decoder
  rw [Decoder.record_object_eq_ok_iff]
  constructor
  · rintro ⟨draft, hread, hdone⟩
    obtain ⟨htexts, hsuits⟩ := hreadable.mp ⟨draft, hread⟩
    have honce : members.Once "subscription" := (hsuits _ (.head _)).1
    have honce' : members.Once "result" := (hsuits _ (.tail _ (.head _))).1
    obtain ⟨hname, node, hfound, hdecoded⟩ := (hparts honce honce' hread).mp hdone
    exact ⟨htexts, honce, honce', hname, node, hfound, (hraw hfound).mp hdecoded⟩
  · rintro ⟨htexts, honce, honce', ⟨name, hnamed, hdecoded⟩, node, hfound, hheld⟩
    obtain ⟨draft, hread⟩ := hreadable.mpr ⟨htexts, by
      intro field hmem
      fin_cases hmem
      · refine ⟨honce, fun node hfound => (Decoder.accepts_field_iff {}).mpr ?_⟩
        obtain rfl := Option.some.inj (hnamed.symm.trans hfound)
        exact ⟨_, hdecoded⟩
      · refine ⟨honce', fun node hfound => (Decoder.accepts_field_iff {}).mpr ?_⟩
        exact ⟨_, Decoder.raw_eq_ok_iff.mpr ⟨Json.Members.isWhole_find? hwhole hfound, rfl⟩⟩⟩
    have hdone := (hparts honce honce' hread).mpr
      ⟨⟨name, hnamed, hdecoded⟩, node, hfound, (hraw hfound).mpr hheld⟩
    exact ⟨draft, hread, hdone⟩

/-- Only the name and the result make parameters that are written as an array. -/
theorem decoder_array {items : Json.Items} {params : EventParams}
    (hread : decoder (room + 1) (.array items) = .ok params) :
    ∃ before name after before' result after' gap,
      items = .item before name after (.item before' result after' (.close gap)) ∧
      SubscriptionId.decoder room name = .ok params.subscription ∧
      Decoder.raw room result = .ok params.result := by
  unfold decoder at hread
  obtain ⟨draft, hstored, hcomplete⟩ := Decoder.record_array_eq_ok_iff.mp hread
  rcases items with gap | ⟨before, name, after, rest⟩ | _
  · cases hstored
    contradiction
  · obtain ⟨middle, hfirst, hstored⟩ := Decoder.storeItems_item_eq_ok_iff.mp hstored
    obtain ⟨id, hdecoded, rfl⟩ := Decoder.store_field_eq_ok.mp hfirst
    rcases rest with gap | ⟨before', result, after', rest⟩ | _
    · cases hstored
      contradiction
    · obtain ⟨middle, hsecond, hstored⟩ := Decoder.storeItems_item_eq_ok_iff.mp hstored
      obtain ⟨text, hraw, rfl⟩ := Decoder.store_field_eq_ok.mp hsecond
      rcases rest with gap | _ | _
      · cases hstored
        cases hcomplete
        exact ⟨before, name, after, before', result, after', gap, rfl, hdecoded, hraw⟩
      · contradiction
      · contradiction
    · contradiction
  · contradiction

theorem result_isInfix {params : EventParams} (hwhole : node.isWhole = true)
    (hread : decoder room node = .ok params) : params.result.toList <:+: node.text := by
  cases node
  case object members =>
    cases room with
    | zero => contradiction
    | succ room =>
        obtain ⟨-, -, -, -, result, hfound, hheld⟩ := (decoder_object_eq_ok_iff hwhole).mp hread
        rw [hheld, String.toList_ofList, Node.text]
        exact (Json.Members.text_isInfix hfound true).trans (List.suffix_cons _ _).isInfix
  case array items =>
    cases room with
    | zero => contradiction
    | succ room =>
        obtain ⟨before, name, after, before', result, after', gap, rfl, -, hraw⟩ :=
          decoder_array hread
        obtain ⟨-, hheld⟩ := Decoder.raw_eq_ok_iff.mp hraw
        refine ⟨'[' :: before ++ name.text ++ after ++ ',' :: before', after' ++ gap ++ [']'], ?_⟩
        simp [hheld, Node.text, Json.Items.text]
  all_goals cases room <;> contradiction

end EventParams

namespace Members

theorem fields_apart : Decoder.Apart fields := by
  apply Decoder.Apart.of_places (by decide)
  · intro field hmem
    fin_cases hmem <;> exact Decoder.field_hasPlace fun _ _ => rfl
  · intro field hmem other hhere hdifferent room node draft after hstored
    fin_cases hmem <;> fin_cases hhere <;> first
      | contradiction
      | obtain ⟨value, -, rfl⟩ := Decoder.store_field_eq_ok.mp hstored; rfl

theorem store_keeps {field : Decoder.Field Members} (hmem : field ∈ fields)
    {draft after : Members} (hstored : field.store room node draft = .ok after) :
    (field.name ≠ "id" → after.id = draft.id) ∧
      (field.name ≠ "result" → after.result = draft.result) ∧
      (field.name ≠ "error" → after.error = draft.error) ∧
      (field.name ≠ "method" → after.method = draft.method) ∧
      (field.name ≠ "params" → after.params = draft.params) := by
  fin_cases hmem <;>
    (obtain ⟨value, -, rfl⟩ := Decoder.store_field_eq_ok.mp hstored; simp [Decoder.field])

theorem id_owned : Decoder.Owns fields "id" Members.id (Decoder.nullable RequestId.decoder) :=
  fields_apart.owns (.head _) (fun _ _ => rfl)
    fun _ hmem hdifferent _ _ _ _ hstored => (store_keeps hmem hstored).1 hdifferent

theorem result_owned : Decoder.Owns fields "result" Members.result Decoder.raw :=
  fields_apart.owns (.tail _ (.head _)) (fun _ _ => rfl)
    fun _ hmem hdifferent _ _ _ _ hstored => (store_keeps hmem hstored).2.1 hdifferent

theorem error_owned :
    Decoder.Owns fields "error" Members.error (Decoder.nullable ErrorObject.decoder) :=
  fields_apart.owns (.tail _ (.tail _ (.head _))) (fun _ _ => rfl)
    fun _ hmem hdifferent _ _ _ _ hstored => (store_keeps hmem hstored).2.2.1 hdifferent

theorem method_owned :
    Decoder.Owns fields "method" Members.method (Decoder.nullable Decoder.string) :=
  fields_apart.owns (.tail _ (.tail _ (.tail _ (.head _)))) (fun _ _ => rfl)
    fun _ hmem hdifferent _ _ _ _ hstored => (store_keeps hmem hstored).2.2.2.1 hdifferent

theorem params_owned :
    Decoder.Owns fields "params" Members.params (Decoder.nullable EventParams.decoder) :=
  fields_apart.owns (.tail _ (.tail _ (.tail _ (.tail _ (.head _))))) (fun _ _ => rfl)
    fun _ hmem hdifferent _ _ _ _ hstored => (store_keeps hmem hstored).2.2.2.2 hdifferent

/-- How deep arrays and objects may be nested in a member of a message. -/
def depth : Nat := Json.nestingLimit - 1

/-- Each member that is given has the type of its name and says this. -/
structure Typed (members : Json.Members) (id : Option RequestId) (error : Option ErrorObject)
    (method : Option String) (params : Option EventParams) : Prop where
  id : Decoder.optional RequestId.decoder depth members "id" = .ok id
  error : Decoder.optional ErrorObject.decoder depth members "error" = .ok error
  method : Decoder.optional Decoder.string depth members "method" = .ok method
  params : Decoder.optional EventParams.decoder depth members "params" = .ok params

/-- None of the members that count comes twice. -/
structure Distinct (members : Json.Members) : Prop where
  id : members.Once "id"
  result : members.Once "result"
  error : members.Once "error"
  method : members.Once "method"
  params : members.Once "params"

variable {members : Json.Members}

theorem Distinct.once_field (hdistinct : Distinct members) :
    ∀ field ∈ fields, members.Once field.name := by
  intro field hmem
  fin_cases hmem
  · exact hdistinct.id
  · exact hdistinct.result
  · exact hdistinct.error
  · exact hdistinct.method
  · exact hdistinct.params

/-- What is read from an object is what its members say. -/
theorem typed_of_storeMembers (hdistinct : Distinct members) {draft : Members}
    (hread : Decoder.storeMembers fields depth members {} = .ok draft) :
    Typed members draft.id.join draft.error.join draft.method.join draft.params.join where
  id := Decoder.optional_of_storeMembers id_owned hdistinct.id rfl hread
  error := Decoder.optional_of_storeMembers error_owned hdistinct.error rfl hread
  method := Decoder.optional_of_storeMembers method_owned hdistinct.method rfl hread
  params := Decoder.optional_of_storeMembers params_owned hdistinct.params rfl hread

/-- An object of texts for keys is read exactly when it is typed. -/
theorem storeMembers_isOk_iff (hwhole : members.isWhole = true) (hdistinct : Distinct members) :
    (∃ draft, Decoder.storeMembers fields depth members {} = .ok draft) ↔
      none ∉ members.keys ∧ ∃ id error method params, Typed members id error method params := by
  have hempty : ∀ field ∈ fields, field.isSet {} = false := by simp [fields, Decoder.field]
  have hreadable := Decoder.storeMembers_isOk_iff fields_apart depth hwhole hempty
  constructor
  · rintro ⟨draft, hread⟩
    exact ⟨(hreadable.mp ⟨draft, hread⟩).1, _, _, _, _, typed_of_storeMembers hdistinct hread⟩
  · rintro ⟨htexts, id, error, method, params, htyped⟩
    refine hreadable.mpr ⟨htexts, fun field hmem => ⟨hdistinct.once_field field hmem, ?_⟩⟩
    intro node hfound
    -- The result takes any value; the others take theirs because the object is typed.
    fin_cases hmem <;> apply (Decoder.accepts_field_iff {}).mpr
    · exact ⟨id, Decoder.nullable_of_optional htyped.id hfound⟩
    · exact ⟨_, Decoder.raw_eq_ok_iff.mpr ⟨Json.Members.isWhole_find? hwhole hfound, rfl⟩⟩
    · exact ⟨error, Decoder.nullable_of_optional htyped.error hfound⟩
    · exact ⟨method, Decoder.nullable_of_optional htyped.method hfound⟩
    · exact ⟨params, Decoder.nullable_of_optional htyped.params hfound⟩

theorem result_of_storeMembers (hdistinct : Distinct members) {draft : Members}
    (hread : Decoder.storeMembers fields depth members {} = .ok draft) :
    draft.result = (members.find? "result").map fun node => String.ofList node.text := by
  obtain ⟨hpresent, habsent⟩ := Decoder.storeMembers_get result_owned hdistinct.result hread
  cases hfound : members.find? "result" with
  | none => exact habsent hfound
  | some node =>
      obtain ⟨text, hdecoded, hheld⟩ := hpresent node hfound
      obtain ⟨-, rfl⟩ := Decoder.raw_eq_ok_iff.mp hdecoded
      exact hheld

theorem Typed.unique {id id' : Option RequestId} {error error' : Option ErrorObject}
    {method method' : Option String} {params params' : Option EventParams}
    (hfirst : Typed members id error method params)
    (hsecond : Typed members id' error' method' params') :
    id = id' ∧ error = error' ∧ method = method' ∧ params = params' :=
  ⟨Except.ok.inj (hfirst.id.symm.trans hsecond.id),
    Except.ok.inj (hfirst.error.symm.trans hsecond.error),
    Except.ok.inj (hfirst.method.symm.trans hsecond.method),
    Except.ok.inj (hfirst.params.symm.trans hsecond.params)⟩

end Members

namespace Envelope

/-- What a typed message is, from what its members say. -/
structure Classified (text : String) (members : Json.Members) (id : Option RequestId)
    (error : Option ErrorObject) (method : Option String) (params : Option EventParams) :
    Prop where
  /-- An error wins over a result. -/
  refusal : ∀ i e, id = some i → method = none → error = some e →
    parse text = .ok (.response i (.error e))
  answer : ∀ i result, id = some i → method = none → error = none →
    members.find? "result" = some result →
      parse text = .ok (.response i (.ok (String.ofList result.text))) ∧
        result.text <:+: text.toList
  empty : ∀ i, id = some i → method = none → error = none → members.find? "result" = none →
    parse text = .error (.malformed (.emptyResponse i.value))
  /-- With a method it is an event, whatever else is given. -/
  event : ∀ m p, method = some m → params = some p →
    parse text = .ok (.notification m p.subscription p.result) ∧
      p.result.toList <:+: text.toList
  neither : id = none ∨ method ≠ none → method = none ∨ params = none →
    parse text = .error (.malformed .unclassified)

variable {text : String} {before after : List Char} {members : Json.Members}

theorem parse_of_object
    (hobject : Json.Document.ofText text = ⟨before, .object members, after, []⟩) :
    parse text =
      match Decoder.storeMembers Members.fields Members.depth members {} with
      | .ok draft => ofMembers draft
      | .error fault => .error (.json fault) := by
  have hdeep : Json.nestingLimit = Members.depth + 1 := rfl
  simp only [parse, Decoder.ofText, hobject, Members.decoder, Decoder.record, hdeep, bind,
    Except.bind]
  cases Decoder.storeMembers Members.fields Members.depth members {} <;> rfl

theorem member_isInfix {name : String} {node : Node}
    (hobject : Json.Document.ofText text = ⟨before, .object members, after, []⟩)
    (hwhole : members.isWhole = true) (hfound : members.find? name = some node) :
    node.text <:+: text.toList := by
  have hkept : (Json.Document.ofText text).value.isWhole = true → _ := Json.Document.ofText_text
  rw [hobject] at hkept
  replace hkept := hkept hwhole
  have hinner : node.text <:+: (Node.object members).text :=
    (Json.Members.text_isInfix hfound true).trans (List.suffix_cons _ _).isInfix
  rw [← hkept, List.append_nil]
  exact List.infix_append_of_infix_left (List.infix_append_of_infix_right hinner)

/-- An object in which none of the members that count comes twice is refused when a key has no
text or a member is not of its type, and is otherwise what its members make it. -/
theorem parse_object
    (hobject : Json.Document.ofText text = ⟨before, .object members, after, []⟩)
    (hwhole : members.isWhole = true) (hdistinct : Members.Distinct members) :
    (none ∈ members.keys ∨ (¬∃ id error method params,
        Members.Typed members id error method params) →
      ∃ fault, parse text = .error (.json fault)) ∧
    ∀ id error method params, none ∉ members.keys →
      Members.Typed members id error method params →
      Classified text members id error method params := by
  have hreadable := Members.storeMembers_isOk_iff hwhole hdistinct
  rw [parse_of_object hobject]
  constructor
  · intro hbad
    cases hread : Decoder.storeMembers Members.fields Members.depth members {} with
    | error fault => exact ⟨fault, rfl⟩
    | ok draft =>
        obtain ⟨htexts, htyped⟩ := hreadable.mp ⟨draft, hread⟩
        obtain huntext | huntyped := hbad
        · contradiction
        · contradiction
  · intro id error method params htexts htyped
    obtain ⟨draft, hread⟩ := hreadable.mpr ⟨htexts, id, error, method, params, htyped⟩
    -- What the members say is what was read, so all that is left is how the parts are put together.
    obtain ⟨rfl, rfl, rfl, rfl⟩ :=
      htyped.unique (Members.typed_of_storeMembers hdistinct hread)
    have hparsed := parse_of_object hobject
    rw [hread] at hparsed
    have hresult := Members.result_of_storeMembers hdistinct hread
    constructor
    · intro i e hid hmethod herror
      simp [hparsed, ofMembers, hid, hmethod, herror]
    · intro i node hid hmethod herror hfound
      refine ⟨?_, member_isInfix hobject hwhole hfound⟩
      simp [hparsed, ofMembers, hid, hmethod, herror, hresult, hfound]
    · intro i hid hmethod herror hmissing
      simp [hparsed, ofMembers, hid, hmethod, herror, hresult, hmissing]
    · intro m p hmethod hparams
      refine ⟨by simp [hparsed, ofMembers, hmethod, hparams], ?_⟩
      have hgiven := htyped.params
      rw [hparams] at hgiven
      obtain ⟨node, hfound, -, hread⟩ := Decoder.optional_eq_some_iff.mp hgiven
      exact (EventParams.result_isInfix (Json.Members.isWhole_find? hwhole hfound) hread).trans
        (member_isInfix hobject hwhole hfound)
    · intro hid hparams
      rw [hparsed]
      cases hmethod : draft.method.join with
      | some m =>
          have hparams := hparams.resolve_left (by simp [hmethod])
          simp [ofMembers, hmethod, hparams]
      | none =>
          have hid := hid.resolve_right (by simp [hmethod])
          simp [ofMembers, hid, hmethod]

/-- The members of the message `{"key":0,"id":0,"result":1}` for some key. -/
def keyedMembers (key : List Json.Piece) : Json.Members :=
  .member [] key [] [] (.number ⟨false, ['0'], none, none⟩) [] <|
  .member [] (['i', 'd'].map .plain) [] [] (.number ⟨false, ['0'], none, none⟩) [] <|
  .member [] (['r', 'e', 's', 'u', 'l', 't'].map .plain) [] []
    (.number ⟨false, ['1'], none, none⟩) [] <|
  .close []

def keyedMessage (key : List Json.Piece) : String :=
  String.ofList (Node.object (keyedMembers key)).text

/-- With `x` for its key the message is a response. -/
theorem keyedMessage_classified :
    Json.Document.ofText (keyedMessage [.plain 'x'])
        = ⟨[], .object (keyedMembers [.plain 'x']), [], []⟩ ∧
      Classified (keyedMessage [.plain 'x']) (keyedMembers [.plain 'x'])
        (some ⟨0⟩) none none none := by
  have hobject : Json.Document.ofText (keyedMessage [.plain 'x'])
      = ⟨[], .object (keyedMembers [.plain 'x']), [], []⟩ := by
    unfold Json.Document.ofText keyedMessage
    rw [String.toList_ofList]
    rfl
  have hdistinct : Members.Distinct (keyedMembers [.plain 'x']) := by
    constructor <;> decide +kernel
  refine ⟨hobject, (parse_object hobject rfl hdistinct).2 (some ⟨0⟩) none none none ?_ ?_⟩
  · decide +kernel
  · constructor <;> rfl

/-- An unpaired surrogate for a key makes all of it unreadable, though nobody asks for the
member. -/
theorem keyedMessage_unpaired :
    ¬∀ text before after members,
      Json.Document.ofText text = ⟨before, .object members, after, []⟩ →
      members.isWhole = true → Members.Distinct members →
      ∀ id error method params, Members.Typed members id error method params →
        Classified text members id error method params := by
  intro hclaimed
  have hobject : Json.Document.ofText (keyedMessage [.unit 'd' '8' '0' '0'])
      = ⟨[], .object (keyedMembers [.unit 'd' '8' '0' '0']), [], []⟩ := by
    unfold Json.Document.ofText keyedMessage
    rw [String.toList_ofList]
    rfl
  have hdistinct : Members.Distinct (keyedMembers [.unit 'd' '8' '0' '0']) := by
    constructor <;> decide +kernel
  have htyped : Members.Typed (keyedMembers [.unit 'd' '8' '0' '0']) (some ⟨0⟩) none none none := by
    constructor <;> rfl
  have hanswered := ((hclaimed _ _ _ _ hobject rfl hdistinct _ _ _ _ htyped).answer ⟨0⟩
    (.number ⟨false, ['1'], none, none⟩) rfl rfl rfl (by rfl)).1
  have hrefused : Decoder.storeMembers Members.fields Members.depth
      (keyedMembers [.unit 'd' '8' '0' '0']) {} = .error .shape := rfl
  rw [parse_of_object hobject, hrefused] at hanswered
  cases hanswered

end Envelope

end ChainRpc.Rpc
