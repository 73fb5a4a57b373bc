import ChainRpc.Proofs.Json.Trees
import ChainRpc.Proofs.Link.Responses
import ChainRpc.Proofs.Rpc.Classification
import ChainRpc.Rpc.Coder

/-!
# Requests on the wire

The text of a request is an object of four members, and reading it gives back the number, the
method and the parameters, in their order. So no two requests have the same text. A node that sends
a request back completes nothing by it: a message with a method is no response, and the method
stands before the parameters, so this holds whatever the parameters are.
-/

namespace ChainRpc.Json

/-- The members of an object are read one by one: a proper one before a comma is taken as it is,
whatever comes behind. -/
theorem Members.scan_begun {n : Nat} {before : List Char} {key : List Piece} {value : Node}
    (hproper : ∀ piece ∈ key, piece.IsProper) (hvalueProper : value.IsProper)
    (henough : value.text.length < n) (more : List Char) :
    Members.scan (n + 1) before
        ('"' :: (key.flatMap Piece.text ++ '"' :: ':' :: (value.text ++ ',' :: '"' :: more))) =
      (.member before key [] [] value [] (Members.scan n [] ('"' :: more)).1,
        (Members.scan n [] ('"' :: more)).2) := by
  obtain ⟨c, tail, hhead, hsolid, -⟩ := hvalueProper.text_head
  have hbegun : (value.text ++ ',' :: '"' :: more).span isBlank
      = ([], value.text ++ ',' :: '"' :: more) := by
    rw [hhead]
    exact isGap_nil.span_append hsolid
  have hstops : Stops Numeral.continues (',' :: '"' :: more) := by
    rintro _ ⟨⟩
    rfl
  exact scan_more (Piece.scan_append hproper _) (isGap_nil.span_append rfl) hbegun
    ((readsBack n).1 _ hvalueProper henough hstops) (isGap_nil.span_append rfl)
    (isGap_nil.span_append rfl) rfl

end ChainRpc.Json

namespace ChainRpc.Rpc.Coder

open Json (Decoder Document Node Numeral Piece Value insertMember nestingLimit printed
  spells_printed)
open Link (Connection Effect)
open Text (Utf8.encode Utf8.decode_encode)

variable {id : RequestId} {method : String} {params : List Value}

/-! ### What a request says -/

theorem isExact_request (hexact : ∀ param ∈ params, param.IsExact) :
    (request id method params).IsExact := by
  apply Value.isExact_object
  simp only [List.map_cons, List.map_nil, List.forall_mem_cons]
  exact ⟨Value.isExact_string _, Value.isExact_of_children nofun nofun, Value.isExact_string _,
    Value.isExact_array hexact, nofun⟩

/-- What is read from the text of a request. Objects that are read have their keys in order. -/
def content (id : RequestId) (method : String) (params : List Value) : Value :=
  .object [("id", id.toJson), ("jsonrpc", .string "2.0"), ("method", .string method),
    ("params", .array params)]

/-- The members of a request in the order of their keys. -/
theorem ordered (version number name list : Value) :
    insertMember "params" list (insertMember "method" name (insertMember "id" number
      [("jsonrpc", version)]))
      = [("id", number), ("jsonrpc", version), ("method", name), ("params", list)] := by
  rfl

/-- The text of a request is read as its members. -/
theorem ofText_encode (hfits : id.value < 2 ^ 64) (hfaithful : ∀ param ∈ params, param.IsFaithful)
    (hshallow : (request id method params).depth ≤ nestingLimit) :
    Decoder.value.ofText (encode id method params) = .ok (content id method params) := by
  have hother : "jsonrpc" ≠ Json.spelledKey := by decide
  have hexact : (request id method params).IsExact :=
    isExact_request fun param hmem => (hfaithful param hmem).exact
  have hinner : Json.itemsDepth params ≤ 125 := by
    simp only [request, Value.depth, Json.membersDepth, nestingLimit] at hshallow
    omega
  have hitems (spelled : String → Except Json.Fault Value) :
      (Json.itemsTree params).valuesWith spelled 125 = .ok params :=
    Json.valuesWith_itemsTree hfaithful hinner
  rw [encode, Decoder.ofText_of_written _ (Value.written_text hexact)]
  simp only [Decoder.value, Node.value, request, Value.tree, Json.membersTree, nestingLimit,
    Node.valueWith, Json.Members.valueWith, Json.Members.valuesWith, (spells_printed _).value, bind,
    Except.bind, Except.map, RequestId.toJson, Value.nat, Json.Number.tree,
    Numeral.value?_ofNat hfits, hitems, ordered, content, if_neg hother]

/-! ### A request that comes back -/

/-- The characters of a request up to the opening quote of the last key, and those behind. -/
theorem toList_encode (id : RequestId) (method : String) (params : List Value) :
    ∃ more, (encode id method params).toList =
      '\x7b' :: '"' :: ((printed "jsonrpc").flatMap Piece.text ++
        '"' :: ':' :: ((Node.string (printed "2.0")).text ++ ',' :: '"' ::
      ((printed "id").flatMap Piece.text ++
        '"' :: ':' :: ((Node.number (.ofNat id.value)).text ++ ',' :: '"' ::
      ((printed "method").flatMap Piece.text ++
        '"' :: ':' :: ((Node.string (printed method)).text ++ ',' :: '"' :: more)))))) := by
  refine ⟨(printed "params").flatMap Piece.text ++
    '"' :: ':' :: '[' :: (Json.itemChars true params ++ ['\x7d']), ?_⟩
  simp only [encode, request, Value.text, String.toList_ofList, Value.chars, Json.memberChars,
    RequestId.toJson, Value.nat, Json.Number.text, Node.text, Numeral.text_ofNat, Json.quoteText,
    Json.quote, printed, List.append_assoc, List.cons_append, List.nil_append, if_true,
    Bool.false_eq_true, if_false]

/-- The members of a request before its parameters, and what stands in their place. -/
def opening (id : RequestId) (method : String) (rest : Json.Members) : Json.Members :=
  .member [] (printed "jsonrpc") [] [] (.string (printed "2.0")) [] <|
  .member [] (printed "id") [] [] (.number (.ofNat id.value)) [] <|
  .member [] (printed "method") [] [] (.string (printed method)) [] rest

theorem find?_opening (id : RequestId) (method : String) (rest : Json.Members) :
    (opening id method rest).find? "method" = some (.string (printed method)) := by
  have hversion : "jsonrpc" ≠ "method" := by decide
  have hnumber : "id" ≠ "method" := by decide
  unfold opening
  rw [Json.Members.find?_member_of_ne (spells_printed "jsonrpc").value hversion,
    Json.Members.find?_member_of_ne (spells_printed "id").value hnumber,
    Json.Members.find?_member_self (spells_printed "method").value]

/-- The members before the parameters are read whatever the parameters are. -/
theorem document_encode (id : RequestId) (method : String) (params : List Value) :
    ∃ rest, (Document.ofText (encode id method params)).value =
      .object (opening id method rest) := by
  obtain ⟨more, hshown⟩ := toList_encode id method params
  -- There is more fuel than characters, and each member takes one of it.
  obtain ⟨fuel, henough⟩ : ∃ fuel, (encode id method params).toList.length = fuel + 3 ∧
      (Node.string (printed "2.0")).text.length < fuel + 2 ∧
      (Node.number (.ofNat id.value)).text.length < fuel + 1 ∧
      (Node.string (printed method)).text.length < fuel := by
    refine ⟨(encode id method params).toList.length - 3, ?_⟩
    rw [hshown]
    simp only [List.length_cons, List.length_append]
    omega
  obtain ⟨hlong, hversion, hnumber, hname⟩ := henough
  have hliteral (text : String) : (Node.string (printed text)).IsProper :=
    (spells_printed text).proper
  have hnumeral : (Node.number (.ofNat id.value)).IsProper := Numeral.isProper_ofNat id.value
  have hopened (rest : List Char) : ('"' :: rest).span Json.isBlank = ([], '"' :: rest) :=
    Json.isGap_nil.span_append rfl
  have hbegun : (encode id method params).toList.span Json.isBlank
      = ([], (encode id method params).toList) := by
    rw [hshown]
    exact Json.isGap_nil.span_append rfl
  refine ⟨(Json.Members.scan fuel [] ('"' :: more)).1, ?_⟩
  simp only [Document.ofText, hbegun, hlong]
  rw [hshown, Node.scan_object (hopened _) (by decide)
      (Json.Members.scan_begun (hliteral "jsonrpc") (hliteral "2.0") hversion _),
    Json.Members.scan_begun (hliteral "id") hnumeral hnumber,
    Json.Members.scan_begun (hliteral "method") (hliteral method) hname]
  rfl

/-- Whatever is read from a request has its method. -/
theorem method_of_ofText {members : Members}
    (hread : Members.decoder.ofText (encode id method params) = .ok members) :
    members.method = some (some method) := by
  obtain ⟨rest, hdocument⟩ := document_encode id method params
  obtain ⟨draft, hread, hended⟩ := Json.bind_eq_ok_iff.mp hread
  rw [hdocument] at hread
  obtain ⟨_, hstored, ⟨⟩⟩ := Decoder.record_object_eq_ok_iff.mp hread
  split at hended
  next =>
    cases hended
    have honce : (opening id method rest).Once "method" :=
      Decoder.storeMembers_once Members.fields_apart (.tail _ (.tail _ (.tail _ (.head _)))) hstored
    obtain ⟨hgiven, -⟩ := Decoder.storeMembers_get Members.method_owned honce hstored
    obtain ⟨found, hnamed, hheld⟩ := hgiven _ (find?_opening id method rest)
    obtain ⟨⟨⟩, -⟩ | ⟨-, text, hspelled, rfl⟩ := Decoder.nullable_eq_ok_iff.mp hnamed
    rw [hheld, Except.ok.inj ((spells_printed method).value.symm.trans hspelled)]
  next => cases hended

/-- A request is no response, whatever its parameters are. -/
theorem parse_encode_ne (id answered : RequestId) (method : String) (params : List Value)
    (outcome : Except ErrorObject String) :
    Envelope.parse (encode id method params) ≠ .ok (.response answered outcome) := by
  intro hparsed
  obtain ⟨members, hread, hclassified⟩ := Json.bind_eq_ok_iff.mp hparsed
  cases hmessage : Members.decoder.ofText (encode id method params) with
  | error fault =>
      rw [hmessage] at hread
      cases hread
  | ok members' =>
      rw [hmessage] at hread
      cases hread
      have hnamed := method_of_ofText hmessage
      unfold Envelope.ofMembers at hclassified
      rw [hnamed] at hclassified
      split at hclassified
      next hmissing => cases hmissing
      next => split at hclassified <;> cases hclassified
      next => cases hclassified

/-- A connection that is sent a request completes none by it, and goes on waiting for the same. -/
theorem turn_encode {κ δ : Type} {connection : Connection κ δ} (horderly : connection.Orderly)
    (id : RequestId) (method : String) (params : List Value) :
    ∃ effects, connection.turn (.message (Utf8.encode (encode id method params))) =
        (connection, effects) ∧
      ∀ owner outcome, Effect.completed owner outcome ∉ effects := by
  have hother : Link.responseOf connection.assembly.limit
      (Utf8.encode (encode id method params)) = none := by
    rw [Option.eq_none_iff_forall_ne_some]
    rintro ⟨answered, outcome⟩ hresponse
    obtain ⟨text, reply, -, hdecoded, hparsed, -⟩ := Link.responseOf_eq_some_iff.mp hresponse
    rw [Utf8.decode_encode] at hdecoded
    cases hdecoded
    exact parse_encode_ne id answered method params reply hparsed
  obtain ⟨effects, hturned, hevents⟩ := horderly.turn_other hother
  refine ⟨effects, hturned, ?_⟩
  intro owner outcome hmem
  obtain ⟨_, _, _, hsame⟩ := hevents _ hmem
  cases hsame

/-! ### The text as a whole -/

/-- Requests of the same text are the same. -/
theorem encode_injective {id' : RequestId} {method' : String} {params' : List Value}
    (hexact : ∀ param ∈ params, param.IsExact) (hexact' : ∀ param ∈ params', param.IsExact)
    (hsame : encode id method params = encode id' method' params') :
    id = id' ∧ method = method' ∧ params = params' := by
  have hrequests := Value.text_injective (isExact_request hexact) (isExact_request hexact') hsame
  simp only [request, RequestId.toJson, Value.nat, Value.object.injEq, List.cons.injEq,
    Prod.mk.injEq, Value.number.injEq, Json.Number.natural.injEq, Value.string.injEq,
    Value.array.injEq, true_and, and_true] at hrequests
  obtain ⟨hnumber, hname, hlist⟩ := hrequests
  exact ⟨congrArg RequestId.mk hnumber, hname, hlist⟩

/-- A request carries its call. Its text is read as an object of exactly the version, the number,
the method and the parameters in their order, as long as reading can give the parameters back and
they are not nested too deep. Requests without doubles that have the same text are the same. And
no request is a response, so a connection to which it comes back completes nothing by it. -/
theorem request_carries_call :
    (∀ (id : RequestId) (method : String) (params : List Value), id.value < 2 ^ 64 →
      (∀ param ∈ params, param.IsFaithful) →
      (request id method params).depth ≤ nestingLimit →
      Decoder.value.ofText (encode id method params) =
        .ok (.object [("id", id.toJson), ("jsonrpc", .string "2.0"), ("method", .string method),
          ("params", .array params)])) ∧
    (∀ (id id' : RequestId) (method method' : String) (params params' : List Value),
      (∀ param ∈ params, param.IsExact) → (∀ param ∈ params', param.IsExact) →
      encode id method params = encode id' method' params' →
        id = id' ∧ method = method' ∧ params = params') ∧
    ∀ (id : RequestId) (method : String) (params : List Value),
      (∀ answered outcome,
        Envelope.parse (encode id method params) ≠ .ok (.response answered outcome)) ∧
      ∀ (κ δ : Type) (epoch : Epoch) (settings : Link.Settings)
        (steps : List (Connection.Step κ δ)),
        let connection := ((Connection.start epoch settings).run steps).1
        ∃ effects, connection.turn (.message (Utf8.encode (encode id method params))) =
            (connection, effects) ∧
          ∀ owner outcome, Effect.completed owner outcome ∉ effects := by
  refine ⟨?_, ?_, ?_⟩
  · intro id method params hfits hfaithful hshallow
    exact ofText_encode hfits hfaithful hshallow
  · intro id id' method method' params params' hexact hexact'
    exact encode_injective hexact hexact'
  · intro id method params
    refine ⟨fun answered outcome => parse_encode_ne id answered method params outcome, ?_⟩
    intro κ δ epoch settings steps
    apply turn_encode
    exact (Connection.Orderly.start epoch settings).run steps

/-- The call of a request is read back from its text, and no other call has that text. -/
theorem number_and_parameters_are_carried :
    Decoder.value.ofText (encode ⟨7⟩ "m" [.string "a", .array [.nat 1]]) =
        .ok (.object [("id", .nat 7), ("jsonrpc", .string "2.0"), ("method", .string "m"),
          ("params", .array [.string "a", .array [.nat 1]])]) ∧
      ∀ (id : RequestId) (method : String),
        encode id method [] = encode ⟨7⟩ "m" [] → id = ⟨7⟩ ∧ method = "m" := by
  obtain ⟨hread, hinjective, -⟩ := request_carries_call
  refine ⟨hread ⟨7⟩ "m" _ (by decide) ?_ (by decide), ?_⟩
  · simp only [List.forall_mem_cons]
    refine ⟨Value.isFaithful_string "a", Value.isFaithful_array ?_, nofun⟩
    exact List.forall_mem_cons.mpr ⟨Value.isFaithful_nat (by decide), nofun⟩
  · intro id method hsame
    obtain ⟨hid, hmethod, -⟩ := hinjective id ⟨7⟩ method "m" [] [] nofun nofun hsame
    exact ⟨hid, hmethod⟩

/-- An object that announces the number one by its text. -/
def announcing : Value := .object [(Json.spelledKey, .string "1")]

theorem within_announcing {part : Value} (hinner : part.Within announcing) :
    part = announcing ∨ part = .string "1" := by
  unfold announcing at hinner ⊢
  cases hinner with
  | self => exact .inl rfl
  | child hmem hinner =>
      cases List.mem_singleton.mp hmem
      exact .inr (hinner.eq_of_leaf rfl)

theorem isExact_announcing : announcing.IsExact := by
  intro x hinner
  obtain hsame | hsame := within_announcing hinner <;> cases hsame

theorem isSound_announcing : announcing.IsSound where
  natural n hinner := by obtain hsame | hsame := within_announcing hinner <;> cases hsame
  negative n hinner := by obtain hsame | hsame := within_announcing hinner <;> cases hsame
  ordered members hinner := by
    obtain hsame | hsame := within_announcing hinner
    · cases hsame
      exact List.pairwise_singleton ..
    · cases hsame

/-- Reading takes the object for the number. -/
theorem ofText_encode_announcing :
    Decoder.value.ofText (encode ⟨0⟩ "m" [announcing]) =
      .ok (.object [("id", .nat 0), ("jsonrpc", .string "2.0"), ("method", .string "m"),
        ("params", .array [.nat 1])]) := by
  have hexact : (request ⟨0⟩ "m" [announcing]).IsExact := by
    apply isExact_request
    intro param hmem
    rw [List.mem_singleton.mp hmem]
    exact isExact_announcing
  rw [encode, Decoder.ofText_of_written _ (Value.written_text hexact)]
  rfl

/-- A parameter that announces a value by its own text is read as that value. -/
theorem announced_param_is_lost :
    ¬∀ (id : RequestId) (method : String) (params : List Value), id.value < 2 ^ 64 →
      (∀ param ∈ params, param.IsExact ∧ param.IsSound) →
      (request id method params).depth ≤ nestingLimit →
      Decoder.value.ofText (encode id method params) =
        .ok (.object [("id", id.toJson), ("jsonrpc", .string "2.0"), ("method", .string method),
          ("params", .array params)]) := by
  intro hclaimed
  have hread := hclaimed ⟨0⟩ "m" [announcing] (by decide)
    (fun param hmem => by
      rw [List.mem_singleton.mp hmem]
      exact ⟨isExact_announcing, isSound_announcing⟩) (by decide)
  rw [ofText_encode_announcing] at hread
  simp [announcing, Value.nat, RequestId.toJson] at hread

end ChainRpc.Rpc.Coder
