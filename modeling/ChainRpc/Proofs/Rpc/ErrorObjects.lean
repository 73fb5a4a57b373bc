import ChainRpc.Proofs.Json.Meaning
import ChainRpc.Proofs.Json.Restored
import ChainRpc.Proofs.Rpc.Requests

/-!
# Error objects and their data

An error object is read back from its text as it was, alone or in a message, also when its data
looks like JSON. Of data that is any JSON value a text is kept: none of `null`, a string as it is,
and the compact text of every other value. So the data of an error changes at most once.

Data that is nested too deep for a value is refused, and an object in it that begins with the key
that announces a value by its own text counts as the value that is announced.
-/

namespace ChainRpc.Rpc

open Json (Decoder Value Written)
open Json.Decoder (Part Restores)

namespace ErrorObject

/-- The code has 64 bits and a sign. -/
def Fits (error : ErrorObject) : Prop := -2 ^ 63 ≤ error.code ∧ error.code < 2 ^ 63

/-! ### Reading back -/

/-- The decoder of the data. -/
def dataDecoder : Decoder (Option String) :=
  fun room node => (Decoder.value room node).map dataText

theorem restores_data :
    Restores dataDecoder (fun data => data.elim .null .string) fun _ => True where
  exact data := by cases data <;> exact Value.isExact_of_children nofun nofun
  read {room data} _ _ := by
    cases data with
    | none => rfl
    | some text =>
        have hread := (Json.spells_printed text).value
        simp [dataDecoder, Decoder.value, Json.Node.value, Json.Node.valueWith, Value.tree, hread,
          Except.map, dataText]
  fits _ := trivial

/-- The code of an error object. -/
def codePart : Part ErrorObject Draft :=
  ⟨"code", Draft.code, fun draft code => { draft with code := some code }, ErrorObject.code,
    fun _ _ => rfl, Decoder.restores_int64⟩

/-- The message of an error object. -/
def messagePart : Part ErrorObject Draft :=
  ⟨"message", Draft.message, fun draft message => { draft with message := some message },
    ErrorObject.message, fun _ _ => rfl, Decoder.restores_string⟩

/-- The data of an error object. -/
def dataPart : Part ErrorObject Draft :=
  ⟨"data", Draft.data, fun draft data => { draft with data := some data }, ErrorObject.data,
    fun _ _ => rfl, restores_data⟩

/-- The parts of an error object. -/
def parts : List (Part ErrorObject Draft) := [codePart, messagePart, dataPart]

/-- The parts that are shown: all of them, if there is any data. -/
def shown (error : ErrorObject) : List (Part ErrorObject Draft) :=
  match error.data with
  | some _ => parts
  | none => [codePart, messagePart]

theorem toJson_eq :
    toJson = fun error => .object (error.shown.map (Part.member error)) := by
  funext error
  obtain ⟨code, message, - | data⟩ := error <;> rfl

theorem parts_apart : parts.Pairwise Part.Apart := by
  simp [parts, codePart, messagePart, dataPart, Part.apart_iff]

theorem restores : Restores decoder toJson Fits := by
  rw [toJson_eq]
  apply Decoder.restores_record_of_shown parts shown
  · intro error
    unfold shown
    split
    · exact List.Sublist.refl parts
    · exact List.sublist_append_left [codePart, messagePart] [dataPart]
  · exact parts_apart
  · simp [parts, codePart, messagePart, dataPart]
  · rintro ⟨code, message, - | data⟩ <;> rfl
  · rintro error ⟨hleast, hmost⟩
    simp only [parts, List.forall_mem_cons]
    exact ⟨⟨hleast, hmost⟩, trivial, trivial, nofun⟩
  · intro draft error hfinished hsuits
    simp only [ofDraft?, Option.bind_eq_bind, Option.bind_eq_some_iff, Option.pure_def,
      Option.some.injEq] at hfinished
    obtain ⟨code, hheld, message, -, rfl⟩ := hfinished
    exact hsuits codePart (.head _) code hheld

theorem depth_toJson (error : ErrorObject) : error.toJson.depth = 1 := by
  obtain ⟨code, message, - | data⟩ := error <;>
    simp [toJson, Value.int, Value.nat, Value.depth, Json.membersDepth] <;> split <;> rfl

/-! ### What an error object tells -/

/-- What is kept of the data: nothing of `null`, a string as it is, and the text of any other
value. -/
inductive Kept : Option Value → Option String → Prop
  | missing : Kept none none
  | null : Kept (some .null) none
  | string (text : String) : Kept (some (.string text)) (some text)
  | other {value : Value} (hpresent : value ≠ .null) (hother : ∀ text, value ≠ .string text) :
      Kept (some value) (some value.text)

theorem kept_object (members : List (String × Value)) :
    Kept (some (.object members)) (some (Value.object members).text) :=
  .other (by simp) (by simp)

theorem Kept.eq_dataText {data : Option Value} {kept : Option String} (hkeeps : Kept data kept) :
    data.bind dataText = kept := by
  cases hkeeps with
  | other hpresent hother =>
      rename_i value
      cases value with
      | null => contradiction
      | string text => exact absurd rfl (hother text)
      | _ => rfl
  | _ => rfl

/-- The members tell this code and this message, and this data if any. Other members may stand
between them. -/
structure Tells (members : Json.Members) (code : Int) (message : String) (data : Option Value) :
    Prop where
  texts : none ∉ members.keys
  once : ∀ name ∈ ["code", "message", "data"], members.Once name
  fits : -2 ^ 63 ≤ code ∧ code < 2 ^ 63
  code : ∃ node, members.find? "code" = some node ∧ node.meaning? = some (.int code)
  message : ∃ node, members.find? "message" = some node ∧ node.meaning? = some (.string message)
  data : (members.find? "data").map Json.Node.meaning? = data.map some

/-- The data can be read as a value that is nested at most `room` deep. -/
def IsReadable (members : Json.Members) (room : Nat) : Prop :=
  ∀ node, members.find? "data" = some node → node.IsUnannounced ∧ node.depth ≤ room

section Reading

variable {members : Json.Members} {code : Int} {message : String} {data : Option Value} {room : Nat}

theorem Tells.read_data {node : Json.Node} (htells : Tells members code message data)
    (hreadable : IsReadable members room) (hfound : members.find? "data" = some node) :
    ∃ value, data = some value ∧ dataDecoder room node = .ok (dataText value) := by
  have hmeans := htells.data
  rw [hfound] at hmeans
  obtain ⟨value, rfl, hsame⟩ := Option.map_eq_some_iff.mp hmeans.symm
  obtain ⟨hunannounced, hshallow⟩ := hreadable node hfound
  have hread : Decoder.value room node = .ok value :=
    (Json.Node.valueWith_eq_ok_iff hunannounced).mpr ⟨hsame.symm, hshallow⟩
  exact ⟨value, rfl, congrArg (Except.map dataText) hread⟩

/-- Each part of the draft is what the members tell. -/
theorem Tells.stored (htells : Tells members code message data)
    (hreadable : IsReadable members room) (hwhole : members.isWhole = true) :
    ∃ draft, Decoder.storeMembers fields room members {} = .ok draft ∧
      draft.code = some code ∧ draft.message = some message ∧
      draft.data = data.map dataText := by
  obtain ⟨codeNode, hcodeFound, hmeans⟩ := htells.code
  have hreadCode : Decoder.int64 room codeNode = .ok code :=
    Decoder.int64_eq_ok_iff.mpr ⟨hmeans, htells.fits⟩
  obtain ⟨messageNode, hmessageFound, hmeans⟩ := htells.message
  have hreadMessage : Decoder.string room messageNode = .ok message :=
    Decoder.string_eq_ok_iff.mpr hmeans
  have honce : ∀ part ∈ parts, members.Once part.name := by
    simp only [parts, List.forall_mem_cons]
    exact ⟨htells.once _ (.head _), htells.once _ (.tail _ (.head _)),
      htells.once _ (.tail _ (.tail _ (.head _))), nofun⟩
  have hblank : ∀ part ∈ parts, part.get {} = none := by
    simp [parts, codePart, messagePart, dataPart]
  have hread : ∀ part ∈ parts, ∀ node, members.find? part.name = some node →
      ∃ b, part.decoder room node = .ok b := by
    simp only [parts, List.forall_mem_cons]
    refine ⟨fun node hfound => ⟨code, ?_⟩, fun node hfound => ⟨message, ?_⟩, fun node hfound => ?_,
      nofun⟩
    · rwa [← Option.some.inj (hcodeFound.symm.trans hfound)]
    · rwa [← Option.some.inj (hmessageFound.symm.trans hfound)]
    · obtain ⟨value, -, hread⟩ := htells.read_data hreadable hfound
      exact ⟨_, hread⟩
  obtain ⟨draft, hstored, hheld⟩ :=
    Decoder.storeMembers_parts parts_apart hwhole htells.texts honce hblank hread
  refine ⟨draft, hstored, ?_, ?_, ?_⟩
  · exact (hheld codePart (.head _) code).mpr ⟨codeNode, hcodeFound, hreadCode⟩
  · exact (hheld messagePart (.tail _ (.head _)) message).mpr
      ⟨messageNode, hmessageFound, hreadMessage⟩
  · have hheld := hheld dataPart (.tail _ (.tail _ (.head _)))
    cases hfound : members.find? "data" with
    | some node =>
        obtain ⟨value, rfl, hread⟩ := htells.read_data hreadable hfound
        exact (hheld _).mpr ⟨node, hfound, hread⟩
    | none =>
        have hmissing := htells.data
        rw [hfound] at hmissing
        rw [Option.map_eq_none_iff.mp hmissing.symm]
        refine Option.eq_none_iff_forall_ne_some.mpr fun kept hgiven => ?_
        obtain ⟨node, hfound', -⟩ := (hheld kept).mp hgiven
        cases hfound.symm.trans hfound'

/-- An error object is read as what it tells. -/
theorem decoder_of_tells {kept : Option String} (hwhole : members.isWhole = true)
    (htells : Tells members code message data) (hreadable : IsReadable members room)
    (hkeeps : Kept data kept) :
    decoder (room + 1) (.object members) = .ok ⟨code, message, kept⟩ := by
  obtain ⟨draft, hstored, hheldCode, hheldMessage, hheldData⟩ := htells.stored hreadable hwhole
  refine Decoder.record_object_eq_ok_iff.mpr ⟨draft, hstored, ?_⟩
  rw [← hkeeps.eq_dataText]
  simp only [ofDraft?, hheldCode, hheldMessage, hheldData]
  cases data <;> rfl

end Reading

end ErrorObject

/-! ### Errors in messages -/

namespace Envelope

/-- The members answer the call of this id with this error. A result may stand beside it, but
neither a method nor parameters. -/
structure Refuses (members : Json.Members) (id : RequestId) (error : Json.Node) : Prop where
  texts : none ∉ members.keys
  distinct : Members.Distinct members
  id : ∃ node, members.find? "id" = some node ∧ node.meaning? = some id.toJson
  error : members.find? "error" = some error
  method : members.given? "method" = none
  params : members.given? "params" = none

variable {members : Json.Members} {id : RequestId} {node : Json.Node} {error : ErrorObject}

theorem Refuses.typed (hrefuses : Refuses members id node)
    (hread : ErrorObject.decoder Members.depth node = .ok error) :
    Members.Typed members (some id) (some error) none none where
  id := by
    obtain ⟨value, hfound, hmeans⟩ := hrefuses.id
    have hwritten : value ≠ .null := by
      rintro rfl
      cases hmeans
    have hread : RequestId.decoder Members.depth value = .ok id :=
      congrArg (Except.map RequestId.mk) (Decoder.nat64_eq_ok_iff.mpr hmeans)
    exact Decoder.optional_eq_some_iff.mpr ⟨value, hfound, hwritten, hread⟩
  error := by
    have hwritten : node ≠ .null := by
      rintro rfl
      cases hread
    exact Decoder.optional_eq_some_iff.mpr ⟨node, hrefuses.error, hwritten, hread⟩
  method := by rw [Decoder.optional, hrefuses.method]
  params := by rw [Decoder.optional, hrefuses.params]

/-- The message is the error it carries. -/
theorem parse_of_refuses {text : String} {before after : List Char}
    (hwritten : Written text before (.object members) after) (hrefuses : Refuses members id node)
    (hread : ErrorObject.decoder Members.depth node = .ok error) :
    parse text = .ok (.response id (.error error)) := by
  have htyped := hrefuses.typed hread
  obtain ⟨hobject, hwhole⟩ := Json.Document.ofText_eq_iff.mpr hwritten
  obtain ⟨draft, hstored⟩ := (Members.storeMembers_isOk_iff hwhole hrefuses.distinct).mpr
    ⟨hrefuses.texts, _, _, _, _, htyped⟩
  obtain ⟨hheldId, hheldError, hheldMethod, -⟩ :=
    htyped.unique (Members.typed_of_storeMembers hrefuses.distinct hstored)
  rw [parse_of_object hobject, hstored]
  simp only [ofMembers, ← hheldId, ← hheldError, ← hheldMethod]

/-- The message `{"id":i,"error":e}` does. -/
theorem refuses_printed (hfits : id.value < 2 ^ 64) (error : Value) :
    Refuses (Json.membersTree [("id", id.toJson), ("error", error)]) id error.tree where
  texts := by simp [Json.keys_membersTree]
  distinct := by constructor <;> simp [Json.Members.Once, Json.keys_membersTree]
  id := ⟨id.toJson.tree, by simp [Json.find?_membersTree],
    congrArg (Option.map Value.number) (Json.Numeral.value?_ofNat hfits)⟩
  error := by simp [Json.find?_membersTree]
  method := by simp [Json.Members.given?, Json.find?_membersTree]
  params := by simp [Json.Members.given?, Json.find?_membersTree]

end Envelope

namespace ErrorObject

/-- An error arrives with the code, the message and the data that were put into it, whatever the
data looks like and whichever request it answers. Of data that is any readable value the text that
is to be kept arrives, alone and in a message. And whatever has been read once is the same when it
is printed and read again. -/
theorem errors_arrive (id : RequestId) :
    (∀ error : ErrorObject, error.Fits → ∀ text before members after node,
      Written text before (.object members) after → Envelope.Refuses members id node →
      String.ofList node.text = error.toJson.text →
        Envelope.parse text = .ok (.response id (.error error))) ∧
    (∀ members code message data kept, Tells members code message data → Kept data kept →
      (∀ text before after, Written text before (.object members) after →
        IsReadable members (Json.nestingLimit - 1) →
          decoder.ofText text = .ok ⟨code, message, kept⟩) ∧
      ∀ text before outer after, Written text before (.object outer) after →
        Envelope.Refuses outer id (.object members) →
        IsReadable members (Json.nestingLimit - 2) →
          Envelope.parse text = .ok (.response id (.error ⟨code, message, kept⟩))) ∧
    ∀ room node error, decoder room node = .ok error →
      decoder.ofText error.toJson.text = .ok error := by
  have hshallow (error : ErrorObject) {room : Nat} (hleft : 0 < room) :
      error.toJson.depth ≤ room := by
    rw [depth_toJson]
    exact hleft
  refine ⟨?_, ?_, ?_⟩
  · intro error hfits text before members after node hwritten hrefuses hspelled
    have houter : members.IsProper true := hwritten.proper
    have hproper : node.IsProper := houter.find? hrefuses.error
    have hexact : error.toJson.IsExact := restores.exact error
    have hsame : node = error.toJson.tree := by
      apply hproper.text_injective (Value.isProper_tree hexact)
      rw [Value.text_tree hexact]
      exact String.ofList_injective hspelled
    apply Envelope.parse_of_refuses hwritten hrefuses
    rw [hsame]
    exact restores.read hfits (hshallow error (by decide))
  · intro members code message data kept htells hkeeps
    constructor
    · intro text before after hwritten hreadable
      rw [Decoder.ofText_of_written _ hwritten]
      exact decoder_of_tells hwritten.proper.isWhole htells hreadable hkeeps
    · intro text before outer after hwritten hrefuses hreadable
      have hmessage : outer.IsProper true := hwritten.proper
      have hproper : Json.Node.IsProper (.object members) := hmessage.find? hrefuses.error
      apply Envelope.parse_of_refuses hwritten hrefuses
      exact decoder_of_tells hproper.isWhole htells hreadable hkeeps
  · intro room node error hread
    exact restores.ofText_text (restores.fits hread) (hshallow error (by decide))

/-- The error object `{"code":1010,"message":"Invalid","data":d}`. -/
def invalid (data : Value) : List (String × Value) :=
  [("code", .nat 1010), ("message", .string "Invalid"), ("data", data)]

theorem tells_invalid {data : Value} (hmeans : data.tree.meaning? = some data) :
    Tells (Json.membersTree (invalid data)) 1010 "Invalid" (some data) where
  texts := by simp [Json.keys_membersTree]
  once name hmem := by
    unfold Json.Members.Once
    rw [Json.keys_membersTree]
    revert name
    simp [invalid]
  fits := by decide
  code := ⟨Value.tree (.nat 1010), by simp [Json.find?_membersTree, invalid], rfl⟩
  message := ⟨Value.tree (.string "Invalid"), by simp [Json.find?_membersTree, invalid], by
    simp [Value.tree, Json.Node.meaning?, (Json.spells_printed _).value, Except.toOption]⟩
  data := by simp [Json.find?_membersTree, invalid, hmeans]

theorem isExact_invalid {data : Value} (hexact : data.IsExact) :
    (Value.object (invalid data)).IsExact := by
  apply Value.isExact_object
  simp only [invalid, List.map_cons, List.forall_mem_cons]
  exact ⟨Value.isExact_of_children nofun nofun, Value.isExact_string _, hexact, nofun⟩

/-- The object `{"x":1}` is kept as its text. -/
theorem object_data_arrives :
    let data : Value := .object [("x", .nat 1)]
    let message : Value := .object [("id", .nat 5), ("error", .object (invalid data))]
    data.text = "\x7b\"x\":1\x7d" ∧
      Envelope.parse message.text = .ok (.response ⟨5⟩ (.error ⟨1010, "Invalid", data.text⟩)) := by
  intro data message
  have hexact : data.IsExact := by
    apply Value.isExact_object
    simp only [List.map_cons, List.forall_mem_cons]
    exact ⟨Value.isExact_of_children nofun nofun, nofun⟩
  have hmeans : data.tree.meaning? = some data := by
    simp [data, Value.tree, Json.membersTree, Json.Node.meaning?, Json.Members.meaning?,
      (Json.spells_printed _).value, Except.toOption, Json.insertMember]
    rfl
  have hwritten : Written message.text [] message.tree [] := by
    apply Value.written_text
    apply Value.isExact_object
    simp only [List.map_cons, List.forall_mem_cons]
    exact ⟨Value.isExact_of_children nofun nofun, isExact_invalid hexact, nofun⟩
  refine ⟨by decide +kernel, ?_⟩
  have hreadable : IsReadable (Json.membersTree (invalid data)) (Json.nestingLimit - 2) := by
    intro node hfound
    obtain rfl : data.tree = node := by simpa [Json.find?_membersTree, invalid] using hfound
    have hother : Json.stringValue (Json.printed "x") ≠ .ok Json.spelledKey := by
      rw [(Json.spells_printed "x").value]
      decide
    exact ⟨⟨fun _ => hother, trivial, trivial⟩, by decide⟩
  exact ((errors_arrive ⟨5⟩).2.1 _ _ _ _ _ (tells_invalid hmeans) (kept_object _)).2 _ _ _ _
    hwritten (Envelope.refuses_printed (by decide) _) hreadable

/-- Of an object that announces a number the text of the number is kept. -/
theorem announced_data_is_lost :
    ¬∀ members code message data kept text before after, Tells members code message data →
      Kept data kept → Written text before (.object members) after →
        decoder.ofText text = .ok ⟨code, message, kept⟩ := by
  intro hclaimed
  have hmeans : Coder.announcing.tree.meaning? = some Coder.announcing := by
    simp [Coder.announcing, Value.tree, Json.membersTree, Json.Node.meaning?,
      Json.Members.meaning?, (Json.spells_printed _).value, Except.toOption, Json.insertMember]
  have hwritten := Value.written_text (isExact_invalid Coder.isExact_announcing)
  have hread := hclaimed _ _ _ _ _ _ _ _ (tells_invalid hmeans) (kept_object _) hwritten
  have hlost : decoder.ofText (Value.object (invalid Coder.announcing)).text
      = .ok ⟨1010, "Invalid", some "1"⟩ := by
    rw [Decoder.ofText_of_written _ hwritten]
    rfl
  rw [hlost, Except.ok.injEq, ErrorObject.mk.injEq] at hread
  exact absurd hread.2.2 (by decide +kernel)

end ErrorObject

end ChainRpc.Rpc
