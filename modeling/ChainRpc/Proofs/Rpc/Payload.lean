import ChainRpc.Proofs.Json.Exact
import ChainRpc.Proofs.Json.Printed
import ChainRpc.Proofs.Rpc.Classification

/-!
# The payload of a message

A result may be any JSON text, however large, however deep, and with strings and numbers that stand
for nothing. It comes out of its message as it was written, without the blanks around it, whatever
the id of the request or the name of the subscription, and however the method is spelled.
-/

namespace ChainRpc.Rpc

open Json (Decoder Node Numeral Piece Spells Written printed spells_printed)

/-! ### Ids and names as they are written -/

namespace RequestId

/-- The id as it is printed. -/
def node (id : RequestId) : Node := .number (.ofNat id.value)

theorem decoder_node {id : RequestId} (hfits : id.value < 2 ^ 64) (room : Nat) :
    decoder room id.node = .ok id :=
  decoder_eq_ok_iff.mpr ⟨_, rfl, Numeral.value?_ofNat hfits, hfits⟩

theorem text_node (id : RequestId) : id.node.text = id.text.toList := by
  rw [text, Nat.toString_eq_ofList_toDigits, String.toList_ofList]
  exact Numeral.text_ofNat _

end RequestId

namespace SubscriptionId

/-- A number that names a subscription is one of 64 bits. -/
def Fits : SubscriptionId → Prop
  | .string _ => True
  | .number n => n < 2 ^ 64

/-- The value is spelled by the rules of JSON and says the name. -/
structure SpelledBy (id : SubscriptionId) (node : Node) : Prop where
  proper : node.IsProper
  read : ∀ room, decoder room node = .ok id

/-- The name as it is printed. -/
def node : SubscriptionId → Node
  | .string name => .string (printed name)
  | .number n => .number (.ofNat n)

theorem spelledBy_node {id : SubscriptionId} (hfits : id.Fits) : id.SpelledBy id.node := by
  cases id with
  | string name =>
      have hprinted := spells_printed name
      exact ⟨hprinted.proper, fun room =>
        decoder_eq_ok_iff.mpr (.inl ⟨_, _, rfl, hprinted.value, rfl⟩)⟩
  | number n =>
      exact ⟨Numeral.isProper_ofNat n, fun room =>
        decoder_eq_ok_iff.mpr (.inr ⟨_, _, rfl, Numeral.value?_ofNat hfits, hfits, rfl⟩)⟩

theorem text_node (id : SubscriptionId) : id.node.text = id.toJson.chars := by
  cases id with
  | string name => rfl
  | number n => exact Numeral.text_ofNat n

end SubscriptionId

/-! ### Messages -/

namespace Envelope

/-- The message `{"id":i,"result":r}`. -/
def responseText (id : RequestId) (payload : String) : String :=
  "\x7b\"id\":" ++ id.text ++ ",\"result\":" ++ payload ++ "\x7d"

/-- The message `{"jsonrpc":"2.0","method":m,"params":{"subscription":s,"result":r}}`. -/
def eventText (method name payload : String) : String :=
  "\x7b\"jsonrpc\":\"2.0\",\"method\":" ++ method ++ ",\"params\":\x7b\"subscription\":" ++ name
    ++ ",\"result\":" ++ payload ++ "\x7d\x7d"

section Payload

variable {payload : String} {before after : List Char} {result : Node}
  (hwritten : Written payload before result after)

include hwritten

theorem written_responseText (id : RequestId) :
    Written (responseText id payload) []
      (.object (.member [] (printed "id") [] [] id.node []
        (.member [] (printed "result") [] before result after (.close []))))
      [] where
  leading := Json.isGap_nil
  trailing := Json.isGap_nil
  proper := by
    have hnumber : id.node.IsProper := Numeral.isProper_ofNat _
    simpa [Node.IsProper, Json.Members.IsProper, Json.isGap_nil, hnumber, hwritten.leading,
      hwritten.proper, hwritten.trailing] using
      ⟨(spells_printed "id").proper, (spells_printed "result").proper⟩
  spelled := by
    have hfirst : "\x7b\"id\":".toList = '\x7b' :: Json.quote (printed "id") ++ [':'] := by
      decide +kernel
    have hsecond : ",\"result\":".toList = ',' :: Json.quote (printed "result") ++ [':'] := by
      decide +kernel
    have hlast : "\x7d".toList = ['\x7d'] := rfl
    unfold responseText
    simp only [String.toList_append, hfirst, hsecond, hlast, hwritten.spelled, Node.text,
      Json.Members.text, ← id.text_node]
    simp

/-- The result of a response is what was written, and nothing else of the message matters. -/
theorem parse_responseText {id : RequestId} (hfits : id.value < 2 ^ 64) :
    parse (responseText id payload) = .ok (.response id (.ok (String.ofList result.text))) := by
  have hobject := (Json.Document.ofText_eq_iff.mpr (written_responseText hwritten id)).1
  have hnumber : Decoder.nullable RequestId.decoder Members.depth id.node = .ok (some id) :=
    congrArg (Except.map some) (RequestId.decoder_node hfits _)
  have hraw : Decoder.raw Members.depth result = .ok (String.ofList result.text) :=
    Decoder.raw_eq_ok_iff.mpr ⟨hwritten.proper.isWhole, rfl⟩
  rw [parse_of_object hobject,
    Decoder.storeMembers_known (spells_printed "id").value rfl rfl hnumber,
    Decoder.storeMembers_known (spells_printed "result").value rfl rfl hraw]
  rfl

theorem written_eventText {method : List Piece} {name : Node}
    (hliteral : ∀ piece ∈ method, piece.IsProper) (hproper : name.IsProper) :
    Written (eventText (String.ofList (Json.quote method)) (String.ofList name.text) payload) []
      (.object (.member [] (printed "jsonrpc") [] [] (.string (printed "2.0")) []
        (.member [] (printed "method") [] [] (.string method) []
          (.member [] (printed "params") [] []
            (.object (.member [] (printed "subscription") [] [] name []
              (.member [] (printed "result") [] before result after (.close []))))
            [] (.close [])))))
      [] where
  leading := Json.isGap_nil
  trailing := Json.isGap_nil
  proper := by
    have hkeys (text : String) := (spells_printed text).proper
    simpa [Node.IsProper, Json.Members.IsProper, Json.isGap_nil, hproper, hwritten.leading,
      hwritten.proper, hwritten.trailing] using
      ⟨hkeys "jsonrpc", hkeys "2.0", hkeys "method", hliteral, hkeys "params", hkeys "subscription",
        hkeys "result"⟩
  spelled := by
    have hfirst : "\x7b\"jsonrpc\":\"2.0\",\"method\":".toList
        = '\x7b' :: Json.quote (printed "jsonrpc") ++ ':' :: Json.quote (printed "2.0")
          ++ ',' :: Json.quote (printed "method") ++ [':'] := by decide +kernel
    have hsecond : ",\"params\":\x7b\"subscription\":".toList
        = ',' :: Json.quote (printed "params") ++ ':' :: '\x7b'
          :: Json.quote (printed "subscription") ++ [':'] := by decide +kernel
    have hthird : ",\"result\":".toList = ',' :: Json.quote (printed "result") ++ [':'] := by
      decide +kernel
    have hlast : "\x7d\x7d".toList = ['\x7d', '\x7d'] := rfl
    unfold eventText
    simp only [String.toList_append, String.toList_ofList, hfirst, hsecond, hthird, hlast,
      hwritten.spelled, Node.text, Json.Members.text]
    simp

/-- The result of an event is what was written, and nothing else of the message matters. -/
theorem parse_eventText {method : String} {literal : List Piece} (hspells : Spells literal method)
    {id : SubscriptionId} {name : Node} (hspelled : id.SpelledBy name) :
    parse (eventText (String.ofList (Json.quote literal)) (String.ofList name.text) payload)
      = .ok (.notification method id (String.ofList result.text)) := by
  have hobject := (Json.Document.ofText_eq_iff.mpr
    (written_eventText hwritten hspells.proper hspelled.proper)).1
  have hmethod : Decoder.nullable Decoder.string Members.depth (.string literal)
      = .ok (some method) := congrArg (Except.map some) hspells.value
  have hraw (room : Nat) : Decoder.raw room result = .ok (String.ofList result.text) :=
    Decoder.raw_eq_ok_iff.mpr ⟨hwritten.proper.isWhole, rfl⟩
  have hparams : Decoder.nullable EventParams.decoder Members.depth
      (.object (.member [] (printed "subscription") [] [] name []
        (.member [] (printed "result") [] before result after (.close []))))
      = .ok (some ⟨id, String.ofList result.text⟩) := by
    refine congrArg (Except.map some) (Decoder.record_object_eq_ok_iff.mpr ?_)
    rw [Decoder.storeMembers_known (spells_printed "subscription").value rfl rfl (hspelled.read _),
      Decoder.storeMembers_known (spells_printed "result").value rfl rfl (hraw _)]
    exact ⟨_, rfl, rfl⟩
  rw [parse_of_object hobject,
    Decoder.storeMembers_unknown (spells_printed "jsonrpc").value rfl rfl,
    Decoder.storeMembers_known (spells_printed "method").value rfl rfl hmethod,
    Decoder.storeMembers_known (spells_printed "params").value rfl rfl hparams]
  rfl

end Payload

end Envelope

end ChainRpc.Rpc
