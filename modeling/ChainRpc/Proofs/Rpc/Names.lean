import ChainRpc.Proofs.Json.Restored
import ChainRpc.Proofs.Rpc.Payload

/-!
# Names of subscriptions

The names that a node can give are the strings and the whole numbers of 64 bits, and a name is read
from whatever means it. So a name goes back to the node as the value that it came as, and an event
belongs to the name that its member means, however that is spelled.
-/

namespace ChainRpc.Rpc

open Json (Decoder Value Written)
open Json.Decoder (Restores)

/-! ### Names as values -/

namespace SubscriptionId

/-- A name is read from what means it. -/
theorem decoder_eq_ok_iff_means {room : Nat} {node : Json.Node} {id : SubscriptionId} :
    decoder room node = .ok id ↔ node.meaning? = some id.toJson := by
  cases id with
  | string name =>
      have hmeans : Decoder.string room node = .ok name ↔ node.meaning? = some (.string name) :=
        Decoder.string_eq_ok_iff
      rw [toJson, ← hmeans]
      cases node <;> simp [decoder, Decoder.string, Json.map_eq_ok_iff]
  | number n =>
      have hmeans : Decoder.nat64 room node = .ok n ↔ node.meaning? = some (.nat n) :=
        Decoder.nat64_eq_ok_iff
      rw [toJson, ← hmeans]
      cases node <;>
        simp [decoder, Decoder.nat64, Decoder.natural_eq_ok_iff, Json.map_eq_ok_iff]

theorem toJson_injective {id other : SubscriptionId} (hsame : id.toJson = other.toJson) :
    id = other := by
  cases id <;> cases other <;> simp_all [toJson, Value.nat]

theorem isFaithful_toJson {id : SubscriptionId} (hfits : id.Fits) : id.toJson.IsFaithful := by
  cases id with
  | string name => exact Value.isFaithful_string name
  | number n => exact Value.isFaithful_nat hfits

theorem depth_toJson (id : SubscriptionId) : id.toJson.depth = 0 := by
  cases id <;> rfl

theorem meaning?_tree {id : SubscriptionId} (hfits : id.Fits) :
    id.toJson.tree.meaning? = some id.toJson := by
  cases id with
  | string name =>
      simp [toJson, Value.tree, Json.Node.meaning?, (Json.spells_printed name).value,
        Except.toOption]
  | number n => exact congrArg (Option.map Value.number) (Json.Numeral.value?_ofNat hfits)

/-- Only a name that fits is meant by anything. -/
theorem fits_of_means {node : Json.Node} {id : SubscriptionId}
    (hmeans : node.meaning? = some id.toJson) : id.Fits := by
  cases id with
  | string name => trivial
  | number n =>
      have hread : Decoder.nat64 0 node = .ok n := Decoder.nat64_eq_ok_iff.mpr hmeans
      obtain ⟨-, -, -, hfits⟩ := Decoder.natural_eq_ok_iff.mp hread
      exact hfits

theorem restores : Restores decoder toJson Fits where
  exact id := by cases id <;> exact Value.isExact_of_children nofun nofun
  read hfits _ := decoder_eq_ok_iff_means.mpr (meaning?_tree hfits)
  fits hread := fits_of_means (decoder_eq_ok_iff_means.mp hread)

end SubscriptionId

/-! ### Events -/

namespace Envelope

/-- The members carry an event: a method, no id and no error, and parameters in which the name and
the result stand once each. -/
structure Notifies (members : Json.Members) (method : String) (name result : Json.Node) :
    Prop where
  texts : none ∉ members.keys
  distinct : Members.Distinct members
  id : members.given? "id" = none
  error : members.given? "error" = none
  method : ∃ node, members.find? "method" = some node ∧ node.meaning? = some (.string method)
  params : ∃ params, members.find? "params" = some (.object params) ∧ none ∉ params.keys ∧
    params.Once "subscription" ∧ params.Once "result" ∧
    params.find? "subscription" = some name ∧ params.find? "result" = some result

section Notifies

variable {members : Json.Members} {method : String} {name result : Json.Node}

theorem Notifies.method_eq (hnotifies : Notifies members method name result) :
    Decoder.optional Decoder.string Members.depth members "method" = .ok (some method) := by
  obtain ⟨node, hfound, hmeans⟩ := hnotifies.method
  have hwritten : node ≠ .null := by
    rintro rfl
    cases hmeans
  exact Decoder.optional_eq_some_iff.mpr
    ⟨node, hfound, hwritten, Decoder.string_eq_ok_iff.mpr hmeans⟩

theorem Notifies.params_eq_iff (hnotifies : Notifies members method name result)
    (hwhole : members.isWhole = true) {params : EventParams} :
    Decoder.optional EventParams.decoder Members.depth members "params" = .ok (some params) ↔
      name.meaning? = some params.subscription.toJson ∧
        params.result = String.ofList result.text := by
  obtain ⟨inner, hfound, htexts, honce, honce', hnamed, hheld⟩ := hnotifies.params
  have hinnerWhole : inner.isWhole = true := Json.Members.isWhole_find? hwhole hfound
  have hdeep : Members.depth = (Members.depth - 1) + 1 := rfl
  rw [Decoder.optional_eq_some_iff, hdeep]
  simp only [hfound, Option.some.injEq, exists_eq_left', ne_eq, reduceCtorEq, not_false_eq_true,
    true_and, EventParams.decoder_object_eq_ok_iff hinnerWhole, htexts, honce, honce', hnamed,
    hheld, SubscriptionId.decoder_eq_ok_iff_means]

/-- The message is an event of the name that its member means, and of no other. -/
theorem parse_of_notifies {text : String} {before after : List Char}
    (hwritten : Written text before (.object members) after)
    (hnotifies : Notifies members method name result) :
    (∀ given id raw, parse text = .ok (.notification given id raw) ↔
      given = method ∧ raw = String.ofList result.text ∧ name.meaning? = some id.toJson) ∧
    ∀ id outcome, parse text ≠ .ok (.response id outcome) := by
  obtain ⟨hobject, hwhole⟩ := Json.Document.ofText_eq_iff.mpr hwritten
  have htyped {params : Option EventParams}
      (hgiven : Decoder.optional EventParams.decoder Members.depth members "params" = .ok params) :
      Members.Typed members none none (some method) params :=
    ⟨by rw [Decoder.optional, hnotifies.id], by rw [Decoder.optional, hnotifies.error],
      hnotifies.method_eq, hgiven⟩
  have hcarried {id : SubscriptionId} (hmeans : name.meaning? = some id.toJson) :
      Decoder.optional EventParams.decoder Members.depth members "params" =
        .ok (some ⟨id, String.ofList result.text⟩) :=
    (hnotifies.params_eq_iff hwhole).mpr ⟨hmeans, rfl⟩
  have hparsed := parse_of_object hobject
  cases hstored : Decoder.storeMembers Members.fields Members.depth members {} with
  | error fault =>
      rw [hstored] at hparsed
      rw [hparsed]
      refine ⟨fun given id raw => ⟨by simp, ?_⟩, by simp⟩
      rintro ⟨rfl, rfl, hmeans⟩
      obtain ⟨draft, hread⟩ := (Members.storeMembers_isOk_iff hwhole hnotifies.distinct).mpr
        ⟨hnotifies.texts, _, _, _, _, htyped (hcarried hmeans)⟩
      rw [hstored] at hread
      cases hread
  | ok draft =>
      have hread := Members.typed_of_storeMembers hnotifies.distinct hstored
      obtain ⟨hunnumbered, -, hnamed, -⟩ := hread.unique (htyped hread.params)
      rw [hstored] at hparsed
      simp only [hparsed, ofMembers, hunnumbered, hnamed]
      cases hheld : draft.params.join with
      | none =>
          refine ⟨fun given id raw => ⟨by simp, ?_⟩, by simp⟩
          rintro ⟨-, -, hmeans⟩
          have hgiven := (hread.params.symm.trans (hcarried hmeans))
          rw [hheld] at hgiven
          cases hgiven
      | some params =>
          have hgiven := hread.params
          rw [hheld, hnotifies.params_eq_iff hwhole] at hgiven
          obtain ⟨hmeans, hsame⟩ := hgiven
          refine ⟨fun given id raw => ⟨?_, ?_⟩, by simp⟩
          · rintro ⟨⟩
            exact ⟨rfl, hsame, hmeans⟩
          · rintro ⟨rfl, rfl, hmeans'⟩
            rw [hmeans, Option.some.injEq] at hmeans'
            obtain rfl := SubscriptionId.toJson_injective hmeans'
            rw [← hsame]

end Notifies

end Envelope

end ChainRpc.Rpc
