import ChainRpc.Proofs.Json.Printed
import ChainRpc.Proofs.Rpc.Order

/-!
# Messages that are arrays

A message is an object, but an array passes for one: its items are the five members in their
order, and later ones may be missing. Every other text is refused.
-/

namespace ChainRpc

open Json (Decoder Node Written printed spells_printed)

namespace Json.Items

/-- How many items there are. -/
def length : Items → Nat
  | .close _ | .cut => 0
  | .item _ _ _ rest => rest.length + 1

/-- The items as members of these names, in their order. -/
def labelled : Items → List String → Json.Members
  | .close gap, _ => .close gap
  | .item before value after rest, name :: names =>
      .member before (printed name) [] [] value after (rest.labelled names)
  | .item .., [] | .cut, _ => .cut

theorem isProper_labelled : ∀ {items : Items} {first : Bool} {names : List String},
    items.IsProper first → items.length ≤ names.length → (items.labelled names).IsProper first
  | .close _, _, _, hproper, _ => hproper
  | .item _ _ _ _, _, name :: _, ⟨hbefore, hvalue, hafter, hothers⟩, henough =>
      ⟨hbefore, (spells_printed name).proper, isGap_nil, isGap_nil, hvalue, hafter,
        isProper_labelled hothers (Nat.le_of_succ_le_succ henough)⟩
  | .cut, _, _, hproper, _ => hproper.elim

end Json.Items

namespace Json.Decoder

variable {σ : Type} {all : List (Field σ)} {room : Nat}

/-- An array has no more items than there are fields. -/
theorem length_le_of_storeItems : ∀ {items : Items} {fields : List (Field σ)} {draft after : σ},
    storeItems room items fields draft = .ok after → items.length ≤ fields.length
  | .close _, _, _, _, _ | .cut, _, _, _, _ => Nat.zero_le _
  | .item .., [], _, _, hread => nomatch hread
  | .item _ _ _ rest, first :: fields, _, _, hread => by
      obtain ⟨middle, -, hread⟩ := storeItems_item_eq_ok_iff.mp hread
      exact Nat.succ_le_succ (length_le_of_storeItems hread)

/-- The items of an array are read as the members of an object would be. -/
theorem storeItems_eq_storeMembers (hapart : Apart all) : ∀ {items : Items}
    {fields : List (Field σ)} {draft : σ}, fields.Sublist all →
    (∀ field ∈ fields, field.isSet draft = false) → items.length ≤ fields.length →
      storeItems room items fields draft
        = storeMembers all room (items.labelled (fields.map Field.name)) draft
  | .close _, _, _, _, _, _ | .cut, _, _, _, _, _ => rfl
  | .item before value after rest, first :: fields, draft, hamong, hunset, henough => by
      have hmem : first ∈ all := hamong.subset List.mem_cons_self
      have hapartNames := hapart.distinct.sublist (hamong.map Field.name)
      rw [List.map_cons, List.nodup_cons] at hapartNames
      have hfresh := hunset first List.mem_cons_self
      simp only [storeItems, List.map_cons, Items.labelled, storeMembers,
        (spells_printed first.name).value, find?_field_of_mem hapart hmem, hfresh, bind,
        Except.bind]
      cases hstored : first.store room value draft with
      | error fault => rfl
      | ok middle =>
          have hlater := List.sublist_of_cons_sublist hamong
          apply storeItems_eq_storeMembers hapart hlater ?_ (Nat.le_of_succ_le_succ henough)
          -- The field just read is none of the later ones, and leaves them unset.
          intro field hhere
          have hdifferent : field.name ≠ first.name := by
            intro hsame
            exact hapartNames.1 (hsame ▸ List.mem_map_of_mem hhere)
          rw [hapart.others first hmem field (hlater.subset hhere) hdifferent hstored]
          exact hunset field (List.mem_cons_of_mem _ hhere)

theorem record_labelled {α : Type} (hapart : Apart all) {items : Items}
    (hshort : items.length ≤ all.length) {empty : σ}
    (hunset : ∀ field ∈ all, field.isSet empty = false) (finish : σ → Option α) :
    record all empty finish room (.array items)
      = record all empty finish room (.object (items.labelled (all.map Field.name))) := by
  cases room with
  | zero => rfl
  | succ room =>
      simp only [record, storeItems_eq_storeMembers hapart (List.Sublist.refl all) hunset hshort]

end Json.Decoder

namespace Rpc

namespace Members

theorem careful_decoder : Decoder.Careful decoder :=
  Decoder.careful_record interchangeable_fields.careful _ _

/-- A message is an object, or an array that has no more items than there are members. -/
theorem shape_of_decoder {room : Nat} {node : Node} {members : Members}
    (hread : decoder room node = .ok members) :
    (∃ object, node = .object object) ∨
      ∃ items, node = .array items ∧ items.length ≤ names.length := by
  cases room with
  | zero => cases node <;> contradiction
  | succ room =>
      cases node with
      | object object => exact .inl ⟨object, rfl⟩
      | array items =>
          obtain ⟨draft, hstored, -⟩ := Decoder.record_array_eq_ok_iff.mp hread
          exact .inr ⟨items, rfl, Decoder.length_le_of_storeItems hstored⟩
      | _ => contradiction

end Members

namespace Envelope

/-- The text is a JSON object. -/
def IsObject (text : String) : Prop :=
  ∃ before members after, Written text before (.object members) after

/-- The text is a JSON array of at most so many items. -/
def IsShortArray (text : String) (bound : Nat) : Prop :=
  ∃ before items after, Written text before (.array items) after ∧ items.length ≤ bound

/-- The object whose members are the items of an array. -/
def objectText (items : Json.Items) : String :=
  String.ofList (Node.object (items.labelled Members.names)).text

variable {text : String} {before after : List Char} {items : Json.Items}

theorem written_objectText (hproper : items.IsProper true)
    (hshort : items.length ≤ Members.names.length) :
    Written (objectText items) [] (.object (items.labelled Members.names)) [] := by
  have hlabelled : (Node.object (items.labelled Members.names)).IsProper :=
    Json.Items.isProper_labelled hproper hshort
  have hwritten := Json.written_ofList Json.isGap_nil hlabelled Json.isGap_nil
  rwa [List.nil_append, List.append_nil] at hwritten

/-- What is neither an object nor an array of five items or fewer is refused. -/
theorem parse_other (hobject : ¬IsObject text) (harray : ¬IsShortArray text Members.names.length) :
    parse text = .error (.json .shape) := by
  have hrefused : Members.decoder.ofText text = .error .shape := by
    cases hread : Members.decoder.ofText text with
    | error fault => rw [Members.careful_decoder.isPlain_ofText text fault hread]
    | ok members =>
        obtain ⟨before, node, after, hwritten, hread⟩ :=
          Members.careful_decoder.written_of_ofText hread
        obtain ⟨found, rfl⟩ | ⟨items, rfl, hshort⟩ := Members.shape_of_decoder hread
        · exact absurd ⟨before, found, after, hwritten⟩ hobject
        · exact absurd ⟨before, items, after, hwritten, hshort⟩ harray
  simp only [parse, hrefused]
  rfl

/-- An array of five items or fewer is the message that its items make. -/
theorem parse_array (hwritten : Written text before (.array items) after)
    (hshort : items.length ≤ Members.names.length) : parse text = parse (objectText items) := by
  have hread := Decoder.ofText_of_written Members.decoder hwritten
  have hread' :=
    Decoder.ofText_of_written Members.decoder (written_objectText hwritten.proper hshort)
  have hunset : ∀ field ∈ Members.fields, field.isSet {} = false := by
    simp [Members.fields, Decoder.field]
  have hsame : Members.decoder Json.nestingLimit (.array items)
      = Members.decoder Json.nestingLimit (.object (items.labelled Members.names)) :=
    Decoder.record_labelled Members.fields_apart hshort hunset _
  simp only [parse, hread, hread', hsame]

end Envelope

end Rpc

end ChainRpc
