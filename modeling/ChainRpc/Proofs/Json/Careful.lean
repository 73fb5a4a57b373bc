import ChainRpc.Proofs.Json.Exact
import ChainRpc.Proofs.Json.Record

/-!
# Careful decoders

A decoder is careful when whatever it reads is JSON to its end, so that no text that stops being
JSON gives a value, and when the shape of a value is all that it refuses. Records of careful fields
are careful.
-/

namespace ChainRpc.Json

theorem bind_eq_ok_iff {ε α β : Type} {result : Except ε α} {next : α → Except ε β} {b : β} :
    result >>= next = .ok b ↔ ∃ a, result = .ok a ∧ next a = .ok b := by
  cases result <;> simp [bind, Except.bind]

theorem bind_eq_error_iff {ε α β : Type} {result : Except ε α} {next : α → Except ε β} {e : ε} :
    result >>= next = .error e ↔ result = .error e ∨ ∃ a, result = .ok a ∧ next a = .error e := by
  cases result <;> simp [bind, Except.bind]

theorem map_eq_error_iff {ε α β : Type} {f : α → β} {result : Except ε α} {e : ε} :
    result.map f = .error e ↔ result = .error e := by
  cases result <;> simp [Except.map]

theorem mapError_eq_ok_iff {ε ε' α : Type} {f : ε → ε'} {result : Except ε α} {a : α} :
    result.mapError f = .ok a ↔ result = .ok a := by
  cases result <;> simp [Except.mapError]

/-- The result is a value, or a refusal for the shape of the text. -/
def IsPlain {α : Type} (result : Except Fault α) : Prop :=
  ∀ fault, result = .error fault → fault = .shape

section Plain

variable {α β : Type} {result : Except Fault α}

@[simp] theorem isPlain_ok (a : α) : IsPlain (.ok a : Except Fault α) := nofun

@[simp] theorem isPlain_shape : IsPlain (.error .shape : Except Fault α) := by
  rintro fault ⟨⟩
  rfl

theorem IsPlain.map (hplain : IsPlain result) (f : α → β) : IsPlain (result.map f) := by
  intro fault hrefused
  exact hplain fault (map_eq_error_iff.mp hrefused)

theorem IsPlain.bind (hplain : IsPlain result) {next : α → Except Fault β}
    (hlater : ∀ a, IsPlain (next a)) : IsPlain (result >>= next) := by
  intro fault hrefused
  obtain hrefused | ⟨a, -, hrefused⟩ := bind_eq_error_iff.mp hrefused
  · exact hplain fault hrefused
  · exact hlater a fault hrefused

/-- Two plain results are the same as soon as they give the same values. -/
theorem IsPlain.eq {other : Except Fault α} (hplain : IsPlain result) (hplain' : IsPlain other)
    (hsame : ∀ a, result = .ok a ↔ other = .ok a) : result = other := by
  cases result with
  | ok a => exact ((hsame a).mp rfl).symm
  | error fault =>
      cases other with
      | ok a => exact (hsame a).mpr rfl
      | error fault' => rw [hplain fault rfl, hplain' fault' rfl]

theorem isPlain_stringValue (pieces : List Piece) : IsPlain (stringValue pieces) := by
  unfold stringValue
  split <;> simp

end Plain

/-! ### Any value -/

section Value

variable {spelled : String → Except Fault Value}

mutual

theorem Node.isWhole_of_valueWith : ∀ {node : Node} {room : Nat} {value : Value},
    node.valueWith spelled room = .ok value → node.isWhole = true
  | .null, _, _, _ | .bool _, _, _, _ | .number _, _, _, _ | .string _, _, _, _ => rfl
  | .array items, room, value, hread => by
      cases room with
      | zero => contradiction
      | succ room =>
          obtain ⟨values, hread, -⟩ := map_eq_ok_iff.mp hread
          exact Items.isWhole_of_valuesWith hread
  | .object members, room, value, hread => by
      cases room with
      | zero => contradiction
      | succ room => exact Members.isWhole_of_valueWith hread
  | .cut, _, _, hread => nomatch hread

theorem Items.isWhole_of_valuesWith : ∀ {items : Items} {room : Nat} {values : List Value},
    items.valuesWith spelled room = .ok values → items.isWhole = true
  | .close _, _, _, _ => rfl
  | .item _ value _ rest, room, values, hread => by
      obtain ⟨first, hfirstRead, hread⟩ := bind_eq_ok_iff.mp hread
      obtain ⟨others, hothersRead, -⟩ := bind_eq_ok_iff.mp hread
      simp [Items.isWhole, Node.isWhole_of_valueWith hfirstRead,
        Items.isWhole_of_valuesWith hothersRead]
  | .cut, _, _, hread => nomatch hread

theorem Members.isWhole_of_valueWith : ∀ {members : Members} {room : Nat} {value : Value},
    members.valueWith spelled room = .ok value → members.isWhole = true
  | .close _, _, _, _ => rfl
  | .member _ key _ _ value _ rest, room, object, hread => by
      obtain ⟨text, -, hread⟩ := bind_eq_ok_iff.mp hread
      split at hread
      · -- A value that is announced by its text is a string, and the only member.
        split at hread
        · rfl
        · contradiction
      · obtain ⟨first, hfirstRead, hread⟩ := bind_eq_ok_iff.mp hread
        obtain ⟨others, hothersRead, -⟩ := map_eq_ok_iff.mp hread
        simp [Members.isWhole, Node.isWhole_of_valueWith hfirstRead,
          Members.isWhole_of_valuesWith hothersRead]
  | .cut, _, _, hread => nomatch hread

theorem Members.isWhole_of_valuesWith : ∀ {members : Members} {room : Nat}
    {built values : List (String × Value)},
    members.valuesWith spelled room built = .ok values → members.isWhole = true
  | .close _, _, _, _, _ => rfl
  | .member _ key _ _ value _ rest, room, built, values, hread => by
      obtain ⟨text, -, hread⟩ := bind_eq_ok_iff.mp hread
      obtain ⟨first, hfirstRead, hread⟩ := bind_eq_ok_iff.mp hread
      simp [Members.isWhole, Node.isWhole_of_valueWith hfirstRead,
        Members.isWhole_of_valuesWith hread]
  | .cut, _, _, _, hread => nomatch hread

end

mutual

theorem Node.isPlain_valueWith (hplain : ∀ text, IsPlain (spelled text)) :
    ∀ (node : Node) (room : Nat), IsPlain (node.valueWith spelled room)
  | .null, _ | .bool _, _ => isPlain_ok _
  | .number n, room => by
      unfold Node.valueWith
      split <;> simp
  | .string pieces, _ => (isPlain_stringValue pieces).map _
  | .array items, 0 => isPlain_shape
  | .array items, room + 1 => (Items.isPlain_valuesWith hplain items room).map _
  | .object members, 0 => isPlain_shape
  | .object members, room + 1 => Members.isPlain_valueWith hplain members room
  | .cut, _ => isPlain_shape

theorem Items.isPlain_valuesWith (hplain : ∀ text, IsPlain (spelled text)) :
    ∀ (items : Items) (room : Nat), IsPlain (items.valuesWith spelled room)
  | .close _, _ => isPlain_ok _
  | .item _ value _ rest, room => by
      apply (Node.isPlain_valueWith hplain value room).bind
      intro first
      apply (Items.isPlain_valuesWith hplain rest room).bind
      exact fun others => isPlain_ok _
  | .cut, _ => isPlain_shape

theorem Members.isPlain_valueWith (hplain : ∀ text, IsPlain (spelled text)) :
    ∀ (members : Members) (room : Nat), IsPlain (members.valueWith spelled room)
  | .close _, _ => isPlain_ok _
  | .member _ key _ _ value _ rest, room => by
      apply (isPlain_stringValue key).bind
      intro text
      split
      · split
        · exact (isPlain_stringValue _).bind hplain
        · exact isPlain_shape
      · apply (Node.isPlain_valueWith hplain value room).bind
        exact fun first => (Members.isPlain_valuesWith hplain rest room _).map _
  | .cut, _ => isPlain_shape

theorem Members.isPlain_valuesWith (hplain : ∀ text, IsPlain (spelled text)) :
    ∀ (members : Members) (room : Nat) (built : List (String × Value)),
      IsPlain (members.valuesWith spelled room built)
  | .close _, _, _ => isPlain_ok _
  | .member _ key _ _ value _ rest, room, built => by
      apply (isPlain_stringValue key).bind
      intro text
      apply (Node.isPlain_valueWith hplain value room).bind
      exact fun first => Members.isPlain_valuesWith hplain rest room _
  | .cut, _, _ => isPlain_shape

end

end Value

theorem isPlain_spelledValue (depth : Nat) (text : String) : IsPlain (spelledValue depth text) := by
  induction depth generalizing text with
  | zero => exact isPlain_shape
  | succ depth ih =>
      apply (Node.isPlain_valueWith ih _ _).bind
      intro value
      split <;> simp

namespace Decoder

variable {α β σ : Type}

/-- What the decoder reads is JSON to its end, and it refuses nothing but shapes. -/
structure Careful (decoder : Decoder α) : Prop where
  whole : ∀ {room node value}, decoder room node = .ok value → node.isWhole = true
  plain : ∀ room node, IsPlain (decoder room node)

section Values

variable {decoder : Decoder α}

theorem Careful.map (hcareful : Careful decoder) (f : α → β) :
    Careful fun room node => (decoder room node).map f where
  whole hread := by
    obtain ⟨value, hread, -⟩ := map_eq_ok_iff.mp hread
    exact hcareful.whole hread
  plain room node := (hcareful.plain room node).map f

theorem careful_value : Careful value where
  whole := Node.isWhole_of_valueWith
  plain room node := node.isPlain_valueWith (fun _ => isPlain_spelledValue _ _) room

theorem careful_string : Careful string where
  whole {room node value} hread := by cases node <;> first | rfl | contradiction
  plain room node := by
    cases node <;> first | exact isPlain_shape | exact isPlain_stringValue _

theorem careful_natural (bound : Nat) : Careful (natural bound) where
  whole hread := by
    obtain ⟨n, rfl, -⟩ := natural_eq_ok_iff.mp hread
    rfl
  plain room node := by
    unfold natural
    split
    · split
      · split <;> simp
      · simp
    · simp

theorem careful_int64 : Careful int64 where
  whole {room node value} hread := by cases node <;> first | rfl | contradiction
  plain room node := by
    unfold int64
    split
    · split
      · split <;> simp
      · simp
      · simp
    · simp

theorem careful_raw : Careful raw where
  whole hread := (raw_eq_ok_iff.mp hread).1
  plain room node := by
    unfold raw
    split <;> simp

theorem Careful.nullable (hcareful : Careful decoder) : Careful (nullable decoder) where
  whole hread := by
    obtain ⟨rfl, -⟩ | ⟨-, inner, hread, -⟩ := nullable_eq_ok_iff.mp hread
    · rfl
    · exact hcareful.whole hread
  plain room node := by
    unfold Decoder.nullable
    split
    · simp
    · exact (hcareful.plain room _).map _

end Values

/-! ### Records -/

/-- What the field takes is JSON to its end, and it refuses nothing but shapes. -/
structure Field.Careful (field : Field σ) : Prop where
  whole : ∀ {room node draft after}, field.store room node draft = .ok after → node.isWhole = true
  plain : ∀ room node draft, IsPlain (field.store room node draft)

theorem Careful.field {decoder : Decoder α} (hcareful : Careful decoder) (name : String)
    (get : σ → Option α) (set : σ → α → σ) : (field name get set decoder).Careful where
  whole hstored := by
    obtain ⟨value, hread, -⟩ := store_field_eq_ok.mp hstored
    exact hcareful.whole hread
  plain room node draft := (hcareful.plain room node).map _

section Records

variable {fields : List (Field σ)} (hcareful : ∀ field ∈ fields, field.Careful) {room : Nat}

include hcareful

theorem isWhole_of_storeMembers {members : Members} {draft after : σ}
    (hread : storeMembers fields room members draft = .ok after) : members.isWhole = true := by
  induction members using Members.rest_induction generalizing draft with
  | close gap => rfl
  | cut => contradiction
  | member before key left right value gap rest ih =>
      obtain ⟨text, -, hfurther⟩ := storeMembers_member_eq_ok_iff.mp hread
      obtain ⟨field, middle, hfound, -, hstored, hread⟩ | ⟨-, hwhole, hread⟩ := hfurther
      · have hmem := (name_of_find?_field hfound).1
        simp [Members.isWhole, (hcareful field hmem).whole hstored, ih hread]
      · simp [Members.isWhole, hwhole, ih hread]

theorem isPlain_storeMembers (members : Members) (draft : σ) :
    IsPlain (storeMembers fields room members draft) := by
  induction members using Members.rest_induction generalizing draft with
  | close gap => simp [storeMembers]
  | cut => simp [storeMembers]
  | member before key left right value gap rest ih =>
      rw [storeMembers]
      apply (isPlain_stringValue key).bind
      intro text
      split
      next field hfound =>
        split
        · simp
        · have hmem := (name_of_find?_field hfound).1
          exact ((hcareful field hmem).plain room value draft).bind ih
      next => split <;> simp [ih]

omit hcareful in
theorem isWhole_of_storeItems : ∀ {items : Items} {fields : List (Field σ)} {draft after : σ},
    (∀ field ∈ fields, field.Careful) → storeItems room items fields draft = .ok after →
      items.isWhole = true
  | .close _, _, _, _, _, _ => rfl
  | .item _ _ _ _, [], _, _, _, hread => nomatch hread
  | .item before value gap rest, first :: fields, draft, after, hcareful, hread => by
      obtain ⟨middle, hstored, hread⟩ := storeItems_item_eq_ok_iff.mp hread
      obtain ⟨hfirstCareful, hcareful⟩ := List.forall_mem_cons.mp hcareful
      simp [Items.isWhole, hfirstCareful.whole hstored, isWhole_of_storeItems hcareful hread]
  | .cut, _, _, _, _, hread => by
      simp [storeItems] at hread

omit hcareful in
theorem isPlain_storeItems : ∀ (items : Items) {fields : List (Field σ)} (draft : σ),
    (∀ field ∈ fields, field.Careful) → IsPlain (storeItems room items fields draft)
  | .close _, _, _, _ => by simp [storeItems]
  | .item _ _ _ _, [], _, _ => by simp [storeItems]
  | .item before value gap rest, first :: fields, draft, hcareful => by
      obtain ⟨hfirstCareful, hcareful⟩ := List.forall_mem_cons.mp hcareful
      rw [storeItems]
      apply (hfirstCareful.plain room value draft).bind
      exact fun middle => isPlain_storeItems rest middle hcareful
  | .cut, _, _, _ => by simp [storeItems]

theorem careful_record (empty : σ) (finish : σ → Option α) :
    Careful (record fields empty finish) where
  whole {room node value} hread := by
    cases room with
    | zero => cases node <;> contradiction
    | succ room =>
        cases node with
        | object members =>
            obtain ⟨draft, hread, -⟩ := record_object_eq_ok_iff.mp hread
            exact isWhole_of_storeMembers hcareful hread
        | array items =>
            obtain ⟨draft, hread, -⟩ := record_array_eq_ok_iff.mp hread
            exact isWhole_of_storeItems hcareful hread
        | _ => contradiction
  plain room node := by
    cases room with
    | zero => cases node <;> exact isPlain_shape
    | succ room =>
        cases node with
        | object members =>
            apply (isPlain_storeMembers hcareful members empty).bind
            intro draft
            dsimp only
            split <;> simp
        | array items =>
            apply (isPlain_storeItems items empty hcareful).bind
            intro draft
            dsimp only
            split <;> simp
        | _ => exact isPlain_shape

end Records

/-! ### Whole texts -/

section Text

variable {decoder : Decoder α} {text : String}

/-- A decoder reads a JSON text as the value in it. -/
theorem ofText_of_written (decoder : Decoder α) {before after : List Char} {node : Node}
    (hwritten : Written text before node after) :
    decoder.ofText text = decoder nestingLimit node := by
  have hdocument := (Document.ofText_eq_iff.mpr hwritten).1
  cases hread : decoder nestingLimit node <;> simp [ofText, hdocument, hread, bind, Except.bind]

/-- A careful decoder reads JSON texts and no others. -/
theorem Careful.written_of_ofText (hcareful : Careful decoder) {value : α}
    (hread : decoder.ofText text = .ok value) :
    ∃ before node after, Written text before node after ∧
      decoder nestingLimit node = .ok value := by
  obtain ⟨value', hread, hlast⟩ := bind_eq_ok_iff.mp hread
  split at hlast
  next hended =>
    cases hlast
    cases hdocument : Document.ofText text with
    | mk before node after tail =>
        rw [hdocument] at hread hended
        obtain rfl := List.isEmpty_iff.mp hended
        exact ⟨before, node, after, Document.ofText_eq_iff.mp ⟨hdocument, hcareful.whole hread⟩,
          hread⟩
  next => contradiction

theorem Careful.isPlain_ofText (hcareful : Careful decoder) (text : String) :
    IsPlain (decoder.ofText text) := by
  apply (hcareful.plain _ _).bind
  intro value
  split <;> simp

end Text

end Decoder

end ChainRpc.Json
