import ChainRpc.Proofs.Json.Exact
import ChainRpc.Proofs.Json.Careful
import ChainRpc.Proofs.Json.Printed

/-!
# What JSON texts mean

A JSON text means a value. How its numbers, strings and blanks are spelled is of no consequence,
and of several members of one key the last one counts. Only a number too large for a double and a
string with an unpaired surrogate mean nothing.

Reading gives the meaning with two exceptions. Arrays and objects may not be nested deeper than
there is room, and an object may not begin with the key that announces a value by its own text.
-/

namespace ChainRpc.Json

mutual

/-- The value that a tree means. -/
def Node.meaning? : Node → Option Value
  | .null => some .null
  | .bool b => some (.bool b)
  | .number n => n.value?.map .number
  | .string pieces => (stringValue pieces).toOption.map .string
  | .array items => items.meaning?.map .array
  | .object members => (members.meaning? []).map .object
  | .cut => none

/-- The values that items mean. -/
def Items.meaning? : Items → Option (List Value)
  | .close _ => some []
  | .item _ value _ rest => do
      let first ← value.meaning?
      let others ← rest.meaning?
      pure (first :: others)
  | .cut => none

/-- The keys and values that members mean, those that stand before them included. -/
def Members.meaning? : Members → (before : List (String × Value)) → Option (List (String × Value))
  | .close _, before => some before
  | .member _ key _ _ value _ rest, before => do
      let key ← (stringValue key).toOption
      let value ← value.meaning?
      rest.meaning? (insertMember key value before)
  | .cut, _ => none

end

mutual

/-- How deep arrays and objects are nested in a tree. -/
def Node.depth : Node → Nat
  | .array items => items.depth + 1
  | .object members => members.depth + 1
  | .null | .bool _ | .number _ | .string _ | .cut => 0

/-- How deep they are nested in the items of an array. -/
def Items.depth : Items → Nat
  | .item _ value _ rest => max value.depth rest.depth
  | .close _ | .cut => 0

/-- How deep they are nested in the members of an object. -/
def Members.depth : Members → Nat
  | .member _ _ _ _ value _ rest => max value.depth rest.depth
  | .close _ | .cut => 0

end

mutual

/-- No object in the tree begins with the key that announces a value by its own text. -/
def Node.IsUnannounced : Node → Prop
  | .array items => items.IsUnannounced
  | .object members => members.IsUnannounced true
  | .null | .bool _ | .number _ | .string _ | .cut => True

/-- No object in the items begins with this key. -/
def Items.IsUnannounced : Items → Prop
  | .item _ value _ rest => value.IsUnannounced ∧ rest.IsUnannounced
  | .close _ | .cut => True

/-- Neither the members begin with this key nor an object in their values. -/
def Members.IsUnannounced : Members → (first : Bool) → Prop
  | .member _ key _ _ value _ rest, first =>
      (first = true → stringValue key ≠ .ok spelledKey) ∧ value.IsUnannounced ∧
        rest.IsUnannounced false
  | .close _, _ | .cut, _ => True

end

/-- The text is JSON and means the value. -/
def Means (text : String) (value : Value) : Prop :=
  ∃ before node after, Written text before node after ∧ node.meaning? = some value

/-- A text means one value at most. -/
theorem Means.unique {text : String} {value other : Value} (hmeans : Means text value)
    (hmeans' : Means text other) : value = other := by
  obtain ⟨before, node, after, hwritten, hmeaning⟩ := hmeans
  obtain ⟨before', node', after', hwritten', hmeaning'⟩ := hmeans'
  have hsame := (Document.ofText_eq_iff.mpr hwritten).1.symm.trans
    (Document.ofText_eq_iff.mpr hwritten').1
  cases hsame
  exact Option.some.inj (hmeaning.symm.trans hmeaning')

theorem toOption_eq_some_iff {ε α : Type} {result : Except ε α} {a : α} :
    result.toOption = some a ↔ result = .ok a := by
  cases result <;> simp [Except.toOption]

/-! ### Reading -/

section Read

variable {spelled : String → Except Fault Value}

mutual

/-- Reading a tree gives its meaning, if there is room. -/
theorem Node.valueWith_eq_ok_iff : ∀ {node : Node} {room : Nat} {value : Value},
    node.IsUnannounced →
      (node.valueWith spelled room = .ok value ↔ node.meaning? = some value ∧ node.depth ≤ room)
  | .null, _, _, _ | .bool _, _, _, _ => by simp [Node.valueWith, Node.meaning?, Node.depth]
  | .number n, _, _, _ => by
      cases hnumber : n.value? <;> simp [Node.valueWith, Node.meaning?, Node.depth, hnumber]
  | .string pieces, _, _, _ => by
      simp [Node.valueWith, Node.meaning?, Node.depth, map_eq_ok_iff, toOption_eq_some_iff]
  | .array items, 0, _, _ => by simp [Node.valueWith, Node.depth]
  | .array items, room + 1, _, hunannounced => by
      simp only [Node.valueWith, Node.meaning?, Node.depth, map_eq_ok_iff, Option.map_eq_some_iff,
        Items.valuesWith_eq_ok_iff hunannounced, Nat.add_le_add_iff_right]
      grind
  | .object members, 0, _, _ => by simp [Node.valueWith, Node.depth]
  | .object members, room + 1, _, hunannounced => by
      simp only [Node.valueWith, Node.meaning?, Node.depth,
        Members.valueWith_eq_ok_iff hunannounced, Nat.add_le_add_iff_right]
  | .cut, _, _, _ => by simp [Node.valueWith, Node.meaning?]

theorem Items.valuesWith_eq_ok_iff : ∀ {items : Items} {room : Nat} {values : List Value},
    items.IsUnannounced →
      (items.valuesWith spelled room = .ok values ↔
        items.meaning? = some values ∧ items.depth ≤ room)
  | .close _, _, _, _ => by simp [Items.valuesWith, Items.meaning?, Items.depth]
  | .item _ value _ rest, room, values, ⟨hhere, hlater⟩ => by
      simp only [Items.valuesWith, Items.meaning?, Items.depth, bind_eq_ok_iff,
        Option.bind_eq_bind, Option.bind_eq_some_iff, Node.valueWith_eq_ok_iff hhere,
        Items.valuesWith_eq_ok_iff hlater, pure, Except.pure, Except.ok.injEq, Option.some.injEq,
        Nat.max_le]
      grind
  | .cut, _, _, _ => by simp [Items.valuesWith, Items.meaning?]

theorem Members.valueWith_eq_ok_iff : ∀ {members : Members} {room : Nat} {value : Value},
    members.IsUnannounced true →
      (members.valueWith spelled room = .ok value ↔
        (members.meaning? []).map .object = some value ∧ members.depth ≤ room)
  | .close _, _, _, _ => by simp [Members.valueWith, Members.meaning?, Members.depth]
  | .member _ key _ _ value _ rest, room, object, ⟨hother, hhere, hlater⟩ => by
      cases hnamed : stringValue key with
      | error fault =>
          simp [Members.valueWith, Members.meaning?, hnamed, bind, Except.bind, Except.toOption]
      | ok text =>
          have hdifferent : text ≠ spelledKey := by
            rintro rfl
            exact hother rfl hnamed
          simp only [Members.valueWith, Members.meaning?, Members.depth, hnamed, bind_eq_ok_iff,
            Except.ok.injEq, exists_eq_left', if_neg hdifferent, map_eq_ok_iff, Except.toOption,
            Option.bind_eq_bind, Option.bind_some, Option.map_eq_some_iff, Option.bind_eq_some_iff,
            Node.valueWith_eq_ok_iff hhere, Members.valuesWith_eq_ok_iff hlater, Nat.max_le,
            insertMember]
          grind
  | .cut, _, _, _ => by simp [Members.valueWith, Members.meaning?]

theorem Members.valuesWith_eq_ok_iff : ∀ {members : Members} {room : Nat}
    {before values : List (String × Value)}, members.IsUnannounced false →
      (members.valuesWith spelled room before = .ok values ↔
        members.meaning? before = some values ∧ members.depth ≤ room)
  | .close _, _, _, _, _ => by simp [Members.valuesWith, Members.meaning?, Members.depth]
  | .member _ key _ _ value _ rest, room, before, values, ⟨_, hhere, hlater⟩ => by
      simp only [Members.valuesWith, Members.meaning?, Members.depth, bind_eq_ok_iff,
        Option.bind_eq_bind, Option.bind_eq_some_iff, toOption_eq_some_iff,
        Node.valueWith_eq_ok_iff hhere, Members.valuesWith_eq_ok_iff hlater, Nat.max_le]
      grind
  | .cut, _, _, _, _ => by simp [Members.valuesWith, Members.meaning?]

end

end Read

/-! ### Single values -/

section Single

variable {room : Nat} {node : Node}

theorem Decoder.string_eq_ok_iff {text : String} :
    Decoder.string room node = .ok text ↔ node.meaning? = some (.string text) := by
  cases node <;> simp [Decoder.string, Node.meaning?, toOption_eq_some_iff]

/-- A number of 64 bits is read from what means it, for larger ones stand for doubles. -/
theorem Decoder.nat64_eq_ok_iff {n : Nat} :
    Decoder.nat64 room node = .ok n ↔ node.meaning? = some (.nat n) := by
  rw [nat64, natural_eq_ok_iff]
  cases node with
  | number numeral =>
      simp only [Node.number.injEq, exists_eq_left', Node.meaning?, Value.nat,
        Option.map_eq_some_iff, Value.number.injEq, exists_eq_right, and_iff_left_iff_imp]
      intro hvalue
      obtain ⟨-, -, -, hfits⟩ := Numeral.value?_eq_natural_iff.mp hvalue
      exact hfits
  | _ => simp [Node.meaning?, Value.nat]

/-- A numeral stands for a negative number only if that has 64 bits. -/
theorem Numeral.fits_of_value?_negative {numeral : Numeral} {n : Nat}
    (hvalue : numeral.value? = some (.negative n)) : 0 < n ∧ n ≤ 2 ^ 63 := by
  unfold value? at hvalue
  dsimp only at hvalue
  split at hvalue
  · cases hvalue
  · split at hvalue
    next hnegative =>
      cases hvalue
      simp only [Bool.and_eq_true, decide_eq_true_eq] at hnegative
      exact ⟨hnegative.1.2, hnegative.2⟩
    next =>
      obtain ⟨x, -, hother⟩ := Option.map_eq_some_iff.mp hvalue
      cases hother

theorem Decoder.int64_eq_ok_iff {n : Int} :
    Decoder.int64 room node = .ok n ↔
      node.meaning? = some (.int n) ∧ -2 ^ 63 ≤ n ∧ n < 2 ^ 63 := by
  cases node with
  | number numeral =>
      simp only [Decoder.int64, Node.meaning?, Value.int, Value.nat]
      cases hvalue : numeral.value? with
      | none => simp
      | some number =>
          cases number with
          | natural m => grind
          | negative m =>
              have hfits := Numeral.fits_of_value?_negative hvalue
              grind
          | double x => grind
  | _ => simp [Decoder.int64, Node.meaning?, Value.int, Value.nat] <;> grind

end Single

end ChainRpc.Json
