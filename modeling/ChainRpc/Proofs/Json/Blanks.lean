import ChainRpc.Proofs.Json.Record

/-!
# Blanks between tokens

Two values differ in the blanks between their tokens when they are the same without them. A
decoder is blind to blanks when it reads such values alike. All are but those that keep the text
of a value as it was written.
-/

namespace ChainRpc.Json

mutual

/-- The value without the blanks between its tokens. -/
def Node.bare : Node → Node
  | .array items => .array items.bare
  | .object members => .object members.bare
  | .null => .null
  | .bool b => .bool b
  | .number n => .number n
  | .string pieces => .string pieces
  | .cut => .cut

/-- The items without the blanks around and in them. -/
def Items.bare : Items → Items
  | .close _ => .close []
  | .item _ value _ rest => .item [] value.bare [] rest.bare
  | .cut => .cut

/-- The members without the blanks around and in them. -/
def Members.bare : Members → Members
  | .close _ => .close []
  | .member _ key _ _ value _ rest => .member [] key [] [] value.bare [] rest.bare
  | .cut => .cut

end

/-- The values differ in blanks between their tokens at most. -/
def Node.SameTokens (first second : Node) : Prop := first.bare = second.bare

mutual

@[simp] theorem Node.isWhole_bare : ∀ node : Node, node.bare.isWhole = node.isWhole
  | .array items => Items.isWhole_bare items
  | .object members => Members.isWhole_bare members
  | .null | .bool _ | .number _ | .string _ | .cut => rfl

@[simp] theorem Items.isWhole_bare : ∀ items : Items, items.bare.isWhole = items.isWhole
  | .close _ | .cut => rfl
  | .item _ value _ rest => by
      simp [Items.bare, Items.isWhole, Node.isWhole_bare value, Items.isWhole_bare rest]

@[simp] theorem Members.isWhole_bare :
    ∀ members : Members, members.bare.isWhole = members.isWhole
  | .close _ | .cut => rfl
  | .member _ _ _ _ value _ rest => by
      simp [Members.bare, Members.isWhole, Node.isWhole_bare value, Members.isWhole_bare rest]

end

theorem Node.SameTokens.isWhole {first second : Node} (hsame : first.SameTokens second) :
    first.isWhole = second.isWhole := by
  rw [← isWhole_bare first, ← isWhole_bare second, hsame]

section Value

variable (spelled : String → Except Fault Value)

mutual

@[simp] theorem Node.valueWith_bare :
    ∀ (node : Node) (room : Nat), node.bare.valueWith spelled room = node.valueWith spelled room
  | .array _, 0 | .object _, 0 => rfl
  | .array items, room + 1 => congrArg (Except.map Value.array) (Items.valuesWith_bare items room)
  | .object members, room + 1 => Members.valueWith_bare members room
  | .null, _ | .bool _, _ | .number _, _ | .string _, _ | .cut, _ => rfl

@[simp] theorem Items.valuesWith_bare : ∀ (items : Items) (room : Nat),
    items.bare.valuesWith spelled room = items.valuesWith spelled room
  | .close _, _ | .cut, _ => rfl
  | .item _ value _ rest, room => by
      simp only [Items.bare, Items.valuesWith, Node.valueWith_bare value,
        Items.valuesWith_bare rest]

@[simp] theorem Members.valueWith_bare : ∀ (members : Members) (room : Nat),
    members.bare.valueWith spelled room = members.valueWith spelled room
  | .close _, _ | .cut, _ => rfl
  | .member _ key _ _ value _ rest, room => by
      simp only [Members.bare, Members.valueWith, Node.valueWith_bare value,
        Members.valuesWith_bare rest]
      congr 1
      funext text
      split
      · -- Whether a string stands alone is not a matter of blanks.
        cases value <;> cases rest <;> rfl
      · rfl

@[simp] theorem Members.valuesWith_bare : ∀ (members : Members) (room : Nat)
    (built : List (String × Value)),
    members.bare.valuesWith spelled room built = members.valuesWith spelled room built
  | .close _, _, _ | .cut, _, _ => rfl
  | .member _ key _ _ value _ rest, room, built => by
      simp only [Members.bare, Members.valuesWith, Node.valueWith_bare value,
        Members.valuesWith_bare rest]

end

end Value

namespace Decoder

variable {α β σ : Type}

/-- The decoder does not see the blanks between tokens. -/
def Blind (decoder : Decoder α) : Prop := ∀ room node, decoder room node.bare = decoder room node

theorem Blind.congr {decoder : Decoder α} (hblind : Blind decoder) {first second : Node}
    (hsame : first.SameTokens second) (room : Nat) : decoder room first = decoder room second := by
  rw [← hblind room first, ← hblind room second, hsame]

section Values

variable {decoder : Decoder α}

theorem Blind.map (hblind : Blind decoder) (f : α → β) :
    Blind fun room node => (decoder room node).map f :=
  fun room node => congrArg (Except.map f) (hblind room node)

theorem blind_value : Blind value := fun room node => Node.valueWith_bare _ node room

theorem blind_string : Blind string := fun _ node => by cases node <;> rfl

theorem blind_natural (bound : Nat) : Blind (natural bound) := fun _ node => by cases node <;> rfl

theorem blind_int64 : Blind int64 := fun _ node => by cases node <;> rfl

theorem Blind.nullable (hblind : Blind decoder) : Blind (nullable decoder) := by
  intro room node
  have hinner := congrArg (Except.map some) (hblind room node)
  cases node <;> first | rfl | exact hinner

end Values

/-! ### Records -/

/-- The field does not see the blanks between tokens. -/
def Field.Blind (field : Field σ) : Prop :=
  ∀ room node draft, field.store room node.bare draft = field.store room node draft

theorem Blind.field {decoder : Decoder α} (hblind : Blind decoder) (name : String)
    (get : σ → Option α) (set : σ → α → σ) : (field name get set decoder).Blind :=
  fun room node draft => congrArg (Except.map (set draft)) (hblind room node)

theorem storeMembers_bare {fields : List (Field σ)} (hblind : ∀ field ∈ fields, field.Blind)
    (room : Nat) (members : Members) (draft : σ) :
    storeMembers fields room members.bare draft = storeMembers fields room members draft := by
  induction members using Members.rest_induction generalizing draft with
  | close gap => rfl
  | cut => rfl
  | member before key left right value gap rest ih =>
      simp only [Members.bare, storeMembers, Node.isWhole_bare, ih]
      congr 1
      funext text
      split
      next field hfound =>
        rw [hblind field (name_of_find?_field hfound).1]
      next => rfl

theorem storeItems_bare (room : Nat) : ∀ (items : Items) {fields : List (Field σ)} (draft : σ),
    (∀ field ∈ fields, field.Blind) →
      storeItems room items.bare fields draft = storeItems room items fields draft
  | .close _, _, _, _ | .cut, _, _, _ => rfl
  | .item _ _ _ _, [], _, _ => rfl
  | .item before value gap rest, first :: fields, draft, hblind => by
      obtain ⟨hfirstBlind, hblind⟩ := List.forall_mem_cons.mp hblind
      simp only [Items.bare, storeItems, hfirstBlind room value draft]
      congr 1
      funext middle
      exact storeItems_bare room rest middle hblind

theorem blind_record {fields : List (Field σ)} (hblind : ∀ field ∈ fields, field.Blind) (empty : σ)
    (finish : σ → Option α) : Blind (record fields empty finish) := by
  intro room node
  cases room with
  | zero => cases node <;> rfl
  | succ room =>
      cases node with
      | object members =>
          simp only [record, Node.bare, storeMembers_bare hblind]
      | array items =>
          simp only [record, Node.bare, storeItems_bare room items empty hblind]
      | _ => rfl

end Decoder

end ChainRpc.Json
