import ChainRpc.Proofs.Json.Careful
import ChainRpc.Proofs.Json.Printed

/-!
# Trees of printed values

A value without doubles is printed as the text of a tree that is spelled by the rules of JSON, and
different values have different trees. So its text is JSON and tells it apart from all others.

Reading the tree gives the value back under three conditions. The value is one that reading can
give: its numbers have 64 bits and the keys of its objects are in order. It is not nested too deep.
And no object in it begins with the key that announces a value by its own text, since reading takes
such an object for the value that is announced.
-/

namespace ChainRpc.Json

namespace Value

/-- The items of an array and the values of the members of an object. -/
def children : Value → List Value
  | .array items => items
  | .object members => members.map Prod.snd
  | _ => []

/-- A value within a value: the value itself, or one within an item or a member of it. -/
inductive Within : Value → Value → Prop
  | self (value : Value) : Within value value
  | child {part child value : Value} (hmem : child ∈ value.children) (hinner : Within part child) :
      Within part value

/-- No number in the value is a double. -/
def IsExact (value : Value) : Prop := ∀ x, ¬Within (.number (.double x)) value

/-- No object in the value begins with the key that announces a value by its own text. -/
def IsUnannounced (value : Value) : Prop :=
  ∀ inner rest, ¬Within (.object ((spelledKey, inner) :: rest)) value

/-- The whole numbers in the value have 64 bits, and the keys of each object are in order, each
once. -/
structure IsSound (value : Value) : Prop where
  natural : ∀ n, Within (.number (.natural n)) value → n < 2 ^ 64
  negative : ∀ n, Within (.number (.negative n)) value → 0 < n ∧ n ≤ 2 ^ 63
  ordered : ∀ members, Within (.object members) value →
    members.Pairwise fun first second => first.1 < second.1

/-- Reading can give the value and gives it back. -/
structure IsFaithful (value : Value) : Prop where
  exact : value.IsExact
  sound : value.IsSound
  unannounced : value.IsUnannounced

section Children

variable {child value : Value}

theorem IsExact.of_child (hexact : value.IsExact) (hmem : child ∈ value.children) : child.IsExact :=
  fun x hinner => hexact x (.child hmem hinner)

/-- Within a value that has no children there is nothing but the value itself. -/
theorem Within.eq_of_leaf {part : Value} (hinner : Within part value)
    (hleaf : value.children = []) : part = value := by
  cases hinner with
  | self => rfl
  | child hmem hinner =>
      rw [hleaf] at hmem
      contradiction

theorem IsFaithful.of_child (hfaithful : value.IsFaithful) (hmem : child ∈ value.children) :
    child.IsFaithful where
  exact := hfaithful.exact.of_child hmem
  sound := {
    natural := fun n hinner => hfaithful.sound.natural n (.child hmem hinner)
    negative := fun n hinner => hfaithful.sound.negative n (.child hmem hinner)
    ordered := fun members hinner => hfaithful.sound.ordered members (.child hmem hinner) }
  unannounced _ _ hinner := hfaithful.unannounced _ _ (.child hmem hinner)

variable {items : List Value} {members : List (String × Value)}

/-- A value that is no double is exact if all its children are. -/
theorem isExact_of_children (hother : ∀ x, value ≠ .number (.double x))
    (hexact : ∀ child ∈ value.children, child.IsExact) : value.IsExact := by
  intro x hinner
  cases hinner with
  | self => exact hother x rfl
  | child hmem hinner => exact hexact _ hmem x hinner

theorem isExact_string (text : String) : (string text).IsExact :=
  isExact_of_children nofun nofun

theorem isExact_array (hexact : ∀ item ∈ items, item.IsExact) : (array items).IsExact :=
  isExact_of_children nofun hexact

theorem isExact_object (hexact : ∀ value ∈ members.map Prod.snd, value.IsExact) :
    (object members).IsExact :=
  isExact_of_children nofun hexact

theorem isFaithful_string (text : String) : (string text).IsFaithful where
  exact := isExact_string text
  sound := {
    natural := fun n hinner => by cases hinner.eq_of_leaf rfl
    negative := fun n hinner => by cases hinner.eq_of_leaf rfl
    ordered := fun members hinner => by cases hinner.eq_of_leaf rfl }
  unannounced inner rest hinner := by cases hinner.eq_of_leaf rfl

theorem isFaithful_nat {n : Nat} (hfits : n < 2 ^ 64) : (nat n).IsFaithful where
  exact := isExact_of_children nofun nofun
  sound := {
    natural := fun m hinner => by
      cases hinner.eq_of_leaf rfl
      exact hfits
    negative := fun m hinner => by cases hinner.eq_of_leaf rfl
    ordered := fun members hinner => by cases hinner.eq_of_leaf rfl }
  unannounced inner rest hinner := by cases hinner.eq_of_leaf rfl

/-- An array is faithful if all its items are. -/
theorem isFaithful_array (hfaithful : ∀ item ∈ items, item.IsFaithful) :
    (array items).IsFaithful where
  exact := isExact_array fun item hmem => (hfaithful item hmem).exact
  sound := {
    natural := fun n hinner => by
      cases hinner with
      | child hmem hinner => exact (hfaithful _ hmem).sound.natural n hinner
    negative := fun n hinner => by
      cases hinner with
      | child hmem hinner => exact (hfaithful _ hmem).sound.negative n hinner
    ordered := fun members hinner => by
      cases hinner with
      | child hmem hinner => exact (hfaithful _ hmem).sound.ordered members hinner }
  unannounced inner rest hinner := by
    cases hinner with
    | child hmem hinner => exact (hfaithful _ hmem).unannounced inner rest hinner

theorem IsExact.each_item (hexact : (array items).IsExact) : ∀ item ∈ items, item.IsExact :=
  fun _ hmem => hexact.of_child hmem

theorem IsExact.each_value (hexact : (object members).IsExact) :
    ∀ value ∈ members.map Prod.snd, value.IsExact :=
  fun _ hmem => hexact.of_child hmem

theorem IsFaithful.each_item (hfaithful : (array items).IsFaithful) :
    ∀ item ∈ items, item.IsFaithful :=
  fun _ hmem => hfaithful.of_child hmem

theorem IsFaithful.each_value (hfaithful : (object members).IsFaithful) :
    ∀ value ∈ members.map Prod.snd, value.IsFaithful :=
  fun _ hmem => hfaithful.of_child hmem

end Children

end Value

mutual

/-- How deep arrays and objects are nested in a value. -/
def Value.depth : Value → Nat
  | .array items => itemsDepth items + 1
  | .object members => membersDepth members + 1
  | _ => 0

/-- How deep they are nested in the items of an array. -/
def itemsDepth : List Value → Nat
  | [] => 0
  | item :: rest => max item.depth (itemsDepth rest)

/-- How deep they are nested in the members of an object. -/
def membersDepth : List (String × Value) → Nat
  | [] => 0
  | (_, value) :: rest => max value.depth (membersDepth rest)

end

theorem depth_le_itemsDepth {item : Value} : ∀ {items : List Value}, item ∈ items →
    item.depth ≤ itemsDepth items
  | _ :: _, .head _ => Nat.le_max_left _ _
  | _ :: _, .tail _ hmem => Nat.le_trans (depth_le_itemsDepth hmem) (Nat.le_max_right _ _)

theorem depth_le_membersDepth {member : String × Value} :
    ∀ {members : List (String × Value)}, member ∈ members → member.2.depth ≤ membersDepth members
  | _ :: _, .head _ => Nat.le_max_left _ _
  | _ :: _, .tail _ hmem => Nat.le_trans (depth_le_membersDepth hmem) (Nat.le_max_right _ _)

theorem itemsDepth_strings {α : Type} (text : α → String) (items : List α) :
    itemsDepth (items.map fun item => .string (text item)) = 0 := by
  induction items with
  | nil => rfl
  | cons item items ih => simp [itemsDepth, Value.depth, ih]

/-! ### The tree of a value -/

namespace Numeral

/-- The numeral of the negative of a whole number. -/
def ofNegative (n : Nat) : Numeral := ⟨true, Nat.toDigits 10 n, none, none⟩

@[simp] theorem text_ofNegative (n : Nat) : (ofNegative n).text = '-' :: Nat.toDigits 10 n := by
  simp [ofNegative, text]

theorem isProper_ofNegative (n : Nat) : (ofNegative n).IsProper :=
  ⟨(isProper_ofNat n).whole, (isProper_ofNat n).leading, nofun, nofun⟩

theorem value?_ofNegative {n : Nat} (hpositive : 0 < n) (hfits : n ≤ 2 ^ 63) :
    (ofNegative n).value? = some (.negative n) := by
  unfold value? ofNegative
  simp only [digitsValue_toDigits]
  rw [if_neg (by simp), if_pos]
  simp only [Option.isNone_none, Bool.and_self, Bool.true_and, Bool.and_eq_true, decide_eq_true_eq]
  exact ⟨hpositive, hfits⟩

end Numeral

/-- The tree of a printed number. A double has none here. -/
def Number.tree : Number → Node
  | .natural n => .number (.ofNat n)
  | .negative n => .number (.ofNegative n)
  | .double _ => .cut

mutual

/-- The tree of a printed value, in which no blanks stand. -/
def Value.tree : Value → Node
  | .null => .null
  | .bool b => .bool b
  | .number n => n.tree
  | .string s => .string (printed s)
  | .array items => .array (itemsTree items)
  | .object members => .object (membersTree members)

/-- The tree of the items of an array. -/
def itemsTree : List Value → Items
  | [] => .close []
  | item :: rest => .item [] item.tree [] (itemsTree rest)

/-- The tree of the members of an object. -/
def membersTree : List (String × Value) → Members
  | [] => .close []
  | (key, value) :: rest => .member [] (printed key) [] [] value.tree [] (membersTree rest)

end

/-! ### The text of the tree -/

mutual

/-- A value is printed as the text of its tree. -/
theorem Value.text_tree : ∀ {value : Value}, value.IsExact → value.tree.text = value.chars
  | .null, _ => rfl
  | .bool true, _ => rfl
  | .bool false, _ => rfl
  | .number (.natural n), _ => Numeral.text_ofNat n
  | .number (.negative n), _ => Numeral.text_ofNegative n
  | .number (.double x), hexact => (hexact x (.self _)).elim
  | .string _, _ => rfl
  | .array _, hexact => congrArg ('[' :: ·) (itemsTree_text true hexact.each_item)
  | .object _, hexact => congrArg ('\x7b' :: ·) (membersTree_text true hexact.each_value)

theorem itemsTree_text (first : Bool) : ∀ {items : List Value},
    (∀ item ∈ items, item.IsExact) → (itemsTree items).text first = itemChars first items
  | [], _ => rfl
  | item :: rest, hexact => by
      obtain ⟨hhere, hlater⟩ := List.forall_mem_cons.mp hexact
      simp only [itemsTree, Items.text, itemChars, List.append_nil, Value.text_tree hhere,
        itemsTree_text false hlater]

theorem membersTree_text (first : Bool) : ∀ {members : List (String × Value)},
    (∀ value ∈ members.map Prod.snd, value.IsExact) →
      (membersTree members).text first = memberChars first members
  | [], _ => rfl
  | (key, value) :: rest, hexact => by
      obtain ⟨hhere, hlater⟩ := List.forall_mem_cons.mp hexact
      simp only [membersTree, Members.text, memberChars, List.append_nil, List.append_assoc,
        List.nil_append, List.cons_append, Value.text_tree hhere, membersTree_text false hlater,
        quoteText, printed]

end

mutual

/-- The tree of a value is spelled by the rules of JSON. -/
theorem Value.isProper_tree : ∀ {value : Value}, value.IsExact → value.tree.IsProper
  | .null, _ => trivial
  | .bool _, _ => trivial
  | .number (.natural n), _ => Numeral.isProper_ofNat n
  | .number (.negative n), _ => Numeral.isProper_ofNegative n
  | .number (.double x), hexact => (hexact x (.self _)).elim
  | .string s, _ => (spells_printed s).proper
  | .array _, hexact => isProper_itemsTree true hexact.each_item
  | .object _, hexact => isProper_membersTree true hexact.each_value

theorem isProper_itemsTree (first : Bool) : ∀ {items : List Value},
    (∀ item ∈ items, item.IsExact) → (itemsTree items).IsProper first
  | [], _ => by cases first <;> simp [itemsTree, Items.IsProper, IsGap]
  | item :: rest, hexact => by
      obtain ⟨hhere, hlater⟩ := List.forall_mem_cons.mp hexact
      exact ⟨isGap_nil, Value.isProper_tree hhere, isGap_nil, isProper_itemsTree false hlater⟩

theorem isProper_membersTree (first : Bool) : ∀ {members : List (String × Value)},
    (∀ value ∈ members.map Prod.snd, value.IsExact) →
      (membersTree members).IsProper first
  | [], _ => by cases first <;> simp [membersTree, Members.IsProper, IsGap]
  | (key, value) :: rest, hexact => by
      obtain ⟨hhere, hlater⟩ := List.forall_mem_cons.mp hexact
      exact ⟨isGap_nil, (spells_printed key).proper, isGap_nil, isGap_nil,
        Value.isProper_tree hhere, isGap_nil, isProper_membersTree false hlater⟩

end

/-- The text of a value without doubles is JSON. -/
theorem Value.written_text {value : Value} (hexact : value.IsExact) :
    Written value.text [] value.tree [] := by
  have hwritten := written_ofList isGap_nil (isProper_tree hexact) isGap_nil
  simpa only [text, List.nil_append, List.append_nil, text_tree hexact] using hwritten

/-! ### The members of an object -/

theorem Members.IsProper.find? {name : String} {node : Node} :
    ∀ {members : Members} {first : Bool}, members.IsProper first →
      members.find? name = some node → node.IsProper
  | .close _, _, _, hfound => by cases hfound
  | .cut, _, _, hfound => by cases hfound
  | .member before key left right value after rest, _, hproper, hfound => by
      obtain ⟨-, -, -, -, hhere, -, hlater⟩ := hproper
      by_cases hnamed : (stringValue key).toOption = some name
      · simp [Members.find?, toList, hnamed] at hfound
        exact hfound ▸ hhere
      · apply Members.IsProper.find? hlater
        simpa [Members.find?, toList, hnamed] using hfound

theorem keys_membersTree (members : List (String × Value)) :
    (membersTree members).keys = members.map fun member => some member.1 := by
  induction members with
  | nil => rfl
  | cons member members ih =>
      rw [membersTree, Members.keys_member, ih, (spells_printed member.1).value]
      rfl

theorem find?_membersTree (name : String) (members : List (String × Value)) :
    (membersTree members).find? name
      = (members.find? (·.1 = name)).map fun member => member.2.tree := by
  induction members with
  | nil => rfl
  | cons member members ih =>
      have htext := (spells_printed member.1).value
      by_cases hsame : member.1 = name
      · subst hsame
        simp [membersTree, Members.find?_member_self htext]
      · simp [membersTree, Members.find?_member_of_ne htext hsame, ih, hsame]

/-! ### Different values have different trees -/

theorem printed_injective {text other : String} (hsame : printed text = printed other) :
    text = other := by
  have hvalue := (spells_printed text).value
  rw [hsame, (spells_printed other).value] at hvalue
  exact (Except.ok.inj hvalue).symm

theorem Numeral.toDigits_injective {n m : Nat} (hsame : Nat.toDigits 10 n = Nat.toDigits 10 m) :
    n = m := by
  rw [← digitsValue_toDigits n, hsame, digitsValue_toDigits]

mutual

theorem Value.tree_injective : ∀ {value other : Value}, value.IsExact → other.IsExact →
    value.tree = other.tree → value = other
  | .null, other, _, hexact, hsame => by
      cases other with
      | null => rfl
      | number n => cases n <;> cases hsame
      | _ => cases hsame
  | .bool b, other, _, hexact, hsame => by
      cases other with
      | bool b' => exact congrArg Value.bool (Node.bool.inj hsame)
      | number n => cases n <;> cases hsame
      | _ => cases hsame
  | .number n, other, hexact, hexact', hsame => by
      cases other with
      | number m =>
          cases n with
          | double x => exact absurd (.self _) (hexact x)
          | natural n =>
              cases m with
              | double x => exact absurd (.self _) (hexact' x)
              | negative m => cases hsame
              | natural m =>
                  rw [Numeral.toDigits_injective (congrArg Numeral.whole (Node.number.inj hsame))]
          | negative n =>
              cases m with
              | double x => exact absurd (.self _) (hexact' x)
              | natural m => cases hsame
              | negative m =>
                  rw [Numeral.toDigits_injective (congrArg Numeral.whole (Node.number.inj hsame))]
      | _ => cases n <;> cases hsame
  | .string s, other, _, hexact, hsame => by
      cases other with
      | string s' => rw [printed_injective (Node.string.inj hsame)]
      | number n => cases n <;> cases hsame
      | _ => cases hsame
  | .array items, other, hexact, hexact', hsame => by
      cases other with
      | array items' =>
          rw [itemsTree_injective hexact.each_item hexact'.each_item (Node.array.inj hsame)]
      | number n => cases n <;> cases hsame
      | _ => cases hsame
  | .object members, other, hexact, hexact', hsame => by
      cases other with
      | object members' =>
          rw [membersTree_injective hexact.each_value hexact'.each_value (Node.object.inj hsame)]
      | number n => cases n <;> cases hsame
      | _ => cases hsame

theorem itemsTree_injective : ∀ {items others : List Value}, (∀ item ∈ items, item.IsExact) →
    (∀ item ∈ others, item.IsExact) → itemsTree items = itemsTree others → items = others
  | [], [], _, _, _ => rfl
  | [], _ :: _, _, _, hsame => nomatch hsame
  | _ :: _, [], _, _, hsame => nomatch hsame
  | item :: rest, item' :: rest', hexact, hexact', hsame => by
      obtain ⟨hhere, hlater⟩ := List.forall_mem_cons.mp hexact
      obtain ⟨hhere', hlater'⟩ := List.forall_mem_cons.mp hexact'
      simp only [itemsTree, Items.item.injEq, true_and] at hsame
      rw [Value.tree_injective hhere hhere' hsame.1, itemsTree_injective hlater hlater' hsame.2]

theorem membersTree_injective : ∀ {members others : List (String × Value)},
    (∀ value ∈ members.map Prod.snd, value.IsExact) →
    (∀ value ∈ others.map Prod.snd, value.IsExact) →
      membersTree members = membersTree others → members = others
  | [], [], _, _, _ => rfl
  | [], _ :: _, _, _, hsame => nomatch hsame
  | _ :: _, [], _, _, hsame => nomatch hsame
  | (key, value) :: rest, (key', value') :: rest', hexact, hexact', hsame => by
      obtain ⟨hhere, hlater⟩ := List.forall_mem_cons.mp hexact
      obtain ⟨hhere', hlater'⟩ := List.forall_mem_cons.mp hexact'
      simp only [membersTree, Members.member.injEq, true_and] at hsame
      obtain ⟨hkeys, hvalues, hothers⟩ := hsame
      obtain rfl : value = value' := Value.tree_injective hhere hhere' hvalues
      rw [printed_injective hkeys, membersTree_injective hlater hlater' hothers]

end

/-- The text of a value tells it apart from every other. -/
theorem Value.text_injective {value other : Value} (hexact : value.IsExact)
    (hexact' : other.IsExact) (hsame : value.text = other.text) : value = other := by
  apply tree_injective hexact hexact'
  apply (isProper_tree hexact).text_injective (isProper_tree hexact')
  rw [text_tree hexact, text_tree hexact']
  exact String.ofList_injective hsame

/-! ### Reading the tree -/

/-- A key above all that are there goes to the end. -/
theorem insertMember_last {key : String} {value : Value} {built : List (String × Value)}
    (habove : ∀ member ∈ built, member.1 < key) :
    insertMember key value built = built ++ [(key, value)] := by
  induction built with
  | nil => rfl
  | cons first rest ih =>
      obtain ⟨hhere, hlater⟩ := List.forall_mem_cons.mp habove
      have hother : key ≠ first.1 := by
        rintro rfl
        exact String.lt_irrefl _ hhere
      rw [insertMember, if_neg (String.lt_asymm hhere), if_neg hother, ih hlater, List.cons_append]

section Read

variable {spelled : String → Except Fault Value}

mutual

/-- The tree of a value is read as the value. -/
theorem Value.valueWith_tree : ∀ {value : Value} {room : Nat}, value.IsFaithful →
    value.depth ≤ room → value.tree.valueWith spelled room = .ok value
  | .null, _, _, _ => rfl
  | .bool _, _, _, _ => rfl
  | .number (.natural n), _, hfaithful, _ => by
      have hfits := hfaithful.sound.natural n (.self _)
      simp only [Value.tree, Number.tree, Node.valueWith, Numeral.value?_ofNat hfits]
  | .number (.negative n), _, hfaithful, _ => by
      obtain ⟨hpositive, hfits⟩ := hfaithful.sound.negative n (.self _)
      simp only [Value.tree, Number.tree, Node.valueWith, Numeral.value?_ofNegative hpositive hfits]
  | .number (.double x), _, hfaithful, _ => (hfaithful.exact x (.self _)).elim
  | .string s, _, _, _ => by
      simp only [Value.tree, Node.valueWith, (spells_printed s).value, Except.map]
  | .array _, 0, _, hdeep => nomatch hdeep
  | .array items, room + 1, hfaithful, hdeep => by
      have hread := valuesWith_itemsTree hfaithful.each_item (Nat.le_of_succ_le_succ hdeep)
      simp only [Value.tree, Node.valueWith, hread, Except.map]
  | .object _, 0, _, hdeep => nomatch hdeep
  | .object [], _ + 1, _, _ => rfl
  | .object ((key, value) :: rest), room + 1, hfaithful, hdeep => by
      obtain ⟨hhere, hlater⟩ := Nat.max_le.mp (Nat.le_of_succ_le_succ hdeep)
      have hother : key ≠ spelledKey := by
        rintro rfl
        exact hfaithful.unannounced value rest (.self _)
      obtain ⟨hvalueFaithful, hrestFaithful⟩ := List.forall_mem_cons.mp hfaithful.each_value
      have hfirst := Value.valueWith_tree hvalueFaithful hhere
      have hothers := valuesWith_membersTree [(key, value)] hrestFaithful hlater
        (hfaithful.sound.ordered _ (.self _))
      simp only [Value.tree, membersTree, Node.valueWith, Members.valueWith,
        (spells_printed key).value, bind, Except.bind, if_neg hother, hfirst, hothers, Except.map,
        List.singleton_append]

theorem valuesWith_itemsTree : ∀ {items : List Value} {room : Nat},
    (∀ item ∈ items, item.IsFaithful) → itemsDepth items ≤ room →
      (itemsTree items).valuesWith spelled room = .ok items
  | [], _, _, _ => rfl
  | item :: rest, room, hfaithful, hdeep => by
      obtain ⟨hhere, hlater⟩ := Nat.max_le.mp hdeep
      obtain ⟨hitemFaithful, hrestFaithful⟩ := List.forall_mem_cons.mp hfaithful
      have hfirst := Value.valueWith_tree hitemFaithful hhere
      have hothers := valuesWith_itemsTree hrestFaithful hlater
      simp only [itemsTree, Items.valuesWith, hfirst, hothers, bind, Except.bind, pure, Except.pure]

/-- Members in order go behind those that stand before them. -/
theorem valuesWith_membersTree (built : List (String × Value)) :
    ∀ {members : List (String × Value)} {room : Nat},
    (∀ value ∈ members.map Prod.snd, value.IsFaithful) → membersDepth members ≤ room →
    (built ++ members).Pairwise (fun first second => first.1 < second.1) →
      (membersTree members).valuesWith spelled room built = .ok (built ++ members)
  | [], _, _, _, _ => by simp [membersTree, Members.valuesWith]
  | (key, value) :: rest, room, hfaithful, hdeep, hordered => by
      obtain ⟨hhere, hlater⟩ := Nat.max_le.mp hdeep
      obtain ⟨hvalueFaithful, hrestFaithful⟩ := List.forall_mem_cons.mp hfaithful
      have hfirst := Value.valueWith_tree hvalueFaithful hhere
      have habove : ∀ member ∈ built, member.1 < key := fun member hmem =>
        (List.pairwise_append.mp hordered).2.2 member hmem (key, value) List.mem_cons_self
      rw [List.append_cons] at hordered ⊢
      have hothers := valuesWith_membersTree (built ++ [(key, value)]) hrestFaithful hlater hordered
      simp only [membersTree, Members.valuesWith, (spells_printed key).value, bind, Except.bind,
        hfirst, insertMember_last habove, hothers]

end

end Read

/-- The text of a value is read as the value. -/
theorem Value.ofText_text {value : Value} (hfaithful : value.IsFaithful)
    (hshallow : value.depth ≤ nestingLimit) : Decoder.value.ofText value.text = .ok value := by
  rw [Decoder.ofText_of_written _ (written_text hfaithful.exact)]
  exact valueWith_tree hfaithful hshallow

end ChainRpc.Json
