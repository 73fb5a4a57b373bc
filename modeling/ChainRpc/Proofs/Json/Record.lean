import ChainRpc.Json.Decoder

/-!
# Reading the members of an object

The members of an object are read in their order into a draft. When no field of the record comes
twice, the order is of no consequence: reading succeeds exactly when every key is a text and every
field takes its member, and each part of the draft is then what its own member says.
-/

namespace ChainRpc.Json

theorem map_eq_ok_iff {ε α β : Type} {f : α → β} {result : Except ε α} {b : β} :
    result.map f = .ok b ↔ ∃ a, result = .ok a ∧ f a = b := by
  cases result <;> simp [Except.map]

namespace Members

/-- The members of an object in their order. A key with an unpaired surrogate has no text. -/
def toList : Members → List (Option String × Node)
  | .close _ | .cut => []
  | .member _ key _ _ value _ rest => ((stringValue key).toOption, value) :: rest.toList

/-- The texts of the keys in their order. -/
def keys (members : Members) : List (Option String) := members.toList.map Prod.fst

/-- The value of the first member of a name. -/
def find? (members : Members) (name : String) : Option Node :=
  (members.toList.find? fun member => member.1 = some name).map Prod.snd

/-- The value of a member that is there and is not `null`. -/
def given? (members : Members) (name : String) : Option Node :=
  match members.find? name with
  | none | some .null => none
  | some node => some node

/-- At most one member has the name. -/
def Once (members : Members) (name : String) : Prop := members.keys.count (some name) ≤ 1

instance (members : Members) (name : String) : Decidable (members.Once name) :=
  inferInstanceAs (Decidable (_ ≤ 1))

/-- Induction over the members themselves, whatever stands in their values. -/
@[elab_as_elim]
theorem rest_induction {motive : Members → Prop} (close : ∀ gap, motive (.close gap))
    (member : ∀ before key left right value gap rest, motive rest →
      motive (.member before key left right value gap rest))
    (cut : motive .cut) : ∀ members, motive members
  | .close gap => close gap
  | .member before key left right value gap rest =>
      member before key left right value gap rest (rest_induction close member cut rest)
  | .cut => cut

section Member

variable {before left right after : List Char} {key : List Piece} {value : Node} {rest : Members}
  {text name : String}

theorem keys_member :
    (Members.member before key left right value after rest).keys
      = (stringValue key).toOption :: rest.keys := rfl

theorem find?_eq_none_iff {members : Members} :
    members.find? name = none ↔ some name ∉ members.keys := by
  simp only [find?, keys, Option.map_eq_none_iff, List.find?_eq_none, List.mem_map, not_exists,
    not_and, decide_eq_true_eq]

theorem find?_member_self (htext : stringValue key = .ok name) :
    (Members.member before key left right value after rest).find? name = some value := by
  simp [find?, toList, htext, Except.toOption]

theorem find?_member_of_ne (htext : stringValue key = .ok text) (hdifferent : text ≠ name) :
    (Members.member before key left right value after rest).find? name = rest.find? name := by
  simp [find?, toList, htext, Except.toOption, hdifferent]

theorem Once.of_member (honce : (Members.member before key left right value after rest).Once name) :
    rest.Once name := by
  unfold Once at honce ⊢
  rw [keys_member, List.count_cons] at honce
  omega

theorem Once.not_mem_rest (htext : stringValue key = .ok name)
    (honce : (Members.member before key left right value after rest).Once name) :
    some name ∉ rest.keys := by
  unfold Once at honce
  rw [keys_member, htext] at honce
  have hcounted : rest.keys.count (some name) = 0 := by simpa [Except.toOption] using honce
  exact List.count_eq_zero.mp hcounted

theorem find?_member_of_once {node : Node} (htext : stringValue key = .ok text)
    (honce : (Members.member before key left right value after rest).Once name)
    (hfound : rest.find? name = some node) :
    (Members.member before key left right value after rest).find? name = rest.find? name := by
  by_cases hsame : text = name
  · subst hsame
    rw [find?_eq_none_iff.mpr (honce.not_mem_rest htext)] at hfound
    contradiction
  · exact find?_member_of_ne htext hsame

end Member

theorem isWhole_find? {members : Members} {name : String} {node : Node}
    (hwhole : members.isWhole = true) (hfound : members.find? name = some node) :
    node.isWhole = true := by
  induction members using Members.rest_induction with
  | close gap => contradiction
  | cut => contradiction
  | member before key left right value gap rest ih =>
      obtain ⟨hfirst, hothers⟩ : value.isWhole = true ∧ rest.isWhole = true := by
        simpa [Members.isWhole] using hwhole
      by_cases hnamed : (stringValue key).toOption = some name
      · simp [find?, toList, hnamed] at hfound
        exact hfound ▸ hfirst
      · apply ih hothers
        simpa [find?, toList, hnamed] using hfound

theorem text_isInfix {members : Members} {name : String} {node : Node}
    (hfound : members.find? name = some node) (first : Bool) :
    node.text <:+: members.text first := by
  induction members using Members.rest_induction generalizing first with
  | close gap => contradiction
  | cut => contradiction
  | member before key left right value gap rest ih =>
      unfold Members.text
      by_cases hnamed : (stringValue key).toOption = some name
      · simp [find?, toList, hnamed] at hfound
        subst hfound
        exact List.infix_append_of_infix_left (List.infix_append_of_infix_left
          (List.suffix_append _ _).isInfix)
      · apply List.infix_append_of_infix_right
        apply ih
        simpa [find?, toList, hnamed] using hfound

end Members

namespace Decoder

/-! ### Values -/

section Values

variable {α : Type} {decoder : Decoder α} {room : Nat} {node : Node}

theorem nullable_eq_ok_iff {value : Option α} :
    nullable decoder room node = .ok value ↔
      (node = .null ∧ none = value) ∨
        (node ≠ .null ∧ ∃ inner, decoder room node = .ok inner ∧ some inner = value) := by
  cases node <;> simp [nullable, map_eq_ok_iff]

theorem raw_eq_ok_iff {text : String} :
    raw room node = .ok text ↔ node.isWhole = true ∧ text = String.ofList node.text := by
  unfold raw
  split
  · next hwhole => simp [hwhole, eq_comm]
  · next hcut => simp [hcut]

theorem natural_eq_ok_iff {bound value : Nat} :
    natural bound room node = .ok value ↔
      ∃ n, node = .number n ∧ n.value? = some (.natural value) ∧ value < bound := by
  cases node
  case number n =>
    simp only [natural, Node.number.injEq, exists_eq_left']
    split
    · next hwritten => by_cases hbelow : ‹Nat› < bound <;> simp [hbelow, hwritten] <;> grind
    · next hother => simpa using fun hwritten => absurd hwritten (hother value)
  all_goals simp [natural]

/-- Reads a member that may be missing or `null`. -/
def optional (decoder : Decoder α) (room : Nat) (members : Members) (name : String) :
    Except Fault (Option α) :=
  match members.given? name with
  | some node => (decoder room node).map some
  | none => .ok none

theorem optional_eq_ok_iff {members : Members} {name : String} {value : Option α} :
    optional decoder room members name = .ok value ↔
      (members.find? name = none ∧ none = value) ∨
        ∃ node, members.find? name = some node ∧ nullable decoder room node = .ok value := by
  unfold optional Members.given?
  cases hfound : members.find? name with
  | none => simp
  | some node =>
      simp only [reduceCtorEq, false_and, Option.some.injEq, exists_eq_left', false_or]
      cases node <;> rfl

theorem optional_eq_some_iff {members : Members} {name : String} {value : α} :
    optional decoder room members name = .ok (some value) ↔
      ∃ node, members.find? name = some node ∧ node ≠ .null ∧ decoder room node = .ok value := by
  simp [optional_eq_ok_iff, nullable_eq_ok_iff]

end Values

/-! ### Fields -/

variable {α σ : Type} {fields : List (Decoder.Field σ)} {room : Nat}

/-- The field reads the value, whatever the draft holds already. -/
def Field.Accepts (field : Field σ) (room : Nat) (node : Node) : Prop :=
  ∀ draft, ∃ after, field.store room node draft = .ok after

/-- Fields that do not get in each other's way. -/
structure Apart (fields : List (Field σ)) : Prop where
  distinct : (fields.map Field.name).Nodup
  uniform : ∀ field ∈ fields, ∀ {room node draft after},
    field.store room node draft = .ok after → field.Accepts room node
  sets : ∀ field ∈ fields, ∀ {room node draft after},
    field.store room node draft = .ok after → field.isSet after = true
  others : ∀ field ∈ fields, ∀ other ∈ fields, other.name ≠ field.name →
    ∀ {room node draft after}, field.store room node draft = .ok after →
      other.isSet after = other.isSet draft

/-- A part of the draft that the field of a name sets, and no other. -/
structure Owns (fields : List (Field σ)) (name : String) (get : σ → Option α)
    (decoder : Decoder α) : Prop where
  exists_field : ∃ field ∈ fields, field.name = name
  own : ∀ field ∈ fields, field.name = name → ∀ {room node draft after},
    field.store room node draft = .ok after →
      ∃ value, decoder room node = .ok value ∧ get after = some value
  others : ∀ field ∈ fields, field.name ≠ name → ∀ {room node draft after},
    field.store room node draft = .ok after → get after = get draft

theorem store_field_eq_ok {name : String} {get : σ → Option α} {set : σ → α → σ}
    {decoder : Decoder α} {node : Node} {draft after : σ} :
    (field name get set decoder).store room node draft = .ok after ↔
      ∃ value, decoder room node = .ok value ∧ set draft value = after := by
  exact map_eq_ok_iff

/-- A field with a decoder of its own takes a value exactly when its decoder reads it. -/
theorem accepts_field_iff {name : String} {get : σ → Option α} {set : σ → α → σ}
    {decoder : Decoder α} {node : Node} (draft : σ) :
    (field name get set decoder).Accepts room node ↔ ∃ value, decoder room node = .ok value := by
  constructor
  · intro haccepts
    obtain ⟨after, hstored⟩ := haccepts draft
    obtain ⟨value, hread, -⟩ := store_field_eq_ok.mp hstored
    exact ⟨value, hread⟩
  · rintro ⟨value, hread⟩ draft
    exact ⟨set draft value, store_field_eq_ok.mpr ⟨value, hread, rfl⟩⟩

/-- The field has a place of its own in the draft. -/
def Field.HasPlace (f : Field σ) : Prop :=
  ∃ (β : Type) (get : σ → Option β) (set : σ → β → σ) (decoder : Decoder β),
    (∀ draft value, get (set draft value) = some value) ∧ f = field f.name get set decoder

theorem field_hasPlace {name : String} {get : σ → Option α} {set : σ → α → σ}
    {decoder : Decoder α} (hgetSet : ∀ draft value, get (set draft value) = some value) :
    (field name get set decoder).HasPlace :=
  ⟨α, get, set, decoder, hgetSet, rfl⟩

theorem Apart.of_places (hdistinct : (fields.map Field.name).Nodup)
    (hplaces : ∀ f ∈ fields, f.HasPlace)
    (hothers : ∀ f ∈ fields, ∀ other ∈ fields, other.name ≠ f.name →
      ∀ {room node draft after}, f.store room node draft = .ok after →
        other.isSet after = other.isSet draft) : Apart fields where
  distinct := hdistinct
  others := hothers
  uniform := by
    intro f hmem room node draft after hstored
    obtain ⟨β, get, set, decoder, -, hmade⟩ := hplaces f hmem
    rw [hmade] at hstored ⊢
    obtain ⟨value, hread, -⟩ := store_field_eq_ok.mp hstored
    exact (accepts_field_iff draft).mpr ⟨value, hread⟩
  sets := by
    intro f hmem room node draft after hstored
    obtain ⟨β, get, set, decoder, hgetSet, hmade⟩ := hplaces f hmem
    rw [hmade] at hstored ⊢
    obtain ⟨value, -, rfl⟩ := store_field_eq_ok.mp hstored
    simp [field, hgetSet]

/-- A field is found by its name when no other has it. -/
theorem find?_of_distinct (hdistinct : (fields.map Field.name).Nodup) {field : Field σ}
    (hmem : field ∈ fields) : fields.find? (·.name = field.name) = some field := by
  induction fields with
  | nil => contradiction
  | cons first others ih =>
      rw [List.map_cons, List.nodup_cons] at hdistinct
      rcases List.mem_cons.mp hmem with rfl | hmem
      · simp
      · have hdifferent : first.name ≠ field.name := by
          intro hsame
          exact hdistinct.1 (hsame ▸ List.mem_map_of_mem hmem)
        rw [List.find?_cons_of_neg (by simpa using hdifferent)]
        exact ih hdistinct.2 hmem

theorem find?_field_of_mem (hapart : Apart fields) {field : Field σ} (hmem : field ∈ fields) :
    fields.find? (·.name = field.name) = some field :=
  find?_of_distinct hapart.distinct hmem

theorem name_of_find?_field {field : Field σ} {name : String}
    (hfound : fields.find? (·.name = name) = some field) : field ∈ fields ∧ field.name = name :=
  ⟨List.mem_of_find?_eq_some hfound, by simpa using List.find?_some hfound⟩

/-- A part that the other fields leave alone belongs to its own field. -/
theorem Apart.owns (hapart : Apart fields) {name : String} {get : σ → Option α} {set : σ → α → σ}
    {decoder : Decoder α} (hmem : field name get set decoder ∈ fields)
    (hgetSet : ∀ draft value, get (set draft value) = some value)
    (hothers : ∀ other ∈ fields, other.name ≠ name → ∀ {room node draft after},
      other.store room node draft = .ok after → get after = get draft) :
    Owns fields name get decoder where
  exists_field := ⟨_, hmem, rfl⟩
  others := hothers
  own := by
    intro other hhere hnamed room node draft after hstored
    have hsame : some other = some (field name get set decoder) := by
      rw [← find?_field_of_mem hapart hhere, ← find?_field_of_mem hapart hmem, hnamed]
      rfl
    rw [Option.some.inj hsame] at hstored
    obtain ⟨value, hread, rfl⟩ := store_field_eq_ok.mp hstored
    exact ⟨value, hread, hgetSet draft value⟩

/-! ### Objects -/

/-- What it takes to read an object one member further. -/
theorem storeMembers_member_eq_ok_iff {before left right gap : List Char} {key : List Piece}
    {value : Node} {rest : Members} {draft after : σ} :
    storeMembers fields room (.member before key left right value gap rest) draft = .ok after ↔
      ∃ text, stringValue key = .ok text ∧
        ((∃ field middle, fields.find? (·.name = text) = some field ∧ field.isSet draft = false ∧
            field.store room value draft = .ok middle ∧
            storeMembers fields room rest middle = .ok after) ∨
          (fields.find? (·.name = text) = none ∧ value.isWhole = true ∧
            storeMembers fields room rest draft = .ok after)) := by
  rw [storeMembers]
  cases htext : stringValue key with
  | error fault => simp [bind, Except.bind]
  | ok text =>
      simp only [bind, Except.bind, Except.ok.injEq, exists_eq_left']
      cases hfield : fields.find? (·.name = text) with
      | none => cases hwhole : value.isWhole <;> simp
      | some field =>
          cases hset : field.isSet draft with
          | true => simp [hset]
          | false => cases hstore : field.store room value draft <;> simp [hset, hstore]

/-- A member of a field is read into its place. -/
theorem storeMembers_known {before left right gap : List Char} {key : List Piece} {value : Node}
    {rest : Members} {draft : σ} {text name : String} {get : σ → Option α} {set : σ → α → σ}
    {decoder : Decoder α} {a : α} (hspelled : stringValue key = .ok text)
    (hfound : fields.find? (·.name = text) = some (field name get set decoder))
    (hunset : get draft = none) (hread : decoder room value = .ok a) :
    storeMembers fields room (.member before key left right value gap rest) draft
      = storeMembers fields room rest (set draft a) := by
  simp [storeMembers, hspelled, hfound, field, hunset, hread, Except.map, bind, Except.bind]

/-- A member that no field asks for is skipped. -/
theorem storeMembers_unknown {before left right gap : List Char} {key : List Piece} {value : Node}
    {rest : Members} {draft : σ} {text : String} (hspelled : stringValue key = .ok text)
    (hunknown : fields.find? (·.name = text) = none) (hwhole : value.isWhole = true) :
    storeMembers fields room (.member before key left right value gap rest) draft
      = storeMembers fields room rest draft := by
  simp [storeMembers, hspelled, hunknown, hwhole, bind, Except.bind]

/-- An object whose keys are texts and whose members suit their fields is read. -/
theorem storeMembers_isOk (hapart : Apart fields) {members : Members} {draft : σ}
    (hwhole : members.isWhole = true) (htexts : none ∉ members.keys)
    (honce : ∀ field ∈ fields, members.Once field.name)
    (hunset : ∀ field ∈ fields, some field.name ∈ members.keys → field.isSet draft = false)
    (haccepts : ∀ field ∈ fields, ∀ node, members.find? field.name = some node →
      field.Accepts room node) :
    ∃ after, storeMembers fields room members draft = .ok after := by
  -- The draft grows with each member, so what it must not hold yet is said of the rest alone.
  induction members using Members.rest_induction generalizing draft with
  | close gap => exact ⟨draft, rfl⟩
  | cut => contradiction
  | member before key left right value gap rest ih =>
      obtain ⟨hfirst, hothers⟩ : value.isWhole = true ∧ rest.isWhole = true := by
        simpa [Members.isWhole] using hwhole
      rw [Members.keys_member, List.mem_cons, not_or] at htexts
      obtain ⟨text, htext⟩ : ∃ text, stringValue key = .ok text := by
        cases htext : stringValue key with
        | ok text => exact ⟨text, rfl⟩
        | error fault => simp [htext, Except.toOption] at htexts
      have honceRest : ∀ field ∈ fields, rest.Once field.name := fun field hmem =>
        (honce field hmem).of_member
      have hacceptsRest : ∀ field ∈ fields, ∀ node, rest.find? field.name = some node →
          field.Accepts room node := by
        intro field hmem node hfound
        apply haccepts field hmem node
        rwa [Members.find?_member_of_once htext (honce field hmem) hfound]
      simp only [storeMembers_member_eq_ok_iff, htext, Except.ok.injEq, exists_eq_left']
      cases hfield : fields.find? (·.name = text) with
      | none =>
          obtain ⟨after, hread⟩ := ih hothers htexts.2 honceRest
            (fun field hmem hhere => hunset field hmem (List.mem_cons_of_mem _ hhere)) hacceptsRest
          exact ⟨after, .inr ⟨rfl, hfirst, hread⟩⟩
      | some field =>
          obtain ⟨hmem, rfl⟩ := name_of_find?_field hfield
          obtain ⟨middle, hstored⟩ :=
            haccepts field hmem value (Members.find?_member_self htext) draft
          have hfresh : field.isSet draft = false := by
            apply hunset field hmem
            rw [Members.keys_member, htext]
            exact List.mem_cons_self
          -- The field just stored does not come again, and leaves the others as they were.
          have hunsetRest : ∀ other ∈ fields, some other.name ∈ rest.keys →
              other.isSet middle = false := by
            intro other hhere hagain
            have hdifferent : other.name ≠ field.name := by
              intro hsame
              exact (honce field hmem).not_mem_rest htext (hsame ▸ hagain)
            rw [hapart.others field hmem other hhere hdifferent hstored]
            exact hunset other hhere (List.mem_cons_of_mem _ hagain)
          obtain ⟨after, hread⟩ := ih hothers htexts.2 honceRest hunsetRest hacceptsRest
          exact ⟨after, .inl ⟨field, middle, rfl, hfresh, hstored, hread⟩⟩

/-- Whatever is read has texts for keys, and members that suit their fields. -/
theorem storeMembers_inv (hapart : Apart fields) {members : Members} {draft after : σ}
    (hread : storeMembers fields room members draft = .ok after) :
    none ∉ members.keys ∧ ∀ field ∈ fields, ∀ node, members.find? field.name = some node →
      field.Accepts room node := by
  induction members using Members.rest_induction generalizing draft with
  | close gap => exact ⟨List.not_mem_nil, by simp [Members.find?, Members.toList]⟩
  | cut => contradiction
  | member before key left right value gap rest ih =>
      obtain ⟨text, htext, hfurther⟩ := storeMembers_member_eq_ok_iff.mp hread
      have hlater : ∃ middle, storeMembers fields room rest middle = .ok after := by
        obtain ⟨_, middle, _, _, _, hread⟩ | ⟨_, _, hread⟩ := hfurther
        · exact ⟨middle, hread⟩
        · exact ⟨draft, hread⟩
      obtain ⟨middle, hlater⟩ := hlater
      obtain ⟨htexts, haccepts⟩ := ih hlater
      refine ⟨by simp [Members.keys_member, htext, Except.toOption, htexts], ?_⟩
      intro field hmem node hfound
      by_cases hsame : text = field.name
      · subst hsame
        rw [Members.find?_member_self htext, Option.some.injEq] at hfound
        subst hfound
        rw [find?_field_of_mem hapart hmem] at hfurther
        obtain ⟨field', _, hsame, _, hstored, _⟩ | ⟨habsent, _⟩ := hfurther
        · rw [← Option.some.inj hsame] at hstored
          exact hapart.uniform field hmem hstored
        · contradiction
      · rw [Members.find?_member_of_ne htext hsame] at hfound
        exact haccepts field hmem node hfound

/-- Whatever is read has no member of a field that the draft has already. -/
theorem storeMembers_fresh (hapart : Apart fields) {field : Field σ} (hmem : field ∈ fields)
    {members : Members} {draft after : σ}
    (hread : storeMembers fields room members draft = .ok after)
    (hset : field.isSet draft = true) : some field.name ∉ members.keys := by
  induction members using Members.rest_induction generalizing draft with
  | close gap => exact List.not_mem_nil
  | cut => contradiction
  | member before key left right value gap rest ih =>
      obtain ⟨text, htext, hfurther⟩ := storeMembers_member_eq_ok_iff.mp hread
      rw [Members.keys_member, htext, List.mem_cons, not_or]
      obtain ⟨other, middle, hfound, hunset, hstored, hread⟩ | ⟨hunknown, -, hread⟩ := hfurther
      · obtain ⟨hhere, rfl⟩ := name_of_find?_field hfound
        have hdifferent : field.name ≠ other.name := by
          intro hsame
          rw [← hsame, find?_field_of_mem hapart hmem, Option.some.injEq] at hfound
          rw [hfound, hunset] at hset
          contradiction
        refine ⟨by simpa [Except.toOption] using hdifferent, ih hread ?_⟩
        rw [hapart.others other hhere field hmem hdifferent hstored]
        exact hset
      · have hdifferent : field.name ≠ text := by
          rintro rfl
          rw [find?_field_of_mem hapart hmem] at hunknown
          contradiction
        exact ⟨by simpa [Except.toOption] using hdifferent, ih hread hset⟩

/-- Whatever is read has no field twice. -/
theorem storeMembers_once (hapart : Apart fields) {field : Field σ} (hmem : field ∈ fields)
    {members : Members} {draft after : σ}
    (hread : storeMembers fields room members draft = .ok after) : members.Once field.name := by
  induction members using Members.rest_induction generalizing draft with
  | close gap => exact Nat.zero_le _
  | cut => contradiction
  | member before key left right value gap rest ih =>
      obtain ⟨text, htext, hfurther⟩ := storeMembers_member_eq_ok_iff.mp hread
      unfold Members.Once
      rw [Members.keys_member, htext, List.count_cons]
      obtain ⟨other, middle, hfound, -, hstored, hread⟩ | ⟨hunknown, -, hread⟩ := hfurther
      · obtain ⟨hhere, rfl⟩ := name_of_find?_field hfound
        by_cases hsame : other.name = field.name
        · rw [hsame, find?_field_of_mem hapart hmem, Option.some.injEq] at hfound
          subst hfound
          -- Stored once, the field refuses every later member of its name.
          have habsent := storeMembers_fresh hapart hmem hread (hapart.sets field hmem hstored)
          rw [List.count_eq_zero.mpr habsent]
          split <;> omega
        · have honce := ih hread
          rw [if_neg (by simpa [Except.toOption] using hsame)]
          exact honce
      · have hdifferent : text ≠ field.name := by
          rintro rfl
          rw [find?_field_of_mem hapart hmem] at hunknown
          contradiction
        have honce := ih hread
        rw [if_neg (by simpa [Except.toOption] using hdifferent)]
        exact honce

/-- Reading an object whose text is JSON to its end succeeds exactly when its keys are texts, no
field comes twice and every field takes its member. -/
theorem storeMembers_isOk_iff (hapart : Apart fields) (room : Nat) {members : Members} {draft : σ}
    (hwhole : members.isWhole = true) (hempty : ∀ field ∈ fields, field.isSet draft = false) :
    (∃ after, storeMembers fields room members draft = .ok after) ↔
      none ∉ members.keys ∧ ∀ field ∈ fields, members.Once field.name ∧
        ∀ node, members.find? field.name = some node → field.Accepts room node := by
  constructor
  · rintro ⟨after, hread⟩
    obtain ⟨htexts, haccepts⟩ := storeMembers_inv hapart hread
    exact ⟨htexts, fun field hmem => ⟨storeMembers_once hapart hmem hread, haccepts field hmem⟩⟩
  · rintro ⟨htexts, hsuits⟩
    exact storeMembers_isOk hapart hwhole htexts (fun field hmem => (hsuits field hmem).1)
      (fun field hmem _ => hempty field hmem) (fun field hmem => (hsuits field hmem).2)

/-- A part of the draft is what the member of its field says, and stays as it was without one. -/
theorem storeMembers_get {name : String} {get : σ → Option α} {decoder : Decoder α}
    (howns : Owns fields name get decoder) {members : Members} {draft after : σ}
    (honce : members.Once name) (hread : storeMembers fields room members draft = .ok after) :
    (∀ node, members.find? name = some node →
      ∃ value, decoder room node = .ok value ∧ get after = some value) ∧
    (members.find? name = none → get after = get draft) := by
  induction members using Members.rest_induction generalizing draft with
  | close gap =>
      cases hread
      exact ⟨by simp [Members.find?, Members.toList], fun _ => rfl⟩
  | cut => contradiction
  | member before key left right value gap rest ih =>
      obtain ⟨text, htext, hfurther⟩ := storeMembers_member_eq_ok_iff.mp hread
      by_cases hsame : text = name
      · subst hsame
        have habsent : rest.find? text = none :=
          Members.find?_eq_none_iff.mpr (honce.not_mem_rest htext)
        rw [Members.find?_member_self htext]
        refine ⟨?_, by simp⟩
        rintro node ⟨⟩
        obtain ⟨field, middle, hfound, _, hstored, hread⟩ | ⟨hunknown, _⟩ := hfurther
        · obtain ⟨hmem, hnamed⟩ := name_of_find?_field hfound
          -- No later member touches the part.
          rw [(ih honce.of_member hread).2 habsent]
          exact howns.own field hmem hnamed hstored
        · obtain ⟨field, hmem, hnamed⟩ := howns.exists_field
          exact absurd hnamed (by simpa using List.find?_eq_none.mp hunknown field hmem)
      · rw [Members.find?_member_of_ne htext hsame]
        obtain ⟨field, middle, hfound, _, hstored, hread⟩ | ⟨_, _, hread⟩ := hfurther
        · obtain ⟨hmem, hnamed⟩ := name_of_find?_field hfound
          obtain ⟨hpresent, habsent⟩ := ih honce.of_member hread
          refine ⟨hpresent, fun hnone => ?_⟩
          rw [habsent hnone]
          exact howns.others field hmem (hnamed ▸ hsame) hstored
        · exact ih honce.of_member hread

theorem storeMembers_get_eq_some_iff {name : String} {get : σ → Option α} {decoder : Decoder α}
    (howns : Owns fields name get decoder) {members : Members} {draft after : σ}
    (honce : members.Once name) (hempty : get draft = none)
    (hread : storeMembers fields room members draft = .ok after) {value : α} :
    get after = some value ↔
      ∃ node, members.find? name = some node ∧ decoder room node = .ok value := by
  obtain ⟨hpresent, habsent⟩ := storeMembers_get howns honce hread
  cases hfound : members.find? name with
  | none => simp [habsent hfound, hempty]
  | some node =>
      obtain ⟨value', hdecoded, hheld⟩ := hpresent node hfound
      simp [hheld, hdecoded]

/-- A member that may be missing or `null` is read into its part of the draft. -/
theorem optional_of_storeMembers {name : String} {get : σ → Option (Option α)}
    {decoder : Decoder α} (howns : Owns fields name get (nullable decoder)) {members : Members}
    {draft after : σ} (honce : members.Once name) (hempty : get draft = none)
    (hread : storeMembers fields room members draft = .ok after) :
    optional decoder room members name = .ok (get after).join := by
  obtain ⟨hpresent, habsent⟩ := storeMembers_get howns honce hread
  rw [optional_eq_ok_iff]
  cases hfound : members.find? name with
  | none =>
      rw [habsent hfound, hempty]
      exact .inl ⟨rfl, rfl⟩
  | some node =>
      obtain ⟨value, hread, hheld⟩ := hpresent node hfound
      rw [hheld]
      exact .inr ⟨node, rfl, hread⟩

theorem nullable_of_optional {members : Members} {decoder : Decoder α} {name : String}
    {value : Option α} {node : Node} (htyped : optional decoder room members name = .ok value)
    (hfound : members.find? name = some node) : nullable decoder room node = .ok value := by
  obtain ⟨habsent, -⟩ | ⟨node', hfound', hread⟩ := optional_eq_ok_iff.mp htyped
  · rw [hfound] at habsent
    contradiction
  · rw [hfound, Option.some.injEq] at hfound'
    exact hfound' ▸ hread

/-- A record is read from an object when a draft is and nothing is missing in it. -/
theorem record_object_eq_ok_iff {empty : σ} {finish : σ → Option α} {members : Members}
    {value : α} :
    record fields empty finish (room + 1) (.object members) = .ok value ↔
      ∃ draft, storeMembers fields room members empty = .ok draft ∧ finish draft = some value := by
  simp only [record, bind, Except.bind]
  cases storeMembers fields room members empty with
  | error fault => simp
  | ok draft =>
      simp only [Except.ok.injEq, exists_eq_left']
      cases finish draft <;> simp

/-! ### Arrays -/

theorem storeItems_item_eq_ok_iff {before after : List Char} {value : Node} {rest : Items}
    {first : Field σ} {draft final : σ} :
    storeItems room (.item before value after rest) (first :: fields) draft = .ok final ↔
      ∃ middle, first.store room value draft = .ok middle ∧
        storeItems room rest fields middle = .ok final := by
  rw [storeItems]
  cases first.store room value draft <;> simp [bind, Except.bind]

theorem record_array_eq_ok_iff {empty : σ} {finish : σ → Option α} {items : Items} {value : α} :
    record fields empty finish (room + 1) (.array items) = .ok value ↔
      ∃ draft, storeItems room items fields empty = .ok draft ∧ finish draft = some value := by
  simp only [record, bind, Except.bind]
  cases storeItems room items fields empty with
  | error fault => simp
  | ok draft =>
      simp only [Except.ok.injEq, exists_eq_left']
      cases finish draft <;> simp

end Decoder

end ChainRpc.Json
