import ChainRpc.Proofs.Json.Meaning
import ChainRpc.Proofs.Json.Strings
import ChainRpc.Proofs.Json.Trees
import ChainRpc.Proofs.Hash
import Mathlib.Data.List.Pairwise
import Mathlib.Tactic.MkIffOfInductiveProp

/-!
# Reading back what was printed

A decoder restores the values that fit when it reads each of them from what is printed for it and
reads no value that does not fit. So whatever text a value was read from, the text that is printed
for it is read as the same value. The decoders of single values restore, and so do lists of what
is restored and records whose parts are.
-/

namespace ChainRpc.Json.Decoder

variable {α β σ : Type}

/-- The decoder reads every value that fits from the tree that is printed for it, if there is room,
and reads no other values. -/
structure Restores (decoder : Decoder α) (print : α → Value) (Fits : α → Prop) : Prop where
  exact : ∀ a, (print a).IsExact
  read : ∀ {room a}, Fits a → (print a).depth ≤ room → decoder room (print a).tree = .ok a
  fits : ∀ {room node a}, decoder room node = .ok a → Fits a

section Restores

variable {decoder : Decoder α} {print : α → Value} {Fits : α → Prop}

/-- A value that fits is read from its text. -/
theorem Restores.ofText_text (hrestores : Restores decoder print Fits) {a : α} (hfits : Fits a)
    (hshallow : (print a).depth ≤ nestingLimit) : decoder.ofText (print a).text = .ok a := by
  rw [ofText_of_written decoder (Value.written_text (hrestores.exact a))]
  exact hrestores.read hfits hshallow

/-- Whatever is read from a text fits. -/
theorem Restores.fits_of_ofText (hrestores : Restores decoder print Fits) {raw : String} {a : α}
    (hread : decoder.ofText raw = .ok a) : Fits a := by
  obtain ⟨value, hread, hlast⟩ := bind_eq_ok_iff.mp hread
  split at hlast
  · cases hlast
    exact hrestores.fits hread
  · cases hlast

end Restores

/-! ### Single values -/

theorem restores_bool : Restores bool .bool fun _ => True where
  exact _ := Value.isExact_of_children nofun nofun
  read _ _ := rfl
  fits _ := trivial

theorem restores_string : Restores string .string fun _ => True where
  exact := Value.isExact_string
  read {_ text} _ _ := (spells_printed text).value
  fits _ := trivial

theorem restores_natural {bound : Nat} (hfits : bound ≤ 2 ^ 64) :
    Restores (natural bound) .nat (· < bound) where
  exact n := Value.isExact_of_children nofun nofun
  read hbelow _ := natural_eq_ok_iff.mpr
    ⟨_, rfl, Numeral.value?_ofNat (Nat.lt_of_lt_of_le hbelow hfits), hbelow⟩
  fits hread := by
    obtain ⟨-, -, -, hbelow⟩ := natural_eq_ok_iff.mp hread
    exact hbelow

theorem restores_nat32 : Restores nat32 .nat (· < 2 ^ 32) := restores_natural (by decide)

theorem restores_int64 : Restores int64 .int fun n => -2 ^ 63 ≤ n ∧ n < 2 ^ 63 where
  exact n := by
    unfold Value.int
    split <;> exact Value.isExact_of_children nofun nofun
  read {room n} hfits _ := by
    refine int64_eq_ok_iff.mpr ⟨?_, hfits⟩
    unfold Value.int
    split
    next hbelow =>
      have hvalue := Numeral.value?_ofNegative (n := n.natAbs) (by omega) (by omega)
      exact congrArg (Option.map Value.number) hvalue
    next habove =>
      have hvalue := Numeral.value?_ofNat (n := n.toNat) (by omega)
      exact congrArg (Option.map Value.number) hvalue
  fits hread := (int64_eq_ok_iff.mp hread).2

/-- What is read of a string is restored when it is from the text that is printed. -/
theorem restores_stringWith {read : String → Except Fault α} {text : α → String} {Fits : α → Prop}
    (hback : ∀ {a}, Fits a → read (text a) = .ok a) (hfits : ∀ {s a}, read s = .ok a → Fits a) :
    Restores (stringWith read) (fun a => .string (text a)) Fits where
  exact a := Value.isExact_string (text a)
  read {room a} hhere _ := by
    have hliteral : string room (Value.string (text a)).tree = .ok (text a) :=
      restores_string.read trivial (Nat.zero_le room)
    rw [stringWith, hliteral]
    exact hback hhere
  fits hreads := by
    obtain ⟨content, -, hreads⟩ := bind_eq_ok_iff.mp hreads
    exact hfits hreads

theorem restores_hash (size : Nat) :
    Restores (hash size) (fun h => .string h.toHex) fun _ => True :=
  restores_stringWith (fun {h} _ => congrArg (Except.mapError _)
    (Hash.ofHex_of_spells (Text.Hex.spells_encode h.bytes))) fun _ => trivial

theorem restores_blob : Restores blob (fun b => .string b.toHex) fun _ => True :=
  restores_stringWith (fun {b} _ => congrArg (Except.mapError _)
    (Blob.ofHex_of_spells (Text.Hex.spells_encode b.bytes))) fun _ => trivial

/-! ### Lists and values that may be missing -/

section Inner

variable {decoder : Decoder α} {print : α → Value} {Fits : α → Prop}

theorem items_itemsTree (hrestores : Restores decoder print Fits) {room : Nat} {values : List α}
    (hfits : ∀ a ∈ values, Fits a) (hshallow : itemsDepth (values.map print) ≤ room) :
    items decoder room (itemsTree (values.map print)) = .ok values := by
  induction values with
  | nil => rfl
  | cons a values ih =>
      obtain ⟨hhere, hothers⟩ := List.forall_mem_cons.mp hfits
      obtain ⟨hfirst, hlater⟩ := Nat.max_le.mp hshallow
      simp only [List.map_cons, itemsTree, items, hrestores.read hhere hfirst, ih hothers hlater,
        bind, Except.bind, pure, Except.pure]

theorem fits_of_items (hrestores : Restores decoder print Fits) {room : Nat} :
    ∀ {members : Items} {values : List α}, items decoder room members = .ok values →
      ∀ a ∈ values, Fits a
  | .close _, values, hread => by
      cases hread
      nofun
  | .item _ _ _ rest, values, hread => by
      obtain ⟨first, hhere, hread⟩ := bind_eq_ok_iff.mp hread
      obtain ⟨others, hlater, hread⟩ := bind_eq_ok_iff.mp hread
      cases hread
      exact List.forall_mem_cons.mpr ⟨hrestores.fits hhere, fits_of_items hrestores hlater⟩
  | .cut, values, hread => by cases hread

theorem Restores.list (hrestores : Restores decoder print Fits) :
    Restores (list decoder) (fun values => .array (values.map print))
      fun values => ∀ a ∈ values, Fits a where
  exact values := by
    apply Value.isExact_array
    intro item hmem
    obtain ⟨a, -, rfl⟩ := List.mem_map.mp hmem
    exact hrestores.exact a
  read {room values} hfits hshallow := by
    cases room with
    | zero => cases hshallow
    | succ room => exact items_itemsTree hrestores hfits (Nat.le_of_succ_le_succ hshallow)
  fits {room node values} hread := by
    cases room with
    | zero => cases node <;> cases hread
    | succ room =>
        cases node with
        | array members => exact fits_of_items hrestores hread
        | _ => cases hread

/-- A value that is never printed as `null` may be missing. -/
theorem Restores.nullable (hrestores : Restores decoder print Fits)
    (hpresent : ∀ a, (print a).tree ≠ .null) :
    Restores (nullable decoder) (fun value => value.elim .null print)
      fun value => ∀ a ∈ value, Fits a where
  exact value := by
    cases value with
    | none => exact Value.isExact_of_children nofun nofun
    | some a => exact hrestores.exact a
  read {room value} hfits hshallow := by
    rw [nullable_eq_ok_iff]
    cases value with
    | none => exact .inl ⟨rfl, rfl⟩
    | some a => exact .inr ⟨hpresent a, a, hrestores.read (hfits a rfl) hshallow, rfl⟩
  fits hread := by
    obtain ⟨-, rfl⟩ | ⟨-, a, hinner, rfl⟩ := nullable_eq_ok_iff.mp hread
    · nofun
    · rintro _ ⟨⟩
      exact hrestores.fits hinner

end Inner

/-! ### Records -/

/-- A part of a record: its place in the draft, the decoder that restores it, and what it is in a
record. -/
structure Part (α σ : Type) where
  {β : Type}
  name : String
  get : σ → Option β
  set : σ → β → σ
  value : α → β
  {decoder : Decoder β}
  {print : β → Value}
  {Fits : β → Prop}
  get_set : ∀ draft b, get (set draft b) = some b
  restores : Restores decoder print Fits

namespace Part

/-- The field that reads the part. -/
def field (part : Part α σ) : Field σ := Decoder.field part.name part.get part.set part.decoder

/-- The member that is printed for the part. -/
def member (a : α) (part : Part α σ) : String × Value := (part.name, part.print (part.value a))

/-- The draft with the part of a record. -/
def put (a : α) (draft : σ) (part : Part α σ) : σ := part.set draft (part.value a)

/-- Two parts have names and places of their own. -/
@[mk_iff]
structure Apart (part other : Part α σ) : Prop where
  name : part.name ≠ other.name
  get : ∀ draft b, other.get (part.set draft b) = other.get draft
  get' : ∀ draft b, part.get (other.set draft b) = part.get draft

instance : Std.Symm (Part.Apart : Part α σ → Part α σ → Prop) where
  symm _ _ hapart := ⟨hapart.name.symm, hapart.get', hapart.get⟩

end Part

/-- A field that may be missing fits if what is read of it does and the value in its place does. -/
theorem fits_getD {Fits : α → Prop} {field : Option α} {missing : α}
    (hsuits : ∀ a, field = some a → Fits a) (hfits : Fits missing) : Fits (field.getD missing) := by
  cases field with
  | none => exact hfits
  | some a => exact hsuits a rfl

section Record

variable {parts : List (Part α σ)} {room : Nat}

/-- What the draft holds of each part fits it. -/
def Suits (parts : List (Part α σ)) (draft : σ) : Prop :=
  ∀ part ∈ parts, ∀ b, part.get draft = some b → part.Fits b

theorem find?_part (hapart : parts.Pairwise Part.Apart) {part : Part α σ} (hmem : part ∈ parts) :
    (parts.map Part.field).find? (·.name = part.name) = some part.field := by
  have hdistinct : ((parts.map Part.field).map Field.name).Nodup := by
    rw [List.map_map]
    exact List.pairwise_map.mpr (hapart.imp fun hapart => hapart.name)
  have hwithin : part.field ∈ parts.map Part.field := List.mem_map_of_mem hmem
  exact find?_of_distinct hdistinct hwithin

/-- The printed members of some parts are read into their places. -/
theorem storeMembers_printed {fields : List (Field σ)} (a : α) {draft : σ}
    (hapart : parts.Pairwise Part.Apart)
    (hknown : ∀ part ∈ parts, fields.find? (·.name = part.name) = some part.field)
    (hblank : ∀ part ∈ parts, part.get draft = none)
    (hread : ∀ part ∈ parts,
      part.decoder room (part.print (part.value a)).tree = .ok (part.value a)) :
    storeMembers fields room (membersTree (parts.map (Part.member a))) draft =
      .ok (parts.foldl (Part.put a) draft) := by
  induction parts generalizing draft with
  | nil => rfl
  | cons part parts ih =>
      obtain ⟨hfirst, hapart⟩ := List.pairwise_cons.mp hapart
      obtain ⟨hfound, hknown⟩ := List.forall_mem_cons.mp hknown
      obtain ⟨hunset, hblank⟩ := List.forall_mem_cons.mp hblank
      obtain ⟨hhere, hread⟩ := List.forall_mem_cons.mp hread
      have hlater : ∀ other ∈ parts, other.get (part.put a draft) = none := fun other hmem =>
        ((hfirst other hmem).get draft (part.value a)).trans (hblank other hmem)
      rw [List.map_cons, List.foldl_cons, ← ih hapart hknown hlater hread]
      exact storeMembers_known (spells_printed part.name).value hfound hunset hhere

/-- Reading a part keeps what the draft holds suited. -/
theorem Suits.store (hapart : parts.Pairwise Part.Apart) {part : Part α σ} (hmem : part ∈ parts)
    {node : Node} {draft after : σ} (hstored : part.field.store room node draft = .ok after)
    (hsuits : Suits parts draft) : Suits parts after := by
  obtain ⟨b, hread, rfl⟩ := store_field_eq_ok.mp hstored
  intro other hhere b' hheld
  by_cases hsame : part = other
  · subst hsame
    rw [part.get_set draft b, Option.some.injEq] at hheld
    exact hheld ▸ part.restores.fits hread
  · rw [(hapart.forall hmem hhere hsame).get] at hheld
    exact hsuits other hhere b' hheld

theorem Suits.storeMembers (hapart : parts.Pairwise Part.Apart) {members : Members}
    {draft after : σ}
    (hread : storeMembers (parts.map Part.field) room members draft = .ok after)
    (hsuits : Suits parts draft) : Suits parts after := by
  induction members using Members.rest_induction generalizing draft with
  | close gap =>
      cases hread
      exact hsuits
  | cut => cases hread
  | member before key left right value gap rest ih =>
      obtain ⟨text, -, hfurther⟩ := storeMembers_member_eq_ok_iff.mp hread
      obtain ⟨field, middle, hfound, -, hstored, hread⟩ | ⟨-, -, hread⟩ := hfurther
      · obtain ⟨part, hmem, rfl⟩ := List.mem_map.mp (List.mem_of_find?_eq_some hfound)
        exact ih hread (hsuits.store hapart hmem hstored)
      · exact ih hread hsuits

/-- Items go to the parts in their order, so those still to come are some of the parts. -/
theorem Suits.storeItems (hapart : parts.Pairwise Part.Apart) :
    ∀ {items : Items} {later : List (Part α σ)} {draft after : σ}, later ⊆ parts →
      storeItems room items (later.map Part.field) draft = .ok after →
      Suits parts draft → Suits parts after
  | .close _, _, draft, after, _, hread, hsuits => by
      simp only [Decoder.storeItems, Except.ok.injEq] at hread
      exact hread ▸ hsuits
  | .item .., [], draft, after, _, hread, _ => by cases hread
  | .item _ _ _ rest, part :: later, draft, after, hamong, hread, hsuits => by
      obtain ⟨middle, hstored, hread⟩ := storeItems_item_eq_ok_iff.mp hread
      obtain ⟨hmem, hamong⟩ := List.cons_subset.mp hamong
      exact storeItems hapart hamong hread (hsuits.store hapart hmem hstored)
  | .cut, later, draft, after, _, hread, _ => by
      simp [Decoder.storeItems] at hread

/-- A record, of which some parts may not be shown, is restored when its parts are, when those that
are shown make the record, and when what is read of a record fits as soon as what is read of its
parts does. -/
theorem restores_record_of_shown (parts : List (Part α σ)) {empty : σ} {finish : σ → Option α}
    {Fits : α → Prop} (shown : α → List (Part α σ)) (hamong : ∀ a, (shown a).Sublist parts)
    (hapart : parts.Pairwise Part.Apart) (hblank : ∀ part ∈ parts, part.get empty = none)
    (hfinished : ∀ a, finish ((shown a).foldl (Part.put a) empty) = some a)
    (hfits : ∀ a, Fits a → ∀ part ∈ parts, part.Fits (part.value a))
    (hsuited : ∀ draft a, finish draft = some a → Suits parts draft → Fits a) :
    Restores (record (parts.map Part.field) empty finish)
      (fun a => .object ((shown a).map (Part.member a))) Fits where
  exact a := by
    apply Value.isExact_object
    intro value hmem
    obtain ⟨part, -, rfl⟩ := List.mem_map.mp (List.map_map ▸ hmem)
    exact part.restores.exact _
  read {room a} hhere hshallow := by
    cases room with
    | zero => cases hshallow
    | succ room =>
        have hmem {part : Part α σ} (hshows : part ∈ shown a) : part ∈ parts :=
          (hamong a).subset hshows
        have hread : ∀ part ∈ shown a,
            part.decoder room (part.print (part.value a)).tree = .ok (part.value a) := by
          intro part hshows
          apply part.restores.read (hfits a hhere part (hmem hshows))
          have hwithin : part.member a ∈ (shown a).map (Part.member a) := List.mem_map_of_mem hshows
          exact Nat.le_trans (depth_le_membersDepth hwithin) (Nat.le_of_succ_le_succ hshallow)
        have hstored := storeMembers_printed a (hapart.sublist (hamong a))
          (fun part hshows => find?_part hapart (hmem hshows))
          (fun part hshows => hblank part (hmem hshows)) hread
        exact record_object_eq_ok_iff.mpr ⟨_, hstored, hfinished a⟩
  fits {room node a} hread := by
    have hsuits : Suits parts empty := by
      intro part hmem b hheld
      rw [hblank part hmem] at hheld
      cases hheld
    cases room with
    | zero => cases node <;> cases hread
    | succ room =>
        cases node with
        | object members =>
            obtain ⟨draft, hread, hdone⟩ := record_object_eq_ok_iff.mp hread
            exact hsuited draft a hdone (hsuits.storeMembers hapart hread)
        | array items =>
            obtain ⟨draft, hread, hdone⟩ := record_array_eq_ok_iff.mp hread
            exact hsuited draft a hdone (hsuits.storeItems hapart (List.Subset.refl parts) hread)
        | _ => cases hread

/-- A record all of whose parts are shown. -/
theorem restores_record (parts : List (Part α σ)) {empty : σ} {finish : σ → Option α}
    {Fits : α → Prop} (hapart : parts.Pairwise Part.Apart)
    (hblank : ∀ part ∈ parts, part.get empty = none)
    (hfinished : ∀ a, finish (parts.foldl (Part.put a) empty) = some a)
    (hfits : ∀ a, Fits a → ∀ part ∈ parts, part.Fits (part.value a))
    (hsuited : ∀ draft a, finish draft = some a → Suits parts draft → Fits a) :
    Restores (record (parts.map Part.field) empty finish)
      (fun a => .object (parts.map (Part.member a))) Fits :=
  restores_record_of_shown parts (fun _ => parts) (fun _ => List.Sublist.refl parts) hapart hblank
    hfinished hfits hsuited

/-! ### Members in any order -/

theorem apart_of_parts (hapart : parts.Pairwise Part.Apart) :
    Decoder.Apart (parts.map Part.field) := by
  apply Apart.of_places
  · rw [List.map_map]
    exact List.pairwise_map.mpr (hapart.imp fun hapart => hapart.name)
  · intro field hmem
    obtain ⟨part, -, rfl⟩ := List.mem_map.mp hmem
    exact field_hasPlace part.get_set
  · intro field hmem other hmem' hdifferent room node draft after hstored
    obtain ⟨part, hhere, rfl⟩ := List.mem_map.mp hmem
    obtain ⟨part', hhere', rfl⟩ := List.mem_map.mp hmem'
    obtain ⟨b, -, rfl⟩ := store_field_eq_ok.mp hstored
    have hdistinct : part ≠ part' := fun hsame => hdifferent (hsame ▸ rfl)
    exact congrArg Option.isSome ((hapart.forall hhere hhere' hdistinct).get draft b)

theorem owns_part (hapart : parts.Pairwise Part.Apart) {part : Part α σ} (hmem : part ∈ parts) :
    Owns (parts.map Part.field) part.name part.get part.decoder := by
  apply (apart_of_parts hapart).owns (List.mem_map_of_mem hmem) part.get_set
  intro field hmem' hdifferent room node draft after hstored
  obtain ⟨other, hhere, rfl⟩ := List.mem_map.mp hmem'
  obtain ⟨b, -, rfl⟩ := store_field_eq_ok.mp hstored
  have hdistinct : other ≠ part := fun hsame => hdifferent (hsame ▸ rfl)
  exact (hapart.forall hhere hmem hdistinct).get draft b

/-- Every part takes what the member of its name says, in whatever order the members are written. -/
theorem storeMembers_parts (hapart : parts.Pairwise Part.Apart) {members : Members} {empty : σ}
    (hwhole : members.isWhole = true) (htexts : none ∉ members.keys)
    (honce : ∀ part ∈ parts, members.Once part.name)
    (hblank : ∀ part ∈ parts, part.get empty = none)
    (hread : ∀ part ∈ parts, ∀ node, members.find? part.name = some node →
      ∃ b, part.decoder room node = .ok b) :
    ∃ draft, storeMembers (parts.map Part.field) room members empty = .ok draft ∧
      ∀ part ∈ parts, ∀ b, part.get draft = some b ↔
        ∃ node, members.find? part.name = some node ∧ part.decoder room node = .ok b := by
  have hreadable : ∃ draft, storeMembers (parts.map Part.field) room members empty = .ok draft := by
    apply storeMembers_isOk (apart_of_parts hapart) hwhole htexts
    · intro field hmem
      obtain ⟨part, hhere, rfl⟩ := List.mem_map.mp hmem
      exact honce part hhere
    · intro field hmem _
      obtain ⟨part, hhere, rfl⟩ := List.mem_map.mp hmem
      exact congrArg Option.isSome (hblank part hhere)
    · intro field hmem node hfound
      obtain ⟨part, hhere, rfl⟩ := List.mem_map.mp hmem
      exact (accepts_field_iff empty).mpr (hread part hhere node hfound)
  obtain ⟨draft, hstored⟩ := hreadable
  refine ⟨draft, hstored, fun part hmem b => ?_⟩
  exact storeMembers_get_eq_some_iff (owns_part hapart hmem) (honce part hmem)
    (hblank part hmem) hstored

end Record

end ChainRpc.Json.Decoder
