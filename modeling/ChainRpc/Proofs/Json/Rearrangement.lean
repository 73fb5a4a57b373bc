import ChainRpc.Proofs.Json.Blanks
import ChainRpc.Proofs.Json.Careful
import Mathlib.Logic.Relation

/-!
# Rearranged objects

The members of an object may change places, members that no field asks for may come and go, and
the blanks around the members and in them may change. Members that differ so are rearranged. A
record whose fields do not get in each other's way reads rearranged members alike: the same
value, or no value. The items of an array go by their places, so that only the blanks around them
and in them may change.
-/

namespace ChainRpc.Json

namespace Members

/-- One change to the members of an object that has the fields `known`. The value of a member may
be rewritten as its name allows. -/
inductive Edit (known : List String) (rewrites : Option String → Node → Node → Prop) :
    Members → Members → Prop
  /-- Two neighbours change places. -/
  | swap {before key left right value after before' key' left' right' value' after' rest} :
      Edit known rewrites
        (.member before key left right value after
          (.member before' key' left' right' value' after' rest))
        (.member before' key' left' right' value' after'
          (.member before key left right value after rest))
  /-- A member that no field asks for comes in. -/
  | insert {before key left right value after rest name} (htext : stringValue key = .ok name)
      (hunknown : name ∉ known) (hwhole : value.isWhole = true) :
      Edit known rewrites rest (.member before key left right value after rest)
  /-- The blanks of a member change. -/
  | blanks {before left right after before' left' right' after' key value rest} :
      Edit known rewrites (.member before key left right value after rest)
        (.member before' key left' right' value after' rest)
  /-- The blanks before the closing brace change. -/
  | gap {gap gap'} : Edit known rewrites (.close gap) (.close gap')
  /-- The value of a member is rewritten. -/
  | rewrite {before key left right value value' after rest}
      (hallowed : rewrites (stringValue key).toOption value value') :
      Edit known rewrites (.member before key left right value after rest)
        (.member before key left right value' after rest)
  /-- Something changes behind the first member. -/
  | later {before key left right value after rest rest'} (hedit : Edit known rewrites rest rest') :
      Edit known rewrites (.member before key left right value after rest)
        (.member before key left right value after rest')

/-- The members differ by changes, each of them made or undone. -/
abbrev Rearranged (known : List String) (rewrites : Option String → Node → Node → Prop) :
    Members → Members → Prop := Relation.EqvGen (Edit known rewrites)

section Rearranged

variable {known : List String} {rewrites : Option String → Node → Node → Prop}

theorem Rearranged.later {before left right after : List Char} {key : List Piece} {value : Node}
    {rest rest' : Members} (hrearranged : Rearranged known rewrites rest rest') :
    Rearranged known rewrites (.member before key left right value after rest)
      (.member before key left right value after rest') := by
  induction hrearranged with
  | rel rest rest' hedit => exact .rel _ _ (.later hedit)
  | refl => exact .refl _
  | symm rest rest' _ hchanged => exact hchanged.symm
  | trans first second third _ _ hchanged hchanged' => exact hchanged.trans _ _ _ hchanged'

/-- A member with the blanks around its tokens. -/
structure Entry where
  before : List Char
  key : List Piece
  left : List Char
  right : List Char
  value : Node
  after : List Char

/-- The members of an object that has these and no others. -/
def ofEntries : List Entry → Members
  | [] => .close []
  | e :: entries => .member e.before e.key e.left e.right e.value e.after (ofEntries entries)

/-- Any order of the members is reached by changing places. -/
theorem rearranged_of_perm {entries entries' : List Entry} (hperm : entries.Perm entries') :
    Rearranged known rewrites (ofEntries entries) (ofEntries entries') := by
  induction hperm with
  | nil => exact .refl _
  | cons entry _ hrearranged => exact hrearranged.later
  | swap first second entries => exact .rel _ _ .swap
  | trans _ _ hrearranged hrearranged' => exact hrearranged.trans _ _ _ hrearranged'

end Rearranged

end Members

/-- The items stand in the same places. The value of an item may be rewritten as the name of its
place allows; behind the places that have names only blanks may change. -/
inductive Items.Respaced (rewrites : Option String → Node → Node → Prop) :
    List String → Items → Items → Prop
  | close {names gap gap'} : Respaced rewrites names (.close gap) (.close gap')
  | item {name names before before' value value' after after' rest rest'}
      (hallowed : rewrites (some name) value value') (hlater : Respaced rewrites names rest rest') :
      Respaced rewrites (name :: names) (.item before value after rest)
        (.item before' value' after' rest')
  | extra {before before' value value' after after' rest rest'} (hsame : value.SameTokens value')
      (hlater : Respaced rewrites [] rest rest') :
      Respaced rewrites [] (.item before value after rest) (.item before' value' after' rest')

namespace Decoder

variable {α β σ : Type} {fields : List (Field σ)} {room : Nat}

/-- What one member does to a draft. -/
def storeMember (fields : List (Field σ)) (room : Nat) (key : List Piece) (value : Node)
    (draft : σ) : Except Fault σ := do
  let text ← stringValue key
  match fields.find? (·.name = text) with
  | some field => if field.isSet draft then .error .shape else field.store room value draft
  | none => if value.isWhole then .ok draft else .error .shape

theorem storeMembers_member (before left right gap : List Char) (key : List Piece) (value : Node)
    (rest : Members) (draft : σ) :
    storeMembers fields room (.member before key left right value gap rest) draft =
      storeMember fields room key value draft >>= fun middle =>
        storeMembers fields room rest middle := by
  rw [storeMembers, storeMember]
  cases stringValue key with
  | error fault => rfl
  | ok text =>
      simp only [bind, Except.bind]
      cases fields.find? (·.name = text) with
      | some field => cases hset : field.isSet draft <;> simp [hset]
      | none => cases value.isWhole <;> rfl

theorem storeMember_eq_ok_iff {key : List Piece} {value : Node} {draft after : σ} :
    storeMember fields room key value draft = .ok after ↔
      ∃ text, stringValue key = .ok text ∧
        ((∃ field, fields.find? (·.name = text) = some field ∧ field.isSet draft = false ∧
            field.store room value draft = .ok after) ∨
          (fields.find? (·.name = text) = none ∧ value.isWhole = true ∧ draft = after)) := by
  unfold storeMember
  cases stringValue key with
  | error fault => simp [bind, Except.bind]
  | ok text =>
      simp only [bind, Except.bind, Except.ok.injEq, exists_eq_left']
      cases fields.find? (·.name = text) with
      | some field => cases hset : field.isSet draft <;> simp [hset]
      | none => cases hwhole : value.isWhole <;> simp

theorem storeMember_unknown {key : List Piece} {value : Node} {draft : σ} {name : String}
    (htext : stringValue key = .ok name) (hunknown : name ∉ fields.map Field.name)
    (hwhole : value.isWhole = true) : storeMember fields room key value draft = .ok draft := by
  have habsent : fields.find? (·.name = name) = none := by
    simpa using hunknown
  exact storeMember_eq_ok_iff.mpr ⟨name, htext, .inr ⟨habsent, hwhole, rfl⟩⟩

/-- Fields of which it does not matter which one is read first. -/
structure Interchangeable (fields : List (Field σ)) : Prop extends Apart fields where
  careful : ∀ field ∈ fields, field.Careful
  comm : ∀ first ∈ fields, ∀ second ∈ fields, first.name ≠ second.name →
    ∀ room value value' draft,
      first.store room value draft >>= second.store room value'
        = second.store room value' draft >>= first.store room value

/-- Fields with places of their own can be read in either order. -/
theorem store_comm {decoder : Decoder α} {decoder' : Decoder β} (hcareful : Careful decoder)
    (hcareful' : Careful decoder') {name name' : String} {get : σ → Option α} {set : σ → α → σ}
    {get' : σ → Option β} {set' : σ → β → σ}
    (hcomm : ∀ draft a b, set' (set draft a) b = set (set' draft b) a) (value value' : Node)
    (draft : σ) :
    (field name get set decoder).store room value draft
        >>= (field name' get' set' decoder').store room value' =
      (field name' get' set' decoder').store room value' draft
        >>= (field name get set decoder).store room value := by
  have hplain := hcareful.plain room value
  have hplain' := hcareful'.plain room value'
  simp only [field, bind, Except.bind]
  cases hread : decoder room value with
  | error fault =>
      cases hread' : decoder' room value' with
      | error fault' => simp [Except.map, hplain fault hread, hplain' fault' hread']
      | ok b => simp [Except.map]
  | ok a =>
      cases hread' : decoder' room value' with
      | error fault' => simp [Except.map]
      | ok b => simp [Except.map, hcomm]

section Interchangeable

variable (hfree : Interchangeable fields)

include hfree

theorem isPlain_storeMember (room : Nat) (key : List Piece) (value : Node) (draft : σ) :
    IsPlain (storeMember fields room key value draft) := by
  apply (isPlain_stringValue key).bind
  intro text
  split
  next field hfound =>
    split
    · simp
    · exact (hfree.careful field (name_of_find?_field hfound).1).plain room value draft
  next => split <;> simp

/-- What two members do together, the second can do before the first. -/
theorem storeMember_swap {key key' : List Piece} {value value' : Node} {draft after : σ}
    (hboth : storeMember fields room key value draft >>= storeMember fields room key' value'
      = .ok after) :
    storeMember fields room key' value' draft >>= storeMember fields room key value
      = .ok after := by
  obtain ⟨middle, hfirst, hsecond⟩ := bind_eq_ok_iff.mp hboth
  obtain ⟨text, htext, hfirst⟩ := storeMember_eq_ok_iff.mp hfirst
  obtain ⟨text', htext', hsecond⟩ := storeMember_eq_ok_iff.mp hsecond
  apply bind_eq_ok_iff.mpr
  obtain ⟨field, hfound, hunset, hstored⟩ | ⟨hunknown, hwhole, rfl⟩ := hfirst
  · obtain ⟨field', hfound', hunset', hstored'⟩ | ⟨hunknown', hwhole', rfl⟩ := hsecond
    · obtain ⟨hmem, rfl⟩ := name_of_find?_field hfound
      obtain ⟨hmem', rfl⟩ := name_of_find?_field hfound'
      have hdifferent : field.name ≠ field'.name := by
        intro hsame
        rw [hsame, hfound', Option.some.injEq] at hfound
        rw [hfound, hfree.sets field hmem hstored] at hunset'
        contradiction
      have hswapped := hfree.comm field hmem field' hmem' hdifferent room value value' draft
      rw [bind_eq_ok_iff.mpr ⟨middle, hstored, hstored'⟩] at hswapped
      obtain ⟨middle', hnow, hlater⟩ := bind_eq_ok_iff.mp hswapped.symm
      have hunset₁ : field'.isSet draft = false := by
        rwa [← hfree.others field hmem field' hmem' hdifferent.symm hstored]
      have hunset₂ : field.isSet middle' = false := by
        rwa [hfree.others field' hmem' field hmem hdifferent hnow]
      exact ⟨middle', storeMember_eq_ok_iff.mpr ⟨_, htext', .inl ⟨field', hfound', hunset₁, hnow⟩⟩,
        storeMember_eq_ok_iff.mpr ⟨_, htext, .inl ⟨field, hfound, hunset₂, hlater⟩⟩⟩
    · exact ⟨draft, storeMember_eq_ok_iff.mpr ⟨text', htext', .inr ⟨hunknown', hwhole', rfl⟩⟩,
        storeMember_eq_ok_iff.mpr ⟨text, htext, .inl ⟨field, hfound, hunset, hstored⟩⟩⟩
  · exact ⟨after, storeMember_eq_ok_iff.mpr ⟨text', htext', hsecond⟩,
      storeMember_eq_ok_iff.mpr ⟨text, htext, .inr ⟨hunknown, hwhole, rfl⟩⟩⟩

theorem storeMember_comm (room : Nat) (key key' : List Piece) (value value' : Node) (draft : σ) :
    storeMember fields room key value draft >>= storeMember fields room key' value' =
      storeMember fields room key' value' draft >>= storeMember fields room key value := by
  have hplain (key : List Piece) (value : Node) (draft : σ) :=
    isPlain_storeMember hfree room key value draft
  apply IsPlain.eq
  · exact (hplain key value draft).bind (hplain key' value')
  · exact (hplain key' value' draft).bind (hplain key value)
  · exact fun after => ⟨storeMember_swap hfree, storeMember_swap hfree⟩

end Interchangeable

/-- The field reads a value as before when it is rewritten. -/
def Field.Overlooks (field : Field σ) (rewrites : Option String → Node → Node → Prop) : Prop :=
  ∀ {value value'}, rewrites (some field.name) value value' →
    ∀ room draft, field.store room value draft = field.store room value' draft

theorem overlooks_field {rewrites : Option String → Node → Node → Prop} {decoder : Decoder α}
    {name : String} (hsame : ∀ {value value'}, rewrites (some name) value value' →
      ∀ room, decoder room value = decoder room value')
    (get : σ → Option α) (set : σ → α → σ) : (field name get set decoder).Overlooks rewrites :=
  fun hallowed room draft => congrArg (Except.map (set draft)) (hsame hallowed room)

/-- Nothing that is read changes when values are rewritten. -/
structure Unnoticed (fields : List (Field σ)) (rewrites : Option String → Node → Node → Prop) :
    Prop where
  known : ∀ field ∈ fields, field.Overlooks rewrites
  unknown : ∀ {name value value'}, rewrites name value value' →
    (∀ field ∈ fields, some field.name ≠ name) → value.isWhole = value'.isWhole

theorem Unnoticed.storeMember {rewrites : Option String → Node → Node → Prop}
    (hunnoticed : Unnoticed fields rewrites) {key : List Piece} {value value' : Node}
    (hallowed : rewrites (stringValue key).toOption value value') (draft : σ) :
    storeMember fields room key value draft = storeMember fields room key value' draft := by
  unfold Decoder.storeMember
  cases htext : stringValue key with
  | error fault => rfl
  | ok text =>
      rw [htext] at hallowed
      simp only [bind, Except.bind]
      cases hfound : fields.find? (·.name = text) with
      | some field =>
          obtain ⟨hmem, rfl⟩ := name_of_find?_field hfound
          simp only [hunnoticed.known field hmem hallowed]
      | none =>
          have hother : ∀ field ∈ fields, some field.name ≠ some text := by
            simpa using hfound
          simp only [hunnoticed.unknown hallowed hother]

/-- One change to the members does not change what is read. -/
theorem storeMembers_edit (hfree : Interchangeable fields)
    {rewrites : Option String → Node → Node → Prop} (hunnoticed : Unnoticed fields rewrites)
    {members members' : Members}
    (hedit : Members.Edit (fields.map Field.name) rewrites members members') (draft : σ) :
    storeMembers fields room members draft = storeMembers fields room members' draft := by
  induction hedit generalizing draft with
  | @swap before key left right value after before' key' left' right' value' after' rest =>
      simp only [storeMembers_member]
      have hswapped := congrArg (· >>= fun middle => storeMembers fields room rest middle)
        (storeMember_comm hfree room key key' value value' draft)
      simpa only [bind_assoc] using hswapped
  | insert htext hunknown hwhole =>
      rw [storeMembers_member, storeMember_unknown htext hunknown hwhole]
      rfl
  | blanks => simp only [storeMembers_member]
  | gap => rfl
  | rewrite hallowed => simp only [storeMembers_member, hunnoticed.storeMember hallowed]
  | later hedit ih =>
      simp only [storeMembers_member]
      congr 1
      funext middle
      exact ih middle

/-- However the members are rearranged, the same is read from them. -/
theorem storeMembers_rearranged (hfree : Interchangeable fields)
    {rewrites : Option String → Node → Node → Prop} (hunnoticed : Unnoticed fields rewrites)
    {members members' : Members}
    (hrearranged : Members.Rearranged (fields.map Field.name) rewrites members members')
    (draft : σ) :
    storeMembers fields room members draft = storeMembers fields room members' draft := by
  induction hrearranged with
  | rel members members' hedit => exact storeMembers_edit hfree hunnoticed hedit draft
  | refl => rfl
  | symm members members' _ hsame => exact hsame.symm
  | trans first second third _ _ hsame hsame' => exact hsame.trans hsame'

/-- Blanks around and in the items do not change what is read. -/
theorem storeItems_respaced {rewrites : Option String → Node → Node → Prop} {items items' : Items}
    {names : List String} (hrespaced : Items.Respaced rewrites names items items')
    {fields : List (Field σ)} (hnamed : fields.map Field.name = names)
    (hoverlooked : ∀ field ∈ fields, field.Overlooks rewrites) (draft : σ) :
    storeItems room items fields draft = storeItems room items' fields draft := by
  induction hrespaced generalizing fields draft with
  | close => rfl
  | extra =>
      obtain rfl := List.map_eq_nil_iff.mp hnamed
      rfl
  | item hallowed _ ih =>
      obtain ⟨first, others, rfl, rfl, hbehind⟩ := List.map_eq_cons_iff.mp hnamed
      obtain ⟨hnow, hothersOverlooked⟩ := List.forall_mem_cons.mp hoverlooked
      simp only [storeItems, hnow hallowed]
      congr 1
      funext middle
      exact ih hbehind hothersOverlooked middle

theorem record_rearranged (hfree : Interchangeable fields)
    {rewrites : Option String → Node → Node → Prop} (hunnoticed : Unnoticed fields rewrites)
    {members members' : Members}
    (hrearranged : Members.Rearranged (fields.map Field.name) rewrites members members')
    (room : Nat) (empty : σ) (finish : σ → Option α) :
    record fields empty finish room (.object members)
      = record fields empty finish room (.object members') := by
  cases room with
  | zero => rfl
  | succ room => simp only [record, storeMembers_rearranged hfree hunnoticed hrearranged]

theorem record_respaced {rewrites : Option String → Node → Node → Prop} {items items' : Items}
    (hrespaced : Items.Respaced rewrites (fields.map Field.name) items items')
    (hoverlooked : ∀ field ∈ fields, field.Overlooks rewrites) (room : Nat) (empty : σ)
    (finish : σ → Option α) :
    record fields empty finish room (.array items)
      = record fields empty finish room (.array items') := by
  cases room with
  | zero => rfl
  | succ room => simp only [record, storeItems_respaced hrespaced rfl hoverlooked]

end Decoder

end ChainRpc.Json
