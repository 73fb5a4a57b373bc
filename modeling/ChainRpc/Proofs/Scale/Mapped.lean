import ChainRpc.Proofs.Scale.Delimited

/-!
# Mapped decoders

A mapped decoder takes the same bytes as the one it converts the values of, and fails where that
one does. This holds of its optional form as well when the decoder has the usual one, a presence
byte before the value, and of all formats only the boolean has another: its option is a byte of
three kinds, which is lost on a mapped boolean. So the identity can be mapped anywhere in a format,
but not between an option and a boolean.
-/

namespace ChainRpc.Scale

variable {α β : Type}

/-- The outcome of a read with its value converted. -/
def converted (f : α → β) : EStateM.Result Error Cursor α → EStateM.Result Error Cursor β
  | .ok value after => .ok (f value) after
  | .error error after => .error error after

/-- Two reads give the same value or fail alike, and leave the cursor in the same place. -/
def Alike : EStateM.Result Error Cursor α → EStateM.Result Error Cursor α → Prop
  | .ok value after, .ok value' after' => value = value' ∧ after = after'
  | .error _ after, .error _ after' => after = after'
  | _, _ => False

theorem Reader.map_apply (f : α → β) (read : Reader α) (cursor : Cursor) :
    (f <$> read) cursor = converted f (read cursor) := by
  change EStateM.map f read cursor = _
  unfold EStateM.map
  cases read cursor <;> rfl

namespace Decoder

/-- The optional form of the decoder is the usual one. -/
def IsUsual (decoder : Decoder α) : Prop :=
  decoder.readOptional = behindPresence decoder.read

/-- The value behind a presence byte is converted when there is one. -/
theorem behindPresence_map (f : α → β) (read : Reader α) :
    behindPresence (f <$> read) = Option.map f <$> behindPresence read := by
  unfold behindPresence
  rw [map_bind]
  refine bind_congr fun present => ?_
  split
  · rw [Functor.map_map, Functor.map_map]
    rfl
  · rw [map_pure]
    rfl

theorem read_map (f : α → β) (decoder : Decoder α) (cursor : Cursor) :
    (decoder.map f).read cursor = converted f (decoder.read cursor) :=
  Reader.map_apply f decoder.read cursor

/-- The optional form of a mapped decoder is the usual one of the decoder, converted. -/
theorem readOptional_map (f : α → β) (decoder : Decoder α) (cursor : Cursor) :
    (decoder.map f).readOptional cursor =
      converted (Option.map f) (behindPresence decoder.read cursor) := by
  rw [← Reader.map_apply, ← behindPresence_map]
  rfl

theorem IsUsual.readOptional_map {decoder : Decoder α} (husual : decoder.IsUsual) (f : α → β)
    (cursor : Cursor) :
    (decoder.map f).readOptional cursor =
      converted (Option.map f) (decoder.readOptional cursor) := by
  rw [husual]
  exact decoder.readOptional_map f cursor

end Decoder

/-- Only the boolean has an optional form of its own. -/
theorem Format.isUsual {format : Format .both} (hother : format ≠ .bool) :
    format.decoder.IsUsual := by
  cases format with
  | bool => exact absurd rfl hother
  | era hwriteOnly => cases hwriteOnly
  | _ => rfl

/-! ### Mapped items, held values and variants -/

/-- A list of mapped items is the mapped list. -/
theorem Reader.repeated_map (f : α → β) (item : Reader α) (count : Nat) :
    repeated count (f <$> item) = List.map f <$> repeated count item := by
  induction count with
  | zero => exact (map_pure (List.map f) []).symm
  | succ count ih =>
      simp only [repeated, ih, map_bind, map_pure, bind_map_left, List.map_cons]

namespace Decoder

theorem read_list_map (f : α → β) (item : Decoder α) (cursor : Cursor) :
    (list (item.map f)).read cursor = converted (List.map f) ((list item).read cursor) := by
  rw [← Reader.map_apply]
  refine congrFun ?_ cursor
  change (Compact.readLength >>= fun count => Reader.repeated count (f <$> item.read)) = _
  simp only [Reader.repeated_map]
  exact (map_bind ..).symm

/-- Each variant of a union may be mapped by a function of its own. -/
theorem read_union_map (count : Nat) (variant : Nat → Option (Reader α)) (f : Nat → α → β)
    (cursor : Cursor) :
    (union count fun tag => (variant tag).map (f tag <$> ·)).read cursor =
      converted (fun choice => f choice.1 choice.2)
        ((union count fun tag => (variant tag).map (Prod.mk tag <$> ·)).read cursor) := by
  rw [← Reader.map_apply]
  refine congrFun ?_ cursor
  change (Reader.byte >>= _) = _ <$> (Reader.byte >>= _)
  rw [map_bind]
  refine bind_congr fun tag => ?_
  cases hnamed : variant tag.toNat with
  | none =>
      simp only [hnamed, Option.map_none]
      rfl
  | some read =>
      simp only [hnamed, Option.map_some, Functor.map_map]

/-! ### The option of a boolean -/

theorem readBool_cons (position : Nat) (first : UInt8) (rest : List UInt8) :
    readBool ⟨position, first :: rest⟩ =
      if first = 0 then .ok false ⟨position + 1, rest⟩
      else if first = 1 then .ok true ⟨position + 1, rest⟩
      else .error (.malformed (.boolean first)) ⟨position + 1, rest⟩ := by
  change (if first = 0 then pure false else if first = 1 then pure true
    else Reader.fail (.malformed (.boolean first)) : Reader Bool) ⟨position + 1, rest⟩ = _
  split
  · rfl
  · split <;> rfl

theorem readTriState_cons (position : Nat) (first : UInt8) (rest : List UInt8) :
    readTriState ⟨position, first :: rest⟩ =
      if first = 0 then .ok none ⟨position + 1, rest⟩
      else if first = 1 then .ok (some false) ⟨position + 1, rest⟩
      else if first = 2 then .ok (some true) ⟨position + 1, rest⟩
      else .error (.malformed (.optionalBoolean first)) ⟨position + 1, rest⟩ := by
  change (if first = 0 then pure none else if first = 1 then pure (some false)
    else if first = 2 then pure (some true)
    else Reader.fail (.malformed (.optionalBoolean first)) : Reader (Option Bool))
      ⟨position + 1, rest⟩ = _
  split
  · rfl
  · split
    · rfl
    · split <;> rfl

theorem behindPresence_cons (read : Reader α) (position : Nat) (first : UInt8)
    (rest : List UInt8) :
    behindPresence read ⟨position, first :: rest⟩ =
      if first = 0 then .ok none ⟨position + 1, rest⟩
      else if first = 1 then converted some (read ⟨position + 1, rest⟩)
      else .error (.malformed (.boolean first)) ⟨position + 1, rest⟩ := by
  change EStateM.bind readBool _ _ = _
  rw [EStateM.bind, readBool_cons]
  by_cases hzero : first = 0
  · simp only [if_pos hzero]
    rfl
  · by_cases hone : first = 1
    · simp only [if_neg hzero, if_pos hone]
      exact Reader.map_apply some read _
    · simp only [if_neg hzero, if_neg hone]

/-- Of a boolean and a mapped boolean, the options agree but where the first of them finds one. -/
theorem alike_bool_map_iff (f : Bool → β) (cursor : Cursor) :
    Alike ((bool.map f).readOptional cursor)
        (converted (Option.map f) (bool.readOptional cursor)) ↔
      cursor.rest.head? ≠ some 1 ∧ cursor.rest.head? ≠ some 2 := by
  rw [readOptional_map]
  obtain ⟨position, - | ⟨first, rest⟩⟩ := cursor
  · exact iff_of_true rfl (by simp)
  · change Alike (converted _ (behindPresence readBool _)) (converted _ (readTriState _)) ↔ _
    rw [behindPresence_cons, readTriState_cons]
    by_cases hzero : first = 0
    · subst hzero
      simp [converted, Alike]
    · by_cases hone : first = 1
      · -- The mapped boolean needs a second byte, which the option of the other does not touch.
        subst hone
        rcases rest with - | ⟨second, rest⟩
        · exact iff_of_false id (by simp)
        · rw [readBool_cons]
          refine iff_of_false ?_ (by simp)
          simp only [if_neg hzero, if_true]
          split
          · rintro ⟨-, hmoved⟩
            simp at hmoved
          · split
            · rintro ⟨-, hmoved⟩
              simp at hmoved
            · exact id
      · by_cases htwo : first = 2
        · subst htwo
          simp [converted, Alike]
        · simp [hzero, hone, htwo, converted, Alike]

end Decoder

theorem Alike.refl (outcome : EStateM.Result Error Cursor α) : Alike outcome outcome := by
  cases outcome with
  | ok value after => exact ⟨rfl, rfl⟩
  | error error after => exact rfl

/-- The options of a format and of the mapped format are alike, but where the format is the boolean
and the next byte is the option of one. -/
theorem Format.alike_map_iff (format : Format .both) (f : format.Value → β) (cursor : Cursor) :
    Alike ((format.decoder.map f).readOptional cursor)
        (converted (Option.map f) (format.decoder.readOptional cursor)) ↔
      (format = .bool → cursor.rest.head? ≠ some 1 ∧ cursor.rest.head? ≠ some 2) := by
  by_cases hboolean : format = .bool
  · subst hboolean
    have hoptions := Decoder.alike_bool_map_iff f cursor
    exact ⟨fun halike _ => hoptions.mp halike, fun hapart => hoptions.mpr (hapart rfl)⟩
  · rw [(Format.isUsual hboolean).readOptional_map f cursor]
    exact iff_of_true (Alike.refl _) fun hsame => absurd hsame hboolean

/-! ### The identity anywhere in a format -/

mutual

/-- The format without its maps of the identity. -/
def Format.unmapped : Format .both → Format .both
  | .list item => .list item.unmapped
  | .option inner => .option inner.unmapped
  | .plain inner => inner.unmapped
  | .union variants => .union variants.unmapped
  | .word width => .word width
  | .compact type => .compact type
  | .bool => .bool
  | .triState => .triState
  | .bytes => .bytes
  | .text => .text
  | .hash size => .hash size
  | .fixed size => .fixed size
  | .era hwriteOnly => .era hwriteOnly

/-- The variants without their maps of the identity. -/
def Variants.unmapped : Variants .both → Variants .both
  | .nil => .nil
  | .cons first rest => .cons first.unmapped rest.unmapped

end

mutual

/-- Where an option stands around a boolean, nothing is mapped between them. -/
def Format.BareOptions : Format .both → Prop
  | .list item => item.BareOptions
  | .option inner => (inner.unmapped = .bool → inner = .bool) ∧ inner.BareOptions
  | .plain inner => inner.BareOptions
  | .union variants => variants.BareOptions
  | .word _ | .compact _ | .bool | .triState | .bytes | .text | .hash _ | .fixed _ | .era _ => True

/-- The same of each variant. -/
def Variants.BareOptions : Variants .both → Prop
  | .nil => True
  | .cons first rest => first.BareOptions ∧ rest.BareOptions

end

mutual

/-- The identity does not change the type of the values. -/
theorem Format.value_unmapped : (format : Format .both) → format.unmapped.Value = format.Value
  | .list item => congrArg List item.value_unmapped
  | .option inner => congrArg Option inner.value_unmapped
  | .plain inner => inner.value_unmapped
  | .union variants => variants.choice_unmapped
  | .word _ | .compact _ | .bool | .triState | .bytes | .text | .hash _ | .fixed _ | .era _ => rfl

theorem Variants.choice_unmapped :
    (variants : Variants .both) → variants.unmapped.Choice = variants.Choice
  | .nil => rfl
  | .cons first rest => by
      change (first.unmapped.Value ⊕ rest.unmapped.Choice) = (first.Value ⊕ rest.Choice)
      rw [first.value_unmapped, rest.choice_unmapped]

end

theorem Variants.count_unmapped : (variants : Variants .both) →
    variants.unmapped.count = variants.count
  | .nil => rfl
  | .cons _ rest => congrArg (· + 1) rest.count_unmapped

/-- The reads of the variants with one more in front. -/
def Variants.ahead (first : Reader α) (rest : Nat → Option (Reader β)) :
    Nat → Option (Reader (α ⊕ β))
  | 0 => some (Sum.inl <$> first)
  | tag + 1 => (rest tag).map (Sum.inr <$> ·)

theorem Variants.reader?_cons (first : Format .both) (rest : Variants .both) :
    (Variants.cons first rest).reader? = ahead first.decoder.read rest.reader? := by
  funext tag
  cases tag with
  | zero => rfl
  | succ tag =>
      simp only [reader?, ahead]
      cases rest.reader? tag <;> rfl

section Same

variable (hsame : α = β)

include hsame

theorem Decoder.heq_read_list {item : Decoder α} {item' : Decoder β}
    (h : HEq item.read item'.read) : HEq (list item).read (list item').read := by
  subst hsame
  rw [heq_eq_eq] at h ⊢
  simp only [list, ofRead, h]

theorem Decoder.heq_behindPresence {read : Reader α} {read' : Reader β} (h : HEq read read') :
    HEq (behindPresence read) (behindPresence read') := by
  subst hsame
  cases h
  rfl

theorem Decoder.heq_read_union {count : Nat} {variant : Nat → Option (Reader α)}
    {variant' : Nat → Option (Reader β)} (h : HEq variant variant') :
    HEq (union count variant).read (union count variant').read := by
  subst hsame
  cases h
  rfl

theorem Variants.heq_ahead {γ δ : Type} (hsame' : γ = δ) {first : Reader α} {first' : Reader β}
    {rest : Nat → Option (Reader γ)} {rest' : Nat → Option (Reader δ)} (h : HEq first first')
    (h' : HEq rest rest') : HEq (ahead first rest) (ahead first' rest') := by
  subst hsame hsame'
  cases h
  cases h'
  rfl

end Same

mutual

theorem Format.heq_read_unmapped : (format : Format .both) → format.BareOptions →
    HEq format.unmapped.decoder.read format.decoder.read
  | .list item, hbare => Decoder.heq_read_list item.value_unmapped (item.heq_read_unmapped hbare)
  | .option inner, ⟨hapart, hbare⟩ => by
      by_cases hother : inner = .bool
      · subst hother
        rfl
      · change HEq inner.unmapped.decoder.readOptional inner.decoder.readOptional
        rw [Format.isUsual hother, Format.isUsual fun hmapped => hother (hapart hmapped)]
        exact Decoder.heq_behindPresence inner.value_unmapped (inner.heq_read_unmapped hbare)
  | .plain inner, hbare => inner.heq_read_unmapped hbare
  | .union variants, hbare => by
      change HEq (Decoder.union variants.unmapped.count variants.unmapped.reader?).read _
      rw [variants.count_unmapped]
      exact Decoder.heq_read_union variants.choice_unmapped (variants.heq_reader?_unmapped hbare)
  | .word _, _ | .compact _, _ | .bool, _ | .triState, _ | .bytes, _ | .text, _ | .hash _, _
  | .fixed _, _ => HEq.rfl
  | .era hwriteOnly, _ => nomatch hwriteOnly

theorem Variants.heq_reader?_unmapped : (variants : Variants .both) → variants.BareOptions →
    HEq variants.unmapped.reader? variants.reader?
  | .nil, _ => HEq.rfl
  | .cons first rest, ⟨hbareFirst, hbareRest⟩ => by
      change HEq (Variants.cons first.unmapped rest.unmapped).reader? _
      rw [Variants.reader?_cons, Variants.reader?_cons]
      exact Variants.heq_ahead first.value_unmapped rest.choice_unmapped
        (first.heq_read_unmapped hbareFirst) (rest.heq_reader?_unmapped hbareRest)

end

/-- A mapped decoder takes what the decoder takes, fails where it fails and converts its values.
This holds of its optional form too when the decoder has the usual one, and every mapped decoder
has. Lists of mapped items and unions of mapped variants take what those of the decoders take. The
optional forms of a format and of the mapped format are alike, but for a boolean where the next byte
is the option of one. So the identity can be mapped anywhere in a format, unless that parts an
option from a boolean. -/
theorem mapping_keeps_what_is_read {α β : Type} (decoder : Decoder α) (f : α → β)
    (cursor : Cursor) :
    (decoder.map f).read cursor = converted f (decoder.read cursor) ∧
    (decoder.IsUsual → (decoder.map f).readOptional cursor =
      converted (Option.map f) (decoder.readOptional cursor)) ∧
    (decoder.map f).IsUsual ∧
    (Decoder.list (decoder.map f)).read cursor =
      converted (List.map f) ((Decoder.list decoder).read cursor) ∧
    (∀ (count : Nat) (variant : Nat → Option (Reader α)) (g : Nat → α → β),
      (Decoder.union count fun tag => (variant tag).map (g tag <$> ·)).read cursor =
        converted (fun choice => g choice.1 choice.2)
          ((Decoder.union count fun tag => (variant tag).map (Prod.mk tag <$> ·)).read cursor)) ∧
    (∀ (format : Format .both) (g : format.Value → β),
      Alike ((format.decoder.map g).readOptional cursor)
          (converted (Option.map g) (format.decoder.readOptional cursor)) ↔
        (format = .bool → cursor.rest.head? ≠ some 1 ∧ cursor.rest.head? ≠ some 2)) ∧
    ∀ format : Format .both, format.BareOptions →
      format.unmapped.Value = format.Value ∧
        HEq format.unmapped.decoder.read format.decoder.read := by
  refine ⟨decoder.read_map f cursor, fun husual => husual.readOptional_map f cursor, rfl,
    Decoder.read_list_map f decoder cursor,
    fun count variant g => Decoder.read_union_map count variant g cursor,
    fun format g => format.alike_map_iff g cursor, fun format hbare => ?_⟩
  exact ⟨format.value_unmapped, format.heq_read_unmapped hbare⟩

/-- The option of a list of booleans, mapped to the length of the list and with the identity
mapped to the booleans. -/
theorem mappedBooleans_keep :
    (Format.list .bool : Format .both).decoder.IsUsual ∧
      ((Format.list .bool : Format .both).decoder.map List.length).readOptional
        ⟨0, [1, 8, 1, 0, 7]⟩ = .ok (some 2) ⟨4, [7]⟩ ∧
      (Format.option (.list (.plain .bool))).BareOptions ∧
      HEq (Format.option (.list .bool)).decoder.read
        (Format.option (.list (.plain .bool))).decoder.read := by
  have husual : (Format.list .bool : Format .both).decoder.IsUsual := rfl
  have hbare : (Format.option (.list (.plain .bool))).BareOptions := ⟨nofun, trivial⟩
  obtain ⟨-, hkeeps, -, -, -, -, hidentity⟩ := mapping_keeps_what_is_read
    (Format.list .bool : Format .both).decoder List.length ⟨0, [1, 8, 1, 0, 7]⟩
  exact ⟨husual, hkeeps husual, hbare, (hidentity _ hbare).2⟩

/-- The byte 2 is the option of a boolean, and no option of a mapped boolean. -/
theorem mappedBoolean_loses_option :
    (Format.option .bool).decoder.read ⟨0, [2]⟩ = .ok (some true) ⟨1, []⟩ ∧
      (Format.option (.plain .bool)).decoder.read ⟨0, [2]⟩ =
        .error (.malformed (.boolean 2)) ⟨1, []⟩ ∧
      ¬ ∀ (decoder : Decoder Bool) (cursor : Cursor),
        Alike ((decoder.map id).readOptional cursor)
          (converted (Option.map id) (decoder.readOptional cursor)) := by
  refine ⟨rfl, rfl, fun halike => ?_⟩
  exact halike Decoder.bool ⟨0, [2]⟩

end ChainRpc.Scale
