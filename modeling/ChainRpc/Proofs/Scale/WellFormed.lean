import ChainRpc.Proofs.Scale.Agreement

/-!
# Well-formed values

A value is well formed for a format when each of its integers belongs to its type and is not
negative, each byte string of a fixed length has that length, each length can be counted in 64
bits, and each choice is one of the declared variants under a tag of one byte. Decoders and
encoders of all formats agree on the well-formed values.
-/

namespace ChainRpc.Scale

mutual

/-- The value fits its format. -/
def Format.WellFormed {side : Side} : (format : Format side) → format.Value → Prop
  | .word width, (value : Int) => 0 ≤ value ∧ value < (IntType.unsigned width).bound
  | .compact type, (value : Int) => 0 ≤ value ∧ value < type.bound
  | .bool, _ => True
  | .triState, _ => True
  | .bytes, (bytes : List UInt8) => bytes.length < 2 ^ 64
  | .text, (text : String) => (Text.Utf8.encode text).length < 2 ^ 64
  | .hash _, _ => True
  | .fixed size, (bytes : List UInt8) => bytes.length = size
  | .era _, _ => True
  | .list item, (items : List item.Value) =>
      items.length < 2 ^ 64 ∧ ∀ value ∈ items, item.WellFormed value
  | .option inner, (value : Option inner.Value) => Held inner.WellFormed value
  | .plain inner, value => inner.WellFormed value
  | .union variants, choice => variants.tag choice < 256 ∧ variants.WellFormed choice

/-- The choice is one of the variants, and its value fits that variant. -/
def Variants.WellFormed {side : Side} : (variants : Variants side) → variants.Choice → Prop
  | .nil, _ => False
  | .cons first _, .inl value => first.WellFormed value
  | .cons _ rest, .inr choice => rest.WellFormed choice

end

namespace Variants

/-- A well-formed choice has the tag of a variant. -/
theorem WellFormed.tag_lt {side : Side} : {variants : Variants side} → {choice : variants.Choice} →
    variants.WellFormed choice → variants.tag choice < variants.count
  | .nil, _, h => h.elim
  | .cons _ _, .inl _, _ => Nat.succ_pos _
  | .cons _ _, .inr _, h => Nat.succ_lt_succ (WellFormed.tag_lt h)

/-- The reads and the payloads of a union belong together on the well-formed choices. -/
structure Agree (variants : Variants .both) : Prop where
  isLocal : ∀ ⦃tag read⦄, variants.reader? tag = some read → read.IsLocal
  takes : ∀ ⦃choice⦄, variants.WellFormed choice → ∃ read payload,
    variants.reader? (variants.tag choice) = some read ∧ variants.payload? choice = some payload ∧
      payload.fault = none ∧ read.Takes payload.bytes choice
  shortens : ∀ ⦃tag read front choice⦄, variants.reader? tag = some read →
    read.Takes front choice → variants.tag choice = tag ∧ variants.WellFormed choice ∧
      ∃ payload, variants.payload? choice = some payload ∧ Shortens payload.bytes front

/-- No variants agree: there is nothing to read and nothing to write. -/
theorem agree_nil : Variants.nil.Agree where
  isLocal _ _ h := by cases h
  takes _ h := h.elim
  shortens _ _ _ _ h := by cases h

theorem agree_cons {first : Format .both} {rest : Variants .both}
    (hfirst : Mirrors first.decoder first.encoder first.WellFormed) (hrest : rest.Agree) :
    (Variants.cons first rest).Agree := by
  constructor
  · intro tag read h
    cases tag with
    | zero =>
        obtain rfl := Option.some.inj h
        exact Reader.isLocal_map Sum.inl hfirst.alone.isLocal
    | succ tag =>
        simp only [reader?] at h
        split at h
        next read' hread =>
          obtain rfl := Option.some.inj h
          exact Reader.isLocal_map Sum.inr (hrest.isLocal hread)
        next => cases h
  · intro choice h
    cases choice with
    | inl value =>
        refine ⟨_, _, rfl, rfl, hfirst.alone.succeeds h, ?_⟩
        exact (Reader.takes_map_iff hfirst.alone.isLocal).mpr ⟨value, hfirst.alone.takes h, rfl⟩
    | inr choice =>
        obtain ⟨read, payload, hread, hpayload, hfault, htakes⟩ := hrest.takes h
        refine ⟨Sum.inr <$> read, payload, ?_, hpayload, hfault, ?_⟩
        · simp only [tag, reader?, hread]
        · exact (Reader.takes_map_iff (hrest.isLocal hread)).mpr ⟨choice, htakes, rfl⟩
  · intro tag read front choice h htakes
    cases tag with
    | zero =>
        obtain rfl := Option.some.inj h
        obtain ⟨value, hvalue, rfl⟩ := (Reader.takes_map_iff hfirst.alone.isLocal).mp htakes
        exact ⟨rfl, hfirst.alone.valid_of_takes hvalue, _, rfl, hfirst.alone.shortens hvalue⟩
    | succ tag =>
        simp only [reader?] at h
        split at h
        next read' hread =>
          obtain rfl := Option.some.inj h
          obtain ⟨choice, hchoice, rfl⟩ := (Reader.takes_map_iff (hrest.isLocal hread)).mp htakes
          obtain ⟨htag, hvalid, payload, hpayload, hshort⟩ := hrest.shortens hread hchoice
          exact ⟨congrArg (· + 1) htag, hvalid, payload, hpayload, hshort⟩
        next => cases h

namespace Agree

variable {variants : Variants .both}

theorem isLocal_readUnion (h : variants.Agree) :
    (Format.union variants).decoder.read.IsLocal := by
  refine Reader.isLocal_byte.bind fun tag => ?_
  split
  next read hread => exact h.isLocal hread
  next => exact Reader.isLocal_fail _

/-- A tag byte is taken, and what its variant takes follows it. -/
theorem takes_readUnion_iff (h : variants.Agree) {front : List UInt8}
    {choice : variants.Choice} :
    (Format.union variants).decoder.read.Takes front choice ↔
      ∃ tag back read, front = tag :: back ∧ variants.reader? tag.toNat = some read ∧
        read.Takes back choice := by
  refine (Reader.takes_byte_bind_iff ?_).trans ?_
  · intro tag
    split
    next read hread => exact h.isLocal hread
    next => exact Reader.isLocal_fail _
  · constructor
    · rintro ⟨tag, back, rfl, htakes⟩
      split at htakes
      next read hread => exact ⟨tag, back, read, rfl, hread, htakes⟩
      next => exact (Reader.not_takes_fail htakes).elim
    · rintro ⟨tag, back, read, rfl, hread, htakes⟩
      refine ⟨tag, back, rfl, ?_⟩
      rw [hread]
      exact htakes

theorem write_eq_ok {choice : variants.Choice} {payload : Output}
    (hpayload : variants.payload? choice = some payload) :
    (Format.union variants).encoder.write choice =
      (Output.ok [UInt8.ofNat (variants.tag choice)]).andThen payload := by
  simp only [Format.encoder, Encoder.ofWrite, hpayload]

/-- A union whose variants are read and written in agreement. -/
theorem agree_union (h : variants.Agree) :
    Scale.Agree (Format.union variants).decoder.read (Format.union variants).encoder.write
      (Format.union variants).WellFormed where
  isLocal := h.isLocal_readUnion
  succeeds choice hchoice := by
    obtain ⟨-, payload, -, hpayload, hfault, -⟩ := h.takes hchoice.2
    rw [write_eq_ok hpayload]
    exact hfault
  takes choice hchoice := by
    obtain ⟨read, payload, hread, hpayload, -, htakes⟩ := h.takes hchoice.2
    rw [write_eq_ok hpayload]
    -- The byte of a tag tells the tag, since there is room for it.
    have htag : (UInt8.ofNat (variants.tag choice)).toNat = variants.tag choice :=
      UInt8.toNat_ofNat_of_lt' hchoice.1
    exact h.takes_readUnion_iff.mpr ⟨_, payload.bytes, read, rfl, htag.symm ▸ hread, htakes⟩
  valid_of_takes front choice htakes := by
    obtain ⟨tag, back, read, -, hread, hback⟩ := h.takes_readUnion_iff.mp htakes
    obtain ⟨htag, hvalid, -⟩ := h.shortens hread hback
    exact ⟨htag ▸ tag.toNat_lt, hvalid⟩
  shortens front choice htakes := by
    obtain ⟨tag, back, read, rfl, hread, hback⟩ := h.takes_readUnion_iff.mp htakes
    obtain ⟨htag, -, payload, hpayload, hshort⟩ := h.shortens hread hback
    rw [write_eq_ok hpayload, htag, UInt8.ofNat_toNat]
    exact (Shortens.refl [tag]).append hshort

end Agree

end Variants

mutual

/-- The decoder and the encoder of a format belong together on its well-formed values. -/
theorem Format.mirrors : (format : Format .both) →
    Mirrors format.decoder format.encoder format.WellFormed
  | .word width => (Agree.word width).mirrors
  | .compact type => (Agree.compact type).mirrors
  | .bool => ⟨Agree.bool, Agree.optionalBool⟩
  | .triState => Agree.triState.mirrors
  | .bytes => Agree.bytes.mirrors
  | .text => Agree.text.mirrors
  | .hash size => (Agree.hash size).mirrors
  | .fixed size => (Agree.fixed size).mirrors
  | .era hwriteOnly => nomatch hwriteOnly
  | .list item => (Agree.list item.mirrors.alone).mirrors
  | .option inner => inner.mirrors.optional.mirrors
  | .plain inner => inner.mirrors.alone.mirrors
  | .union variants => variants.agree.agree_union.mirrors

theorem Variants.agree : (variants : Variants .both) → variants.Agree
  | .nil => Variants.agree_nil
  | .cons first rest => Variants.agree_cons first.mirrors rest.agree

end

end ChainRpc.Scale
