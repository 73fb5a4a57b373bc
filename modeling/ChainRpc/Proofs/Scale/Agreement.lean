import ChainRpc.Proofs.Scale.Compact
import ChainRpc.Proofs.Text.Utf8
import ChainRpc.Scale.Format

/-!
# Reads and writes that agree

A read and a write agree on the valid values of a type when the read takes back what the write
produced for a valid value, and when every value that the read gives is valid and written in no
more bytes than it was read from. Agreement of composites follows from agreement of their parts,
so the decoder and the encoder of a format agree on its well-formed values.
-/

namespace ChainRpc.Scale

open LittleEndian

/-! ### Outputs -/

namespace Output

@[simp] theorem fault_ok (bytes : List UInt8) : (ok bytes).fault = none := rfl

@[simp] theorem bytes_ok (bytes : List UInt8) : (ok bytes).bytes = bytes := rfl

theorem eq_ok_of_fault {output : Output} (h : output.fault = none) : output = ok output.bytes := by
  cases output
  cases h
  rfl

@[simp] theorem ok_andThen (bytes : List UInt8) (next : Output) :
    (ok bytes).andThen next = ⟨bytes ++ next.bytes, next.fault⟩ := rfl

theorem andThen_assoc (first second third : Output) :
    (first.andThen second).andThen third = first.andThen (second.andThen third) := by
  obtain ⟨front, - | error⟩ := first
  · obtain ⟨middle, - | error⟩ := second
    · simp [andThen]
    · rfl
  · rfl

/-- Writes of which none fails succeed together. -/
theorem sequence_eq_ok {outputs : List Output} (h : ∀ output ∈ outputs, output.fault = none) :
    sequence outputs = ok (outputs.map Output.bytes).flatten := by
  induction outputs with
  | nil => rfl
  | cons first rest ih =>
      rw [sequence, eq_ok_of_fault (h first (by simp)),
        ih fun output hmem => h output (by simp [hmem])]
      rfl

end Output

/-- Exactly the numbers from zero on that are below the bound of the type are written. -/
theorem Encoder.narrowed_eq (type : IntType) (layout : Nat → List UInt8) (value : Int) :
    narrowed type layout value =
      if 0 ≤ value ∧ value < type.bound then .ok (layout value.toNat)
      else .fail (.encoding (.outOfRange value type)) := by
  by_cases hnonneg : 0 ≤ value
  · simp [narrowed, hnonneg, IntType.holds_iff_of_nonneg hnonneg]
  · simp [narrowed, hnonneg]

/-! ### Agreement -/

/-- The written bytes are the given ones or fewer. -/
def Shortens (written given : List UInt8) : Prop :=
  written = given ∨ written.length < given.length

theorem Shortens.refl (bytes : List UInt8) : Shortens bytes bytes := Or.inl rfl

theorem Shortens.length_le {written given : List UInt8} (h : Shortens written given) :
    written.length ≤ given.length := by
  rcases h with rfl | h
  · exact Nat.le_refl _
  · exact Nat.le_of_lt h

theorem Shortens.eq_of_length_eq {written given : List UInt8} (h : Shortens written given)
    (hsame : written.length = given.length) : written = given :=
  h.resolve_right (by omega)

theorem Shortens.append {written given written' given' : List UInt8} (h : Shortens written given)
    (h' : Shortens written' given') : Shortens (written ++ written') (given ++ given') := by
  have hshort := h.length_le
  have hshort' := h'.length_le
  rcases h with rfl | h
  · rcases h' with rfl | h'
    · exact .refl _
    · exact Or.inr (by simp only [List.length_append]; omega)
  · exact Or.inr (by simp only [List.length_append]; omega)

theorem Shortens.flatten {written given : List (List UInt8)}
    (h : List.Forall₂ Shortens written given) : Shortens written.flatten given.flatten := by
  induction h with
  | nil => exact .refl _
  | cons hfirst hrest ih => exact hfirst.append ih

theorem Compact.Spelling.shortens_encode {bytes : List UInt8} {n : Nat}
    (h : Compact.Spelling bytes n) : Shortens (Compact.encode n) bytes := by
  rcases Nat.eq_or_lt_of_le h.length_encode_le with hsame | hless
  · exact Or.inl ((Compact.spelling_encode h.lt).eq_of_length_eq h hsame)
  · exact Or.inr hless

variable {α : Type}

/-- A read and a write belong together on the valid values. -/
structure Agree (read : Reader α) (write : α → Output) (valid : α → Prop) : Prop where
  isLocal : read.IsLocal
  succeeds : ∀ ⦃value⦄, valid value → (write value).fault = none
  takes : ∀ ⦃value⦄, valid value → read.Takes (write value).bytes value
  valid_of_takes : ∀ ⦃front value⦄, read.Takes front value → valid value
  shortens : ∀ ⦃front value⦄, read.Takes front value → Shortens (write value).bytes front

/-- A value that is there is valid. -/
def Held (valid : α → Prop) (value : Option α) : Prop := ∀ held ∈ value, valid held

/-- A decoder and an encoder belong together, alone and as options. -/
structure Mirrors (decoder : Decoder α) (encoder : Encoder α) (valid : α → Prop) : Prop where
  alone : Agree decoder.read encoder.write valid
  optional : Agree decoder.readOptional encoder.writeOptional (Held valid)

namespace Agree

open Reader

variable {read : Reader α} {write : α → Output} {valid : α → Prop}

/-- Agreement from an exact description of what the read takes: the written bytes and
nothing else. -/
theorem of_takes_iff (hisLocal : read.IsLocal)
    (hsucceeds : ∀ ⦃value⦄, valid value → (write value).fault = none)
    (htakes : ∀ front value, read.Takes front value ↔ valid value ∧ front = (write value).bytes) :
    Agree read write valid where
  isLocal := hisLocal
  succeeds := hsucceeds
  takes value h := (htakes _ value).mpr ⟨h, rfl⟩
  valid_of_takes front value h := ((htakes front value).mp h).1
  shortens front value h := Or.inl ((htakes front value).mp h).2.symm

/-! #### Bytes and numbers -/

theorem narrowed_eq_ok {type : IntType} {layout : Nat → List UInt8} {value : Int}
    (h : 0 ≤ value ∧ value < type.bound) :
    Encoder.narrowed type layout value = .ok (layout value.toNat) :=
  (Encoder.narrowed_eq type layout value).trans (if_pos h)

theorem word (width : Width) :
    Agree (Decoder.word width).read (Encoder.word width).write
      fun value => 0 ≤ value ∧ value < (IntType.unsigned width).bound := by
  refine of_takes_iff ?_ ?_ ?_
  · exact (isLocal_bytes _).bind fun bytes => isLocal_pure _
  · intro value h
    simp [Encoder.word, Encoder.ofWrite, narrowed_eq_ok h]
  · intro front value
    simp only [Decoder.word, Decoder.ofRead, Encoder.word, Encoder.ofWrite]
    rw [takes_bytes_bind_iff fun bytes => isLocal_pure _]
    constructor
    · rintro ⟨bytes, rest, rfl, hlength, h⟩
      obtain ⟨rfl, rfl⟩ := takes_pure_iff.mp h
      have hbound := toNat_lt bytes
      rw [hlength] at hbound
      have hvalid : (0 : Int) ≤ toNat bytes ∧
          (toNat bytes : Int) < (IntType.unsigned width).bound := by
        simp only [IntType.bound]
        omega
      refine ⟨hvalid, ?_⟩
      rw [narrowed_eq_ok hvalid, Int.toNat_natCast, ← hlength]
      simp [ofNat_toNat]
    · rintro ⟨hvalid, rfl⟩
      rw [narrowed_eq_ok hvalid, Output.bytes_ok]
      refine ⟨_, [], (List.append_nil _).symm, length_ofNat _ _, ?_⟩
      have hfits : value.toNat < 256 ^ width.bytes := by
        simp only [IntType.bound] at hvalid
        omega
      rw [toNat_ofNat hfits, Int.toNat_of_nonneg hvalid.1]
      exact takes_pure value

/-- A compact integer is read back, and no spelling of it is shorter than the written one. -/
theorem compact (type : IntType) :
    Agree (Decoder.compact type).read (Encoder.compact type).write
      fun value => 0 ≤ value ∧ value < type.bound := by
  -- A number may be taken from several spellings, so `of_takes_iff` does not apply.
  have htakesIff : ∀ front (value : Int), (Decoder.compact type).read.Takes front value ↔
      (0 ≤ value ∧ value < type.bound) ∧ Compact.Spelling front value.toNat := by
    intro front value
    refine (takes_checked_iff Compact.isLocal_read).trans ?_
    simp only [Compact.takes_read_iff]
    constructor
    · rintro ⟨n, hspelling, hholds, rfl⟩
      have hnonneg : (0 : Int) ≤ n := Int.natCast_nonneg n
      exact ⟨⟨hnonneg, (IntType.holds_iff_of_nonneg hnonneg).mp hholds⟩, by simpa using hspelling⟩
    · rintro ⟨⟨hnonneg, hbound⟩, hspelling⟩
      have hcast : (value.toNat : Int) = value := Int.toNat_of_nonneg hnonneg
      refine ⟨value.toNat, hspelling, ?_, hcast.symm⟩
      rwa [hcast, IntType.holds_iff_of_nonneg hnonneg]
  have hbelow := type.bound_le
  constructor
  · exact Compact.isLocal_read.bind fun n => isLocal_ite (isLocal_pure _) (isLocal_fail _)
  · intro value h
    simp [Encoder.compact, Encoder.ofWrite, narrowed_eq_ok h]
  · intro value h
    rw [htakesIff]
    refine ⟨h, ?_⟩
    simp only [Encoder.compact, Encoder.ofWrite, narrowed_eq_ok h, Output.bytes_ok]
    exact Compact.spelling_encode (by omega)
  · intro front value h
    exact ((htakesIff front value).mp h).1
  · intro front value h
    obtain ⟨hvalid, hspelling⟩ := (htakesIff front value).mp h
    simp only [Encoder.compact, Encoder.ofWrite, narrowed_eq_ok hvalid, Output.bytes_ok]
    exact hspelling.shortens_encode

/-! #### Booleans -/

theorem isLocal_readBool : Decoder.readBool.IsLocal :=
  isLocal_byte.bind fun _ =>
    isLocal_ite (isLocal_pure _) (isLocal_ite (isLocal_pure _) (isLocal_fail _))

theorem takes_readBool_iff {front : List UInt8} {value : Bool} :
    Decoder.readBool.Takes front value ↔ front = [Encoder.boolByte value] := by
  unfold Decoder.readBool
  rw [takes_byte_bind_iff fun _ =>
    isLocal_ite (isLocal_pure _) (isLocal_ite (isLocal_pure _) (isLocal_fail _))]
  constructor
  · rintro ⟨byte, rest, rfl, h⟩
    split at h
    next hzero =>
      obtain ⟨rfl, rfl⟩ := takes_pure_iff.mp h
      rw [hzero]
      rfl
    next =>
    split at h
    next hone =>
      obtain ⟨rfl, rfl⟩ := takes_pure_iff.mp h
      rw [hone]
      rfl
    next => exact (not_takes_fail h).elim
  · rintro rfl
    refine ⟨_, [], rfl, ?_⟩
    cases value <;> exact takes_pure _

theorem bool : Agree Decoder.bool.read Encoder.bool.write fun _ => True := by
  refine of_takes_iff isLocal_readBool (fun _ _ => rfl) fun front value => ?_
  exact takes_readBool_iff.trans ⟨fun h => ⟨trivial, h⟩, fun h => h.2⟩

theorem isLocal_readTriState : Decoder.readTriState.IsLocal :=
  isLocal_byte.bind fun _ => isLocal_ite (isLocal_pure _)
    (isLocal_ite (isLocal_pure _) (isLocal_ite (isLocal_pure _) (isLocal_fail _)))

theorem takes_readTriState_iff {front : List UInt8} {value : Option Bool} :
    Decoder.readTriState.Takes front value ↔ front = [Encoder.triStateByte value] := by
  unfold Decoder.readTriState
  rw [takes_byte_bind_iff fun _ => isLocal_ite (isLocal_pure _)
    (isLocal_ite (isLocal_pure _) (isLocal_ite (isLocal_pure _) (isLocal_fail _)))]
  constructor
  · rintro ⟨byte, rest, rfl, h⟩
    split at h
    next hzero =>
      obtain ⟨rfl, rfl⟩ := takes_pure_iff.mp h
      rw [hzero]
      rfl
    next =>
    split at h
    next hone =>
      obtain ⟨rfl, rfl⟩ := takes_pure_iff.mp h
      rw [hone]
      rfl
    next =>
    split at h
    next htwo =>
      obtain ⟨rfl, rfl⟩ := takes_pure_iff.mp h
      rw [htwo]
      rfl
    next => exact (not_takes_fail h).elim
  · rintro rfl
    refine ⟨_, [], rfl, ?_⟩
    rcases value with - | - | - <;> exact takes_pure _

theorem triState : Agree Decoder.triState.read Encoder.triState.write fun _ => True := by
  refine of_takes_iff isLocal_readTriState (fun _ _ => rfl) fun front value => ?_
  exact takes_readTriState_iff.trans ⟨fun h => ⟨trivial, h⟩, fun h => h.2⟩

/-- The optional form of a boolean is the single byte. -/
theorem optionalBool :
    Agree Decoder.bool.readOptional Encoder.bool.writeOptional (Held fun _ => True) := by
  refine of_takes_iff isLocal_readTriState (fun _ _ => rfl) fun front value => ?_
  exact takes_readTriState_iff.trans ⟨fun h => ⟨fun _ _ => trivial, h⟩, fun h => h.2⟩

/-! #### Bytes -/

theorem fixed (size : Nat) :
    Agree (Decoder.fixed size).read (Encoder.fixed size).write
      fun bytes => bytes.length = size := by
  refine of_takes_iff (isLocal_bytes size) ?_ fun front value => ?_
  · intro value h
    simp [Encoder.fixed, Encoder.ofWrite, h]
  · simp only [Decoder.fixed, Decoder.ofRead, Encoder.fixed, Encoder.ofWrite]
    rw [takes_bytes_iff]
    constructor
    · rintro ⟨rfl, h⟩
      exact ⟨h, by simp [h]⟩
    · rintro ⟨h, rfl⟩
      exact ⟨by simp [h], h⟩

theorem isLocal_readBytes : Decoder.bytes.read.IsLocal :=
  Compact.isLocal_readLength.bind fun size => isLocal_bytes size

/-- A byte string is taken behind a spelling of its length. -/
theorem takes_readBytes_iff {front value : List UInt8} :
    Decoder.bytes.read.Takes front value ↔
      value.length < 2 ^ 64 ∧ ∃ spelled, Compact.Spelling spelled value.length ∧
        front = spelled ++ value := by
  refine (takes_bind_iff Compact.isLocal_readLength fun size => isLocal_bytes size).trans ?_
  simp only [Compact.takes_readLength_iff, takes_bytes_iff]
  constructor
  · rintro ⟨size, spelled, bytes, rfl, ⟨hspelling, hbound⟩, rfl, rfl⟩
    exact ⟨hbound, spelled, hspelling, rfl⟩
  · rintro ⟨hbound, spelled, hspelling, rfl⟩
    exact ⟨value.length, spelled, value, rfl, ⟨hspelling, hbound⟩, rfl, rfl⟩

theorem bytes :
    Agree Decoder.bytes.read Encoder.bytes.write fun bytes => bytes.length < 2 ^ 64 where
  isLocal := isLocal_readBytes
  succeeds _ _ := rfl
  takes value h := takes_readBytes_iff.mpr ⟨h, _, Compact.spelling_encode (by omega), rfl⟩
  valid_of_takes front value h := (takes_readBytes_iff.mp h).1
  shortens front value h := by
    obtain ⟨-, spelled, hspelling, rfl⟩ := takes_readBytes_iff.mp h
    exact hspelling.shortens_encode.append (.refl value)

theorem isLocal_readText : Decoder.text.read.IsLocal := by
  refine isLocal_readBytes.bind fun bytes => ?_
  split
  · exact isLocal_pure _
  · exact isLocal_fail _

/-- A text is taken as the byte string of its written form. -/
theorem takes_readText_iff {front : List UInt8} {value : String} :
    Decoder.text.read.Takes front value ↔
      Decoder.bytes.read.Takes front (Text.Utf8.encode value) := by
  simp only [Decoder.text, Decoder.ofRead]
  rw [takes_bind_iff isLocal_readBytes]
  · constructor
    · rintro ⟨bytes, front, back, rfl, hbytes, h⟩
      split at h
      next text hdecode =>
        obtain ⟨rfl, rfl⟩ := takes_pure_iff.mp h
        rw [Text.Utf8.decode_eq_ok_iff] at hdecode
        simpa [hdecode] using hbytes
      next => exact (not_takes_fail h).elim
    · intro h
      refine ⟨Text.Utf8.encode value, front, [], by simp, h, ?_⟩
      rw [Text.Utf8.decode_encode]
      exact takes_pure value
  · intro bytes
    split
    · exact isLocal_pure _
    · exact isLocal_fail _

theorem text :
    Agree Decoder.text.read Encoder.text.write
      fun text => (Text.Utf8.encode text).length < 2 ^ 64 where
  isLocal := isLocal_readText
  succeeds _ _ := rfl
  takes _ h := takes_readText_iff.mpr (bytes.takes h)
  valid_of_takes _ _ h := bytes.valid_of_takes (takes_readText_iff.mp h)
  shortens _ _ h := bytes.shortens (takes_readText_iff.mp h)

/-- A hash is read as its bytes. -/
theorem readHash_eq_ok_iff {size : Nat} {cursor after : Cursor} {value : Hash size} :
    (Decoder.hash size).read cursor = .ok value after ↔
      Reader.bytes size cursor = .ok value.bytes after := by
  simp only [Decoder.hash, Decoder.ofRead, Reader.bytes]
  split
  next front back hsplit =>
    simp only [hsplit, EStateM.Result.ok.injEq]
    constructor
    · rintro ⟨rfl, rfl⟩
      exact ⟨rfl, rfl⟩
    · rintro ⟨hbytes, rfl⟩
      refine ⟨?_, rfl⟩
      cases value
      simpa using hbytes
  next hsplit => simp [hsplit]

theorem takes_readHash_iff {size : Nat} {front : List UInt8} {value : Hash size} :
    (Decoder.hash size).read.Takes front value ↔ front = value.bytes := by
  have h : (Decoder.hash size).read.Takes front value ↔
      (Reader.bytes size).Takes front value.bytes :=
    forall_congr' fun position => forall_congr' fun rest => readHash_eq_ok_iff
  rw [h, takes_bytes_iff]
  exact ⟨fun h => h.1, fun h => ⟨h, value.length_bytes⟩⟩

theorem isLocal_readHash (size : Nat) : (Decoder.hash size).read.IsLocal := by
  intro cursor value after h
  obtain ⟨front, hfront, hafter, htakes⟩ := isLocal_bytes size (readHash_eq_ok_iff.mp h)
  exact ⟨front, hfront, hafter, takes_readHash_iff.mpr (takes_bytes_iff.mp htakes).1⟩

theorem hash (size : Nat) :
    Agree (Decoder.hash size).read (Encoder.hash size).write fun _ => True := by
  refine of_takes_iff (isLocal_readHash size) (fun _ _ => rfl) fun front value => ?_
  exact takes_readHash_iff.trans ⟨fun h => ⟨trivial, h⟩, fun h => h.2⟩

/-! #### Composites -/

theorem isLocal_behindPresence (h : read.IsLocal) : (Decoder.behindPresence read).IsLocal :=
  isLocal_readBool.bind fun _ => isLocal_ite (isLocal_map some h) (isLocal_pure none)

/-- A presence byte is taken, and the value behind it if there is one. -/
theorem takes_behindPresence_iff (h : read.IsLocal) {front : List UInt8} {value : Option α} :
    (Decoder.behindPresence read).Takes front value ↔
      (value = none ∧ front = [0]) ∨
        ∃ held back, value = some held ∧ front = 1 :: back ∧ read.Takes back held := by
  unfold Decoder.behindPresence
  rw [takes_bind_iff isLocal_readBool fun _ => isLocal_ite (isLocal_map some h) (isLocal_pure none)]
  simp only [takes_readBool_iff]
  constructor
  · rintro ⟨present, presence, back, rfl, rfl, hback⟩
    cases present with
    | false =>
        obtain ⟨rfl, rfl⟩ := takes_pure_iff.mp hback
        exact Or.inl ⟨rfl, rfl⟩
    | true =>
        obtain ⟨held, hheld, rfl⟩ := (takes_map_iff h).mp hback
        exact Or.inr ⟨held, back, rfl, rfl, hheld⟩
  · rintro (⟨rfl, rfl⟩ | ⟨held, back, rfl, rfl, hheld⟩)
    · exact ⟨false, [0], [], rfl, rfl, takes_pure none⟩
    · exact ⟨true, [1], back, rfl, rfl, (takes_map_iff h).mpr ⟨held, hheld, rfl⟩⟩

/-- The option of a read and a write that agree, behind a presence byte. -/
theorem behindPresence (h : Agree read write valid) :
    Agree (Decoder.behindPresence read) (Encoder.behindPresence write) (Held valid) where
  isLocal := isLocal_behindPresence h.isLocal
  succeeds value hvalue := by
    cases value with
    | none => rfl
    | some held => exact h.succeeds (hvalue held rfl)
  takes value hvalue := by
    rw [takes_behindPresence_iff h.isLocal]
    cases value with
    | none => exact Or.inl ⟨rfl, rfl⟩
    | some held => exact Or.inr ⟨held, _, rfl, rfl, h.takes (hvalue held rfl)⟩
  valid_of_takes front value htakes := by
    rcases (takes_behindPresence_iff h.isLocal).mp htakes with
      ⟨rfl, rfl⟩ | ⟨held, back, rfl, rfl, hheld⟩
    · rintro _ ⟨⟩
    · rintro _ ⟨⟩
      exact h.valid_of_takes hheld
  shortens front value htakes := by
    rcases (takes_behindPresence_iff h.isLocal).mp htakes with
      ⟨rfl, rfl⟩ | ⟨held, back, rfl, rfl, hheld⟩
    · exact .refl _
    · exact (Shortens.refl [1]).append (h.shortens hheld)

/-- The usual decoder and the usual encoder mirror each other when they agree alone. -/
theorem mirrors (h : Agree read write valid) :
    Mirrors (Decoder.ofRead read) (Encoder.ofWrite write) valid :=
  ⟨h, h.behindPresence⟩

variable {decoder : Decoder α} {encoder : Encoder α}

theorem isLocal_readList (h : decoder.read.IsLocal) : (Decoder.list decoder).read.IsLocal :=
  Compact.isLocal_readLength.bind fun count => isLocal_repeated h count

/-- The items are taken one after the other behind a spelling of their number. -/
theorem takes_readList_iff (h : decoder.read.IsLocal) {front : List UInt8} {items : List α} :
    (Decoder.list decoder).read.Takes front items ↔
      items.length < 2 ^ 64 ∧ ∃ spelled fronts, Compact.Spelling spelled items.length ∧
        List.Forall₂ decoder.read.Takes fronts items ∧ front = spelled ++ fronts.flatten := by
  refine (takes_bind_iff Compact.isLocal_readLength fun count => isLocal_repeated h count).trans ?_
  simp only [Compact.takes_readLength_iff, takes_repeated_iff h]
  constructor
  · rintro ⟨count, spelled, back, rfl, ⟨hspelling, hbound⟩, rfl, fronts, rfl, hitems⟩
    exact ⟨hbound, spelled, fronts, hspelling, hitems, rfl⟩
  · rintro ⟨hbound, spelled, fronts, hspelling, hitems, rfl⟩
    exact ⟨items.length, spelled, fronts.flatten, rfl, ⟨hspelling, hbound⟩, rfl, fronts, rfl,
      hitems⟩

theorem forall₂_takes (h : Agree read write valid) {items : List α}
    (hitems : ∀ item ∈ items, valid item) :
    List.Forall₂ read.Takes (items.map fun item => (write item).bytes) items := by
  induction items with
  | nil => exact .nil
  | cons item items ih =>
      exact .cons (h.takes (hitems item (by simp)))
        (ih fun other hmem => hitems other (by simp [hmem]))

theorem forall₂_shortens (h : Agree read write valid) {fronts : List (List UInt8)}
    {items : List α} (hitems : List.Forall₂ read.Takes fronts items) :
    List.Forall₂ Shortens (items.map fun item => (write item).bytes) fronts := by
  induction hitems with
  | nil => exact .nil
  | cons hfirst hrest ih => exact .cons (h.shortens hfirst) ih

/-- A list of items that are read and written in agreement. -/
theorem list (h : Agree decoder.read encoder.write valid) :
    Agree (Decoder.list decoder).read (Encoder.list encoder).write
      fun items => items.length < 2 ^ 64 ∧ ∀ item ∈ items, valid item := by
  -- Both directions need the write of valid items; reading gives no others.
  have hwritten : ∀ {items : List α}, (∀ item ∈ items, valid item) →
      (Encoder.list encoder).write items = .ok (Compact.encode items.length ++
        (items.map fun item => (encoder.write item).bytes).flatten) := by
    intro items hitems
    simp only [Encoder.list, Encoder.ofWrite, Output.ok_andThen]
    rw [Output.sequence_eq_ok (by simpa using fun item hmem => h.succeeds (hitems item hmem))]
    simp [Output.ok, Function.comp_def]
  have hvalidOfTakes : ∀ {fronts : List (List UInt8)} {items : List α},
      List.Forall₂ decoder.read.Takes fronts items → ∀ item ∈ items, valid item := by
    intro fronts items hitems
    induction hitems with
    | nil => simp
    | cons hfirst hrest ih => simpa using ⟨h.valid_of_takes hfirst, ih⟩
  constructor
  · exact isLocal_readList h.isLocal
  · rintro items ⟨-, hitems⟩
    rw [hwritten hitems, Output.fault_ok]
  · rintro items ⟨hbound, hitems⟩
    rw [hwritten hitems, takes_readList_iff h.isLocal]
    exact ⟨hbound, _, _, Compact.spelling_encode (by omega), h.forall₂_takes hitems, rfl⟩
  · intro front items htakes
    obtain ⟨hbound, spelled, fronts, -, hitems, -⟩ := (takes_readList_iff h.isLocal).mp htakes
    exact ⟨hbound, hvalidOfTakes hitems⟩
  · intro front items htakes
    obtain ⟨-, spelled, fronts, hspelling, hitems, rfl⟩ := (takes_readList_iff h.isLocal).mp htakes
    rw [hwritten (hvalidOfTakes hitems)]
    exact hspelling.shortens_encode.append (.flatten (h.forall₂_shortens hitems))

end Agree

end ChainRpc.Scale
