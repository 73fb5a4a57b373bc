import ChainRpc.Proofs.Scale.InPlace
import ChainRpc.Proofs.Scale.Layout

/-!
# What is written, part by part

A value is written as a sequence of parts: counts, tags, booleans, numbers, texts and bytes. A part
is representable when its place can hold it: a tag must name a variant, a number must belong to the
type of its item, and bytes of a fixed number must be so many. Writing goes through the parts in
their order and stops before the first that is not representable. The part is told in full by the
bytes that are written for it.
-/

namespace ChainRpc.Scale

/-- A part of a value as it is written. -/
inductive Part where
  /-- The number of items of a list, or of bytes. -/
  | count (n : Nat)
  /-- A boolean, or whether an optional value is there. -/
  | bool (value : Bool)
  /-- A boolean or nothing, in one byte. -/
  | triState (value : Option Bool)
  /-- The tag of a choice among so many variants. -/
  | tag (index variants : Nat)
  /-- A number in a word. -/
  | word (width : Width) (value : Int)
  /-- A number of a type as a compact integer. -/
  | compact (type : IntType) (value : Int)
  /-- Bytes of which there must be so many. -/
  | fixed (size : Nat) (bytes : List UInt8)
  /-- An era. -/
  | era (value : UInt16)
  /-- A text behind the number of its bytes. -/
  | text (content : String)
  /-- Bytes that are written as they are. -/
  | plain (bytes : List UInt8)

namespace Part

/-- The bytes of a part. -/
def bytes : Part → List UInt8
  | count n => Compact.encode n
  | bool value => [Encoder.boolByte value]
  | triState value => [Encoder.triStateByte value]
  | tag index _ => [UInt8.ofNat index]
  | word width value => LittleEndian.ofNat width.bytes value.toNat
  | compact _ value => Compact.encode value.toNat
  | fixed _ bytes => bytes
  | era value => if value = 0 then [0] else LittleEndian.ofNat 2 value.toNat
  | text content => Text.Utf8.encode content
  | plain bytes => bytes

/-- Why the part is not representable, if it is not. -/
def fault? : Part → Option Error
  | tag index variants =>
      if index < variants then none else some (.unknownVariant index variants)
  | word width value =>
      if 0 ≤ value ∧ value < (IntType.unsigned width).bound then none
      else some (.encoding (.outOfRange value (.unsigned width)))
  | compact type value =>
      if 0 ≤ value ∧ value < type.bound then none else some (.encoding (.outOfRange value type))
  | fixed size bytes =>
      if bytes.length = size then none else some (.encoding (.byteCount size bytes.length))
  | count _ | bool _ | triState _ | era _ | text _ | plain _ => none

/-- The bytes hold the part in full. -/
def Tells : Part → List UInt8 → Prop
  | count n, bytes => Compact.LaidOut bytes n
  | bool value, bytes => bytes = [if value then 1 else 0]
  | triState none, bytes => bytes = [0]
  | triState (some value), bytes => bytes = [if value then 2 else 1]
  | tag index _, bytes => ∃ byte, bytes = [byte] ∧ byte.toNat = index
  | word width value, bytes => bytes.length = width.bytes ∧ (LittleEndian.toNat bytes : Int) = value
  | compact _ value, bytes => ∃ n : Nat, Compact.LaidOut bytes n ∧ (n : Int) = value
  | fixed size given, bytes => bytes = given ∧ bytes.length = size
  | era value, bytes =>
      (value = 0 ∧ bytes = [0]) ∨
        (value ≠ 0 ∧ bytes.length = 2 ∧ LittleEndian.toNat bytes = value.toNat)
  | text content, bytes => Text.Utf8.decode bytes = .ok content
  | plain given, bytes => bytes = given

/-- What is counted is in memory, and a tag is a byte. -/
def InMemory : Part → Prop
  | count n => n < 2 ^ 64
  | tag index _ => index < 256
  | bool _ | triState _ | word .. | compact .. | fixed .. | era _ | text _ | plain _ => True

/-- No part that is representable is cut short. -/
theorem tells_bytes {part : Part} (hrepresentable : part.fault? = none)
    (hinMemory : part.InMemory) : part.Tells part.bytes := by
  cases part with
  | count n => exact Compact.laidOut_encode (Nat.lt_trans hinMemory (by decide))
  | bool value => rfl
  | triState value =>
      cases value with
      | none => rfl
      | some value => cases value <;> rfl
  | tag index variants => exact ⟨_, rfl, by simpa using Nat.mod_eq_of_lt hinMemory⟩
  | word width value =>
      have hfits : 0 ≤ value ∧ value < (IntType.unsigned width).bound := by
        simpa [fault?] using hrepresentable
      have hbound : value.toNat < 256 ^ width.bytes := by
        simp only [IntType.bound] at hfits
        omega
      refine ⟨LittleEndian.length_ofNat _ _, ?_⟩
      rw [bytes, LittleEndian.toNat_ofNat hbound, Int.toNat_of_nonneg hfits.1]
  | compact type value =>
      have hfits : 0 ≤ value ∧ value < type.bound := by simpa [fault?] using hrepresentable
      have hwidest := type.bound_le
      exact ⟨_, Compact.laidOut_encode (by omega), Int.toNat_of_nonneg hfits.1⟩
  | fixed size given => exact ⟨rfl, by simpa [fault?, bytes] using hrepresentable⟩
  | era value =>
      by_cases hzero : value = 0
      · exact .inl ⟨hzero, if_pos hzero⟩
      · have hlaidOut : (era value).bytes = LittleEndian.ofNat 2 value.toNat := if_neg hzero
        refine .inr ⟨hzero, ?_, ?_⟩
        · rw [hlaidOut, LittleEndian.length_ofNat]
        · rw [hlaidOut, LittleEndian.toNat_ofNat value.toNat_lt]
  | text content => exact Text.Utf8.decode_encode content
  | plain given => rfl

end Part

/-! ### Parts one after the other -/

/-- What is written of a sequence of parts: all of them, or those before the first that is not
representable. -/
def written : List Part → Output
  | [] => .ok []
  | part :: rest =>
      match part.fault? with
      | some error => .fail error
      | none => (Output.ok part.bytes).andThen (written rest)

theorem written_cons_of_none {part : Part} (h : part.fault? = none) (rest : List Part) :
    written (part :: rest) = (Output.ok part.bytes).andThen (written rest) := by
  rw [written, h]

theorem written_cons_of_some {part : Part} {error : Error} (h : part.fault? = some error)
    (rest : List Part) : written (part :: rest) = .fail error := by
  rw [written, h]

/-- A single part is written if it is representable, and refused otherwise. -/
theorem written_singleton (part : Part) :
    written [part] =
      match part.fault? with
      | some error => .fail error
      | none => .ok part.bytes := by
  cases hfault : part.fault? with
  | some error => exact written_cons_of_some hfault []
  | none =>
      rw [written_cons_of_none hfault, Output.ok_andThen]
      simp [written, Output.ok]

/-- Parts in front of others are written first. -/
theorem written_append (front back : List Part) :
    written (front ++ back) = (written front).andThen (written back) := by
  induction front with
  | nil => rfl
  | cons part front ih =>
      rw [List.cons_append]
      cases hfault : part.fault? with
      | some error =>
          rw [written_cons_of_some hfault, written_cons_of_some hfault]
          rfl
      | none =>
          rw [written_cons_of_none hfault, written_cons_of_none hfault, ih, Output.andThen_assoc]

/-- Either all parts are written, or those before the first that is not representable. -/
theorem written_cases (parts : List Part) :
    ((∀ part ∈ parts, part.fault? = none) ∧ written parts = .ok (parts.flatMap Part.bytes)) ∨
    ∃ before part after error, parts = before ++ part :: after ∧
      (∀ earlier ∈ before, earlier.fault? = none) ∧ part.fault? = some error ∧
      written parts = ⟨before.flatMap Part.bytes, some error⟩ := by
  induction parts with
  | nil => exact .inl ⟨by simp, rfl⟩
  | cons part rest ih =>
      cases hfault : part.fault? with
      | some error =>
          exact .inr ⟨[], part, rest, error, rfl, by simp, hfault, written_cons_of_some hfault rest⟩
      | none =>
          rw [written_cons_of_none hfault]
          rcases ih with ⟨hall, hwhole⟩
            | ⟨before, stray, after, error, rfl, hall, hrefused, hpartial'⟩
          · refine .inl ⟨List.forall_mem_cons.mpr ⟨hfault, hall⟩, ?_⟩
            rw [hwhole]
            rfl
          · refine .inr ⟨part :: before, stray, after, error, rfl,
              List.forall_mem_cons.mpr ⟨hfault, hall⟩, hrefused, ?_⟩
            rw [hpartial']
            rfl

/-! ### The parts of a value -/

/-- The parts of the values of a type, alone and as options. -/
structure Parting (α : Type) where
  alone : α → List Part
  optional : Option α → List Part

namespace Parting

variable {α : Type}

/-- The parts of an option behind a presence byte. -/
def behindPresence (alone : α → List Part) : Option α → List Part
  | some value => .bool true :: alone value
  | none => [.bool false]

/-- The usual parts of an option. -/
def ofAlone (alone : α → List Part) : Parting α := ⟨alone, behindPresence alone⟩

end Parting

mutual

/-- The parts of the values of a format, in the order in which they are written. -/
def Format.parting {side : Side} : (format : Format side) → Parting format.Value
  | .word width => .ofAlone fun (value : Int) => [.word width value]
  | .compact type => .ofAlone fun (value : Int) => [.compact type value]
  | .bool =>
      ⟨fun (value : Bool) => [.bool value], fun (value : Option Bool) => [.triState value]⟩
  | .triState => .ofAlone fun (value : Option Bool) => [.triState value]
  | .bytes => .ofAlone fun (bytes : List UInt8) => [.count bytes.length, .plain bytes]
  | .text => .ofAlone fun (text : String) =>
      [.count (Text.Utf8.encode text).length, .text text]
  | .hash size => .ofAlone fun (hash : Hash size) => [.plain hash.bytes]
  | .fixed size => .ofAlone fun (bytes : List UInt8) => [.fixed size bytes]
  | .era _ => .ofAlone fun (era : UInt16) => [.era era]
  | .list item => .ofAlone fun (items : List item.Value) =>
      .count items.length :: items.flatMap item.parting.alone
  | .option inner => .ofAlone inner.parting.optional
  | .plain inner => .ofAlone inner.parting.alone
  | .union variants => .ofAlone fun choice =>
      .tag (variants.tag choice) variants.count :: variants.parts choice

/-- The parts of a choice behind its tag. -/
def Variants.parts {side : Side} : (variants : Variants side) → variants.Choice → List Part
  | .nil, _ => []
  | .cons first _, .inl value => first.parting.alone value
  | .cons _ rest, .inr choice => rest.parts choice

end

/-- The parts of a value of a format. -/
def Format.parts {side : Side} (format : Format side) (value : format.Value) : List Part :=
  format.parting.alone value

/-! ### Encoders write the parts -/

/-- An encoder writes the parts of its values, alone and as options. -/
structure Encoder.Writes {α : Type} (encoder : Encoder α) (parting : Parting α) : Prop where
  alone : ∀ value, encoder.write value = written (parting.alone value)
  optional : ∀ value, encoder.writeOptional value = written (parting.optional value)

namespace Encoder

variable {α : Type} {write : α → Output} {alone : α → List Part}

theorem Writes.ofWrite (h : ∀ value, write value = written (alone value)) :
    (Encoder.ofWrite write).Writes (.ofAlone alone) where
  alone := h
  optional value := by
    cases value with
    | none => rfl
    | some held =>
        change (Output.ok _).andThen (write held) = _
        rw [h]
        rfl

variable {side : Side}

theorem writes_word (width : Width) :
    (word width).Writes (Format.word width : Format side).parting := by
  refine .ofWrite fun value => ?_
  rw [narrowed_eq, written_singleton, Part.fault?]
  split <;> rfl

theorem writes_compact (type : IntType) :
    (compact type).Writes (Format.compact type : Format side).parting := by
  refine .ofWrite fun value => ?_
  rw [narrowed_eq, written_singleton, Part.fault?]
  split <;> rfl

theorem writes_fixed (size : Nat) :
    (fixed size).Writes (Format.fixed size : Format side).parting := by
  refine .ofWrite fun bytes => ?_
  rw [written_singleton, Part.fault?]
  split <;> rfl

/-- The number of the bytes and what has these bytes are two parts. -/
theorem write_bytes_eq_written {bytes : List UInt8} {part : Part} (h : part.fault? = none)
    (hsame : part.bytes = bytes) :
    Encoder.bytes.write bytes = written [.count bytes.length, part] := by
  rw [written_cons_of_none rfl, written_singleton, h, hsame]
  rfl

theorem writes_bytes : bytes.Writes (Format.bytes : Format side).parting :=
  .ofWrite fun _ => write_bytes_eq_written rfl rfl

theorem writes_text : text.Writes (Format.text : Format side).parting :=
  .ofWrite fun _ => write_bytes_eq_written rfl rfl

theorem writes_era (hwriteOnly : side = .write) : era.Writes (Format.era hwriteOnly).parting := by
  refine .ofWrite fun value => ?_
  rw [written_singleton]
  change _ = Output.ok (if value = 0 then [0] else LittleEndian.ofNat 2 value.toNat)
  split <;> rfl

/-- Items are written one after the other, up to the first that is not. -/
theorem sequence_eq_written {item : Encoder α} {parting : Parting α} (h : item.Writes parting)
    (items : List α) :
    Output.sequence (items.map item.write) = written (items.flatMap parting.alone) := by
  induction items with
  | nil => rfl
  | cons first rest ih =>
      rw [List.map_cons, Output.sequence, ih, h.alone, List.flatMap_cons, written_append]

/-- The number of the items stands in front of the parts of the items. -/
theorem Writes.list {item : Encoder α} {parting : Parting α} (h : item.Writes parting) :
    (Encoder.list item).Writes (.ofAlone fun items =>
      .count items.length :: items.flatMap parting.alone) := by
  refine .ofWrite fun items => ?_
  rw [sequence_eq_written h, written_cons_of_none rfl]
  rfl

end Encoder

mutual

/-- The encoder of a format writes the parts of its values. -/
theorem Format.writes {side : Side} :
    (format : Format side) → format.encoder.Writes format.parting
  | .word width => Encoder.writes_word width
  | .compact type => Encoder.writes_compact type
  | .bool => ⟨fun _ => rfl, fun _ => rfl⟩
  | .triState => .ofWrite fun _ => rfl
  | .bytes => Encoder.writes_bytes
  | .text => Encoder.writes_text
  | .hash _ => .ofWrite fun hash => (written_singleton (.plain hash.bytes)).symm
  | .fixed size => Encoder.writes_fixed size
  | .era hwriteOnly => Encoder.writes_era hwriteOnly
  | .list item => item.writes.list
  | .option inner => .ofWrite inner.writes.optional
  | .plain inner => .ofWrite inner.writes.alone
  | .union variants => .ofWrite fun choice => by
      rcases variants.writes choice with ⟨hless, hpayload⟩ | ⟨hbeyond, hunnamed⟩
      · have hfault : (Part.tag (variants.tag choice) variants.count).fault? = none := if_pos hless
        simp only [hpayload, written_cons_of_none hfault, Part.bytes]
      · have hfault : (Part.tag (variants.tag choice) variants.count).fault? =
            some (.unknownVariant (variants.tag choice) variants.count) :=
          if_neg (Nat.not_lt_of_le hbeyond)
        simp only [hunnamed, written_cons_of_some hfault]

/-- A choice is written by the variant that its tag names. -/
theorem Variants.writes {side : Side} : (variants : Variants side) → (choice : variants.Choice) →
    (variants.tag choice < variants.count ∧
      variants.payload? choice = some (written (variants.parts choice))) ∨
    variants.count ≤ variants.tag choice ∧ variants.payload? choice = none
  | .nil, past => .inr ⟨Nat.zero_le past, rfl⟩
  | .cons first _, .inl value =>
      .inl ⟨Nat.succ_pos _, congrArg some (first.writes.alone value)⟩
  | .cons _ rest, .inr choice =>
      (rest.writes choice).imp (fun ⟨hless, hpayload⟩ => ⟨Nat.succ_lt_succ hless, hpayload⟩)
        fun ⟨hbeyond, hunnamed⟩ => ⟨Nat.succ_le_succ hbeyond, hunnamed⟩

end

/-! ### Writing into a sink -/

/-- What a write appends, and whether and how it fails, is the same for every sink, and the writer
in place does the same to the sink that it is handed. Either all parts of the value are
representable, and the write succeeds and appends them; or it fails at the first part that is not,
and has then appended exactly the parts before it. The parts that are representable are appended
in full. -/
theorem write_stops_at_unrepresentable {side : Side} (format : Format side) (value : format.Value) :
    ∃ appended fault,
      (∀ sink : Sink,
        sink.write format.encoder value = (⟨sink.bytes ++ appended⟩, fault) ∧
        format.inPlace.write value sink = (⟨sink.bytes ++ appended⟩, fault)) ∧
      (fault = none ↔ ∀ part ∈ format.parts value, part.fault? = none) ∧
      (fault = none → appended = (format.parts value).flatMap Part.bytes) ∧
      (∀ error, fault = some error →
        ∃ before part after, format.parts value = before ++ part :: after ∧
          (∀ earlier ∈ before, earlier.fault? = none) ∧ part.fault? = some error ∧
          appended = before.flatMap Part.bytes) ∧
      ∀ part ∈ format.parts value, part.fault? = none → part.InMemory → part.Tells part.bytes := by
  rcases houtput : format.encoder.write value with ⟨appended, fault⟩
  have hparts : written (format.parts value) = ⟨appended, fault⟩ := by
    rw [← houtput, format.writes.alone value, Format.parts]
  refine ⟨appended, fault, fun sink => ⟨?_, ?_⟩, ?_⟩
  · rw [Sink.write, houtput, Sink.append]
  · rw [format.appends_inPlace.alone value sink, houtput, Sink.append]
  rcases written_cases (format.parts value) with
    ⟨hall, hwhole⟩ | ⟨before, part, after, error, hsplit, hall, hfault, hpartial'⟩
  · obtain ⟨rfl, rfl⟩ := Output.mk.inj (hparts.symm.trans hwhole)
    refine ⟨⟨fun _ => hall, fun _ => rfl⟩, fun _ => rfl, fun error h => ?_,
      fun _ _ => Part.tells_bytes⟩
    cases h
  · obtain ⟨rfl, rfl⟩ := Output.mk.inj (hparts.symm.trans hpartial')
    refine ⟨⟨fun h => ?_, fun hrepresentable => ?_⟩, fun h => ?_, fun stopped h => ?_,
      fun _ _ => Part.tells_bytes⟩
    · cases h
    · rw [hrepresentable part (by simp [hsplit])] at hfault
      cases hfault
    · cases h
    · cases h
      exact ⟨before, part, after, hsplit, hall, hfault, rfl⟩

/-- The count and the first item stay in the sink when the second item does not fit its word. -/
example :
    Sink.write ⟨[0xff]⟩ (Format.list (.word .w8) : Format .both).encoder ([7, 300, 8] : List Int) =
      (⟨[0xff, 12, 7]⟩, some (.encoding (.outOfRange 300 (.unsigned .w8)))) := by
  decide

end ChainRpc.Scale
