import ChainRpc.Proofs.Scale.WellFormed

/-!
# Round trips

A well-formed value is always written, and the bytes that the write appends are read back as the
value, wherever they stand. A record is a sequence of fields that are written one after the other;
reading their formats in the same order gives the fields back and leaves no byte.
-/

namespace ChainRpc.Scale

/-- A value together with its format. -/
structure Field where
  format : Format .both
  value : format.Value

namespace Field

/-- The value fits its format. -/
def WellFormed (field : Field) : Prop := field.format.WellFormed field.value

/-- The write of the field. -/
def output (field : Field) : Output := field.format.encoder.write field.value

end Field

/-- Writes the fields of a record, up to the first that fails. -/
def Sink.writeFields (sink : Sink) : List Field → Sink × Option Error
  | [] => (sink, none)
  | field :: rest =>
      match sink.write field.format.encoder field.value with
      | (sink, none) => sink.writeFields rest
      | (sink, some error) => (sink, some error)

/-- Reads the fields of a record whose formats are known. -/
def Reader.fields : List (Format .both) → Reader (List Field)
  | [] => pure []
  | format :: rest => do
      let value ← format.decoder.read
      let fields ← Reader.fields rest
      pure (⟨format, value⟩ :: fields)

/-- Writing a well-formed value appends bytes that do not depend on the sink. -/
theorem Sink.write_wellFormed {format : Format .both} {value : format.Value}
    (h : format.WellFormed value) (sink : Sink) :
    sink.write format.encoder value =
      (⟨sink.bytes ++ (format.encoder.write value).bytes⟩, none) := by
  rw [Sink.write, Sink.append, format.mirrors.alone.succeeds h]

theorem Sink.writeFields_wellFormed {fields : List Field} (h : ∀ field ∈ fields, field.WellFormed)
    (sink : Sink) :
    sink.writeFields fields =
      (⟨sink.bytes ++ (fields.map fun field => field.output.bytes).flatten⟩, none) := by
  induction fields generalizing sink with
  | nil => simp [writeFields]
  | cons field rest ih =>
      have hfirst : field.format.WellFormed field.value := h field (by simp)
      rw [writeFields, write_wellFormed hfirst]
      simp only
      rw [ih fun other hmem => h other (by simp [hmem])]
      simp [Field.output]

/-- The formats of a record take back what its fields wrote. -/
theorem Reader.takes_fields {fields : List Field} (h : ∀ field ∈ fields, field.WellFormed) :
    (Reader.fields (fields.map Field.format)).Takes
      (fields.map fun field => field.output.bytes).flatten fields := by
  induction fields with
  | nil => exact takes_pure []
  | cons field rest ih =>
      have hfirst : field.format.WellFormed field.value := h field (by simp)
      have hrest := ih fun other hmem => h other (by simp [hmem])
      have hpure : Reader.Takes
          (Reader.fields (rest.map Field.format) >>= fun fields => pure (field :: fields))
          (rest.map fun field => field.output.bytes).flatten (field :: rest) := by
        rw [← List.append_nil (rest.map fun field => field.output.bytes).flatten]
        exact hrest.bind (takes_pure _)
      exact (field.format.mirrors.alone.takes hfirst).bind hpure

/-- Every well-formed value of every format is written, whatever the sink holds already, and is
read back from the bytes that were appended, whatever follows them. The option of a boolean is
one byte, and the option of that option has a presence byte. Records are read back field by
field. -/
theorem read_write_roundTrip :
    (∀ (format : Format .both) (value : format.Value), format.WellFormed value →
      ∃ written : List UInt8,
        (∀ sink : Sink, sink.write format.encoder value = (⟨sink.bytes ++ written⟩, none)) ∧
        ∀ position rest, format.decoder.read ⟨position, written ++ rest⟩ =
          .ok value ⟨position + written.length, rest⟩) ∧
    (∀ value : Option Bool, (Format.option .bool : Format .both).encoder.write value =
      .ok [Encoder.triStateByte value]) ∧
    (∀ value : Option Bool, (Format.option (.option .bool) : Format .both).encoder.write
      (some value) = .ok [1, Encoder.triStateByte value]) ∧
    ∀ fields : List Field, (∀ field ∈ fields, field.WellFormed) →
      ∃ written : List UInt8,
        (∀ sink : Sink, sink.writeFields fields = (⟨sink.bytes ++ written⟩, none)) ∧
        Reader.fields (fields.map Field.format) (Cursor.start written) =
          .ok fields ⟨written.length, []⟩ := by
  refine ⟨?_, fun value => rfl, fun value => rfl, ?_⟩
  · intro format value h
    exact ⟨(format.encoder.write value).bytes, Sink.write_wellFormed h,
      format.mirrors.alone.takes h⟩
  · intro fields h
    refine ⟨_, Sink.writeFields_wellFormed h, ?_⟩
    rw [Cursor.start, (Reader.takes_fields h).read_alone 0, Nat.zero_add]

/-- A record with a number in the widest layout, options of both kinds and a nested union. -/
def sampleRecord : List Field :=
  [⟨.compact (.unsigned .w64), (1073741824 : Int)⟩,
   ⟨.list (.option (.option .bool)), [none, some none, some (some true)]⟩,
   ⟨.union (.cons .text (.cons (.list (.union (.cons .bool .nil))) .nil)),
    Sum.inr (Sum.inl [Sum.inl true, Sum.inl false])⟩,
   ⟨.fixed 2, [7, 9]⟩]

theorem sampleRecord_wellFormed : ∀ field ∈ sampleRecord, field.WellFormed := by
  intro field hfield
  simp only [sampleRecord, List.mem_cons, List.not_mem_nil, or_false] at hfield
  rcases hfield with rfl | rfl | rfl | rfl
  · exact ⟨by decide, by decide⟩
  · exact ⟨by decide, fun _ _ _ _ _ _ => trivial⟩
  · refine ⟨by decide, by decide, fun choice hchoice => ?_⟩
    rcases hchoice with - | ⟨-, - | ⟨-, ⟨⟩⟩⟩
    · exact ⟨by decide, trivial⟩
    · exact ⟨by decide, trivial⟩
  · rfl

theorem sampleRecord_roundTrip :
    (∀ field ∈ sampleRecord, field.WellFormed) ∧
      ∃ written : List UInt8,
        (∀ sink : Sink, sink.writeFields sampleRecord = (⟨sink.bytes ++ written⟩, none)) ∧
        Reader.fields (sampleRecord.map Field.format) (Cursor.start written) =
          .ok sampleRecord ⟨written.length, []⟩ :=
  ⟨sampleRecord_wellFormed, read_write_roundTrip.2.2.2 sampleRecord sampleRecord_wellFormed⟩

end ChainRpc.Scale
