import ChainRpc.Proofs.Scale.Delimited

/-!
# Byte strings as lists of bytes

A byte string is written and read in one piece, and a list of bytes item by item. Both write the
same bytes. Wherever one of the reads succeeds so does the other, with the same bytes and in the
same place. A count that no memory can have is refused by both in the same way. Where fewer bytes
are left than the count says, the read in one piece stops behind the count and the read item by item
at the end of the source, and both call the input malformed. A text is a byte string in UTF-8.
-/

namespace ChainRpc.Scale

open Text (Utf8.decode Utf8.encode)

/-- The bytes of a byte string as the items of a list. -/
def itemsOf (bytes : List UInt8) : List Int := bytes.map fun byte => (byte.toNat : Int)

/-! ### One piece and item by item -/

theorem splitExact_of_lt {α : Type} {n : Nat} {members : List α} (hshort : members.length < n) :
    splitExact n members = none := by
  cases hsplit : splitExact n members with
  | none => rfl
  | some parts =>
      obtain ⟨hwhole, hlength⟩ := splitExact_eq_some_iff.mp hsplit
      have henough := congrArg List.length hwhole
      rw [List.length_append, hlength] at henough
      omega

/-- Bytes in one piece, where there are too few: the cursor stays. -/
theorem read_piece_short {count : Nat} {cursor : Cursor} (hshort : cursor.remaining < count) :
    Reader.bytes count cursor =
      .error (.malformed (.short count cursor.position cursor.remaining)) cursor := by
  rw [Reader.bytes, splitExact_of_lt hshort]

theorem takes_item (byte : UInt8) :
    (Decoder.word .w8).read.Takes [byte] (byte.toNat : Int) := fun _ _ => rfl

theorem takes_items (bytes : List UInt8) :
    (Reader.repeated bytes.length (Decoder.word .w8).read).Takes bytes (itemsOf bytes) := by
  rw [Reader.takes_repeated_iff (Agree.word .w8).isLocal]
  refine ⟨List.length_map _, bytes.map fun byte => [byte], ?_, ?_⟩
  · rw [← List.flatMap_def, List.flatMap_singleton']
  · rw [itemsOf, List.forall₂_map_left_iff, List.forall₂_map_right_iff, List.forall₂_same]
    exact fun byte _ => takes_item byte

/-- Bytes item by item, where there are too few: all of them are read before the read fails. -/
theorem read_items_short {rest : List UInt8} {count : Nat} (hshort : rest.length < count)
    (position : Nat) :
    Reader.repeated count (Decoder.word .w8).read ⟨position, rest⟩ =
      .error (.malformed (.short 1 (position + rest.length) 0)) ⟨position + rest.length, []⟩ := by
  induction rest generalizing count position with
  | nil =>
      obtain ⟨count, rfl⟩ := Nat.exists_eq_add_one.mpr hshort
      rfl
  | cons first rest ih =>
      obtain ⟨count, rfl⟩ := Nat.exists_eq_add_one.mpr (Nat.zero_lt_of_lt hshort)
      have hfailed := ih (Nat.lt_of_succ_lt_succ hshort) (position + 1)
      rw [Nat.add_assoc, Nat.add_comm 1] at hfailed
      exact Reader.bind_eq_error_iff.mpr (.inr ⟨_, _, takes_item first position rest,
        Reader.bind_eq_error_iff.mpr (.inl hfailed)⟩)

/-! ### Behind a count -/

theorem readLength_malformed {cursor after : Cursor} {error : Error}
    (h : Compact.readLength cursor = .error error after) : ∃ cause, error = .malformed cause := by
  have hstops : Reader.Stops [] Compact.readLength := Compact.stops_readLength
  obtain ⟨taken, -, -, hcause | ⟨⟨tag, count, -, hmember, -⟩, -⟩⟩ := hstops h
  · exact hcause
  · cases hmember

/-- Both reads give the same bytes in the same place, or refuse the count alike, or find fewer bytes
than it says. -/
theorem read_bytes_cases (cursor : Cursor) :
    (∃ bytes after, Decoder.bytes.read cursor = .ok bytes after ∧
      (Decoder.list (.word .w8)).read cursor = .ok (itemsOf bytes) after) ∨
    (∃ cause after, Decoder.bytes.read cursor = .error (.malformed cause) after ∧
      (Decoder.list (.word .w8)).read cursor = .error (.malformed cause) after) ∨
    ∃ count behind, Compact.readLength cursor = .ok count behind ∧ behind.remaining < count ∧
      Decoder.bytes.read cursor =
        .error (.malformed (.short count behind.position behind.remaining)) behind ∧
      (Decoder.list (.word .w8)).read cursor =
        .error (.malformed (.short 1 (behind.position + behind.remaining) 0))
          ⟨behind.position + behind.remaining, []⟩ := by
  cases hcounted : Compact.readLength cursor with
  | error error after =>
      obtain ⟨cause, rfl⟩ := readLength_malformed hcounted
      exact .inr (.inl ⟨cause, after, Reader.bind_eq_error_iff.mpr (.inl hcounted),
        Reader.bind_eq_error_iff.mpr (.inl hcounted)⟩)
  | ok count behind =>
      obtain ⟨position, rest⟩ := behind
      by_cases hshort : rest.length < count
      · refine .inr (.inr ⟨count, ⟨position, rest⟩, rfl, hshort, ?_, ?_⟩)
        · exact Reader.bind_eq_error_iff.mpr (.inr ⟨_, _, hcounted, read_piece_short hshort⟩)
        · exact Reader.bind_eq_error_iff.mpr
            (.inr ⟨_, _, hcounted, read_items_short hshort position⟩)
      · obtain ⟨front, back, rfl, rfl⟩ :
            ∃ front back, rest = front ++ back ∧ front.length = count :=
          ⟨rest.take count, rest.drop count, (List.take_append_drop count rest).symm,
            List.length_take_of_le (Nat.le_of_not_lt hshort)⟩
        have hpiece : (Reader.bytes front.length).Takes front front :=
          Reader.takes_bytes_iff.mpr ⟨rfl, rfl⟩
        refine .inl ⟨front, ⟨position + front.length, back⟩, ?_, ?_⟩
        · exact Reader.bind_eq_ok_iff.mpr ⟨_, _, hcounted, hpiece position back⟩
        · exact Reader.bind_eq_ok_iff.mpr ⟨_, _, hcounted, takes_items front position back⟩

/-! ### Writing and texts -/

theorem write_item (byte : UInt8) :
    (Encoder.word .w8).write (byte.toNat : Int) = .ok [byte] := by
  have hfits : (0 : Int) ≤ byte.toNat ∧ (byte.toNat : Int) < (IntType.unsigned .w8).bound :=
    ⟨Int.natCast_nonneg _, Int.ofNat_lt.mpr byte.toNat_lt⟩
  simp [Encoder.word, Encoder.ofWrite, Agree.narrowed_eq_ok hfits, LittleEndian.ofNat, Width.bytes]

/-- A list of bytes is written as the byte string. -/
theorem write_items (bytes : List UInt8) :
    (Encoder.list (.word .w8)).write (itemsOf bytes) = Encoder.bytes.write bytes := by
  have heach : ∀ output ∈ (itemsOf bytes).map (Encoder.word .w8).write, output.fault = none := by
    simp [itemsOf, write_item]
  change Output.andThen (.ok (Compact.encode (itemsOf bytes).length)) _ = _
  rw [Output.sequence_eq_ok heach, Output.ok_andThen]
  simp only [itemsOf, List.map_map, List.length_map, Function.comp_def, write_item,
    Output.bytes_ok, Output.fault_ok]
  rw [← List.flatMap_def, List.flatMap_singleton']
  rfl

/-- A text is read exactly where a byte string in UTF-8 is. -/
theorem read_text_eq_ok_iff {cursor after : Cursor} {text : String} :
    Decoder.text.read cursor = .ok text after ↔
      Decoder.bytes.read cursor = .ok (Utf8.encode text) after := by
  constructor
  · intro hread
    obtain ⟨bytes, middle, hread, hdecoded⟩ := Reader.bind_eq_ok_iff.mp hread
    cases hdecode : Utf8.decode bytes with
    | error fault =>
        rw [hdecode] at hdecoded
        cases hdecoded
    | ok text' =>
        rw [hdecode] at hdecoded
        cases hdecoded
        rw [← Text.Utf8.decode_eq_ok_iff.mp hdecode]
        exact hread
  · intro hread
    refine Reader.bind_eq_ok_iff.mpr ⟨_, _, hread, ?_⟩
    rw [Text.Utf8.decode_encode]
    rfl

/-- Byte strings are lists of bytes: both write the same bytes into every sink, and from every
cursor both are read with the same bytes and the same place, or both are malformed. They are refused
alike for their count, and else each where it finds that there are fewer bytes than the count says.
A text is read exactly where its UTF-8 is read as a byte string, up to the same place. -/
theorem byte_strings_are_lists :
    (∀ (bytes : List UInt8) (sink : Sink),
      sink.write (.list (.word .w8)) (itemsOf bytes) = sink.write .bytes bytes ∧
        sink.write .bytes bytes =
          (⟨sink.bytes ++ (Compact.encode bytes.length ++ bytes)⟩, none)) ∧
    (∀ cursor : Cursor,
      (∃ bytes after, Decoder.bytes.read cursor = .ok bytes after ∧
        (Decoder.list (.word .w8)).read cursor = .ok (itemsOf bytes) after) ∨
      (∃ cause after, Decoder.bytes.read cursor = .error (.malformed cause) after ∧
        (Decoder.list (.word .w8)).read cursor = .error (.malformed cause) after) ∨
      ∃ count behind, Compact.readLength cursor = .ok count behind ∧ behind.remaining < count ∧
        Decoder.bytes.read cursor =
          .error (.malformed (.short count behind.position behind.remaining)) behind ∧
        (Decoder.list (.word .w8)).read cursor =
          .error (.malformed (.short 1 (behind.position + behind.remaining) 0))
            ⟨behind.position + behind.remaining, []⟩) ∧
    ∀ (cursor after : Cursor) (text : String),
      Decoder.text.read cursor = .ok text after ↔
        Decoder.bytes.read cursor = .ok (Utf8.encode text) after := by
  refine ⟨fun bytes sink => ⟨?_, rfl⟩, read_bytes_cases, fun _ _ _ => read_text_eq_ok_iff⟩
  rw [Sink.write, write_items]
  rfl

end ChainRpc.Scale
