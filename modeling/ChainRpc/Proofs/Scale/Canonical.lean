import ChainRpc.Proofs.Scale.RoundTrip

/-!
# Canonical form

Reading accepts more spellings of a value than writing produces: compact integers, counts and
lengths may be longer than they need to be. Whatever was read is written in no more bytes, and in
the very same bytes if it was written in as many. So the written form is the one shortest
byte string that is read as its value.
-/

namespace ChainRpc.Scale

/-- A value that was read is written, in the bytes it was read from or in fewer. The written
form is read as the value, and every other byte string that is read as the value is longer. -/
theorem written_is_shortest (format : Format .both) {position : Nat} {source : List UInt8}
    {value : format.Value} {after : Cursor}
    (h : format.decoder.read ⟨position, source⟩ = .ok value after) :
    ∃ taken written : List UInt8,
      source = taken ++ after.rest ∧ after.position = position + taken.length ∧
      (∀ sink : Sink, sink.write format.encoder value = (⟨sink.bytes ++ written⟩, none)) ∧
      written.length ≤ taken.length ∧ (written.length = taken.length → written = taken) ∧
      format.decoder.read.Takes written value ∧
      ∀ other, format.decoder.read.Takes other value → other ≠ written →
        written.length < other.length := by
  -- The bytes that the read took are all it depends on; the rest follows from agreement.
  have hagree := format.mirrors.alone
  obtain ⟨taken, hsource, hafter, htakes⟩ := hagree.isLocal h
  have hvalid := hagree.valid_of_takes htakes
  have hshort := hagree.shortens htakes
  refine ⟨taken, (format.encoder.write value).bytes, hsource, hafter, ?_, ?_, ?_, ?_, ?_⟩
  · exact Sink.write_wellFormed hvalid
  · exact hshort.length_le
  · exact hshort.eq_of_length_eq
  · exact hagree.takes hvalid
  · intro other hother hdifferent
    exact (hagree.shortens hother).resolve_left fun hsame => hdifferent hsame.symm

/-- A list of one byte string whose count and whose length are longer than they need to be. -/
theorem written_is_shortest_overlong :
    (Format.list .bytes : Format .both).decoder.read ⟨3, [0x05, 0, 0x06, 0, 0, 0, 0x61, 0xFF]⟩ =
        .ok [[0x61]] ⟨10, [0xFF]⟩ ∧
      ∃ taken written : List UInt8,
        [0x05, 0, 0x06, 0, 0, 0, 0x61, 0xFF] = taken ++ [0xFF] ∧ 10 = 3 + taken.length ∧
        (∀ sink : Sink, sink.write (Format.list .bytes : Format .both).encoder [[0x61]] =
          (⟨sink.bytes ++ written⟩, none)) ∧
        written.length ≤ taken.length ∧ (written.length = taken.length → written = taken) ∧
        (Format.list .bytes : Format .both).decoder.read.Takes written [[0x61]] ∧
        ∀ other, (Format.list .bytes : Format .both).decoder.read.Takes other [[0x61]] →
          other ≠ written → written.length < other.length := by
  have hread : (Format.list .bytes : Format .both).decoder.read
      ⟨3, [0x05, 0, 0x06, 0, 0, 0, 0x61, 0xFF]⟩ = .ok [[0x61]] ⟨10, [0xFF]⟩ := by
    rfl
  exact ⟨hread, written_is_shortest (.list .bytes) hread⟩

end ChainRpc.Scale
