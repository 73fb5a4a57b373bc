import ChainRpc.Proofs.Scale.Delimited

/-!
# The layouts of compact integers

The first byte of a compact integer says in its two low bits which of four layouts follows, and
the layout says how many bytes there are and which number they hold. Reading succeeds on these
layouts and refuses everything else as malformed. The type that is asked for has no say in how
many bytes are read: it only refuses the numbers that it does not hold. So a number is read back
into every type that holds it, whichever type it was written from.
-/

namespace ChainRpc.Scale.Compact

open LittleEndian Reader

/-- The bytes hold a number in the layout that the low bits of the first of them announce. -/
inductive LaidOut : List UInt8 → Nat → Prop
  /-- The other six bits are the number. -/
  | single {first : UInt8} (hlow : first.toNat % 4 = 0) : LaidOut [first] (first.toNat / 4)
  /-- A word of two bytes without its low bits is the number. -/
  | two {first second : UInt8} (hlow : first.toNat % 4 = 1) :
      LaidOut [first, second] (toNat [first, second] / 4)
  /-- A word of four bytes without its low bits is the number. -/
  | four {first second third fourth : UInt8} (hlow : first.toNat % 4 = 2) :
      LaidOut [first, second, third, fourth] (toNat [first, second, third, fourth] / 4)
  /-- The other six bits tell the length of a magnitude of 4 to 67 bytes, of which only the first
  sixteen may be other than zero. -/
  | big {first : UInt8} {magnitude : List UInt8} (hlow : first.toNat % 4 = 3)
      (hlength : magnitude.length = first.toNat / 4 + 4)
      (hzeros : ∀ byte ∈ magnitude.drop 16, byte = 0) :
      LaidOut (first :: magnitude) (toNat magnitude)

/-- The bytes behind the sixteenth are zero exactly in the magnitudes that fit 128 bits. -/
theorem drop_sixteen_zero_iff {magnitude : List UInt8} :
    (∀ byte ∈ magnitude.drop 16, byte = 0) ↔ toNat magnitude < 2 ^ 128 := by
  rw [← all_drop_widestMagnitude_iff, List.all_eq_true]
  simp only [widestMagnitude, decide_eq_true_eq]

theorem LaidOut.spelling {bytes : List UInt8} {n : Nat} (h : LaidOut bytes n) :
    Spelling bytes n := by
  cases h with
  | single hlow => exact .single (ofByte_eq_iff.mpr hlow)
  | two hlow => exact .two (ofByte_eq_iff.mpr hlow) (by simp)
  | four hlow => exact .four (ofByte_eq_iff.mpr hlow) (by simp)
  | big hlow hlength hzeros =>
      exact .big (ofByte_eq_iff.mpr hlow) hlength (drop_sixteen_zero_iff.mp hzeros)

theorem Spelling.laidOut {bytes : List UInt8} {n : Nat} (h : Spelling bytes n) :
    LaidOut bytes n := by
  cases h with
  | single hmode => exact .single (ofByte_eq_iff.mp hmode)
  | two hmode hlength =>
      obtain ⟨second, rfl⟩ := List.length_eq_one_iff.mp hlength
      exact .two (ofByte_eq_iff.mp hmode)
  | four hmode hlength =>
      obtain ⟨second, third, fourth, rfl⟩ := List.length_eq_three.mp hlength
      exact .four (ofByte_eq_iff.mp hmode)
  | big hmode hlength hfits =>
      exact .big (ofByte_eq_iff.mp hmode) hlength (drop_sixteen_zero_iff.mpr hfits)

/-- The layouts are the spellings, told byte by byte. -/
theorem laidOut_iff_spelling {bytes : List UInt8} {n : Nat} :
    LaidOut bytes n ↔ Spelling bytes n :=
  ⟨LaidOut.spelling, Spelling.laidOut⟩

theorem laidOut_encode {n : Nat} (hbound : n < 2 ^ 128) : LaidOut (encode n) n :=
  (spelling_encode hbound).laidOut

/-! ### Reading a number -/

/-- A read gives a number exactly where the bytes to come begin with a layout of it. -/
theorem read_eq_ok_iff {cursor after : Cursor} {n : Nat} :
    read cursor = .ok n after ↔
      ∃ taken, LaidOut taken n ∧ cursor.rest = taken ++ after.rest ∧
        after.position = cursor.position + taken.length := by
  constructor
  · intro h
    obtain ⟨taken, hrest, hposition, htakes⟩ := isLocal_read h
    exact ⟨taken, laidOut_iff_spelling.mpr (takes_read_iff.mp htakes), hrest, hposition⟩
  · rintro ⟨taken, hlayout, hrest, hposition⟩
    have htakes := takes_read_iff.mpr (laidOut_iff_spelling.mp hlayout)
    obtain ⟨position, source⟩ := cursor
    obtain ⟨position', rest⟩ := after
    obtain rfl : source = taken ++ rest := hrest
    obtain rfl : position' = position + taken.length := hposition
    exact htakes position rest

/-- A read that gives no number finds malformed input. -/
theorem read_malformed {cursor : Cursor} (h : ∀ n after, read cursor ≠ .ok n after) :
    ∃ cause after, read cursor = .error (.malformed cause) after := by
  cases hread : read cursor with
  | ok n after => exact absurd hread (h n after)
  | error error after =>
      have hstops : Stops [] read := stops_read
      obtain ⟨taken, -, -, hcause⟩ := hstops hread
      rcases hcause with ⟨cause, rfl⟩ | ⟨⟨tag, count, -, hmem, -⟩, -⟩
      · exact ⟨cause, after, rfl⟩
      · cases hmem

/-! ### Reading into a type -/

/-- What a type makes of a number that has been read: it refuses those it does not hold. -/
def confined (type : IntType) : EStateM.Result Error Cursor Nat → EStateM.Result Error Cursor Int
  | .ok n after =>
      if type.holds n then .ok n after else .error (.malformed (.compactRange n type)) after
  | .error error after => .error error after

/-- The type is asked after the number has been read. -/
theorem readInto_eq (type : IntType) (cursor : Cursor) :
    readInto type cursor = confined type (read cursor) := by
  change EStateM.bind read _ cursor = _
  unfold EStateM.bind confined
  cases read cursor with
  | error error after => simp
  | ok n after =>
      simp only
      split
      · rfl
      · rfl

/-- Only the numbers from zero on that the type holds are written. -/
theorem write_eq_ok_iff {type : IntType} {value : Int} {bytes : List UInt8} :
    (Encoder.compact type).write value = .ok bytes ↔
      (0 ≤ value ∧ type.holds value = true) ∧ bytes = encode value.toNat := by
  simp only [Encoder.compact, Encoder.ofWrite, Encoder.narrowed, Output.ok, Output.fail,
    Bool.and_eq_true, decide_eq_true_eq]
  split
  next h => simp [h, eq_comm]
  next h => simp [h]

/-- What was written from one type is read in full into any other. -/
theorem readInto_written {type : IntType} (other : IntType) {value : Int} {bytes : List UInt8}
    (h : (Encoder.compact type).write value = .ok bytes) (position : Nat) (rest : List UInt8) :
    readInto other ⟨position, bytes ++ rest⟩ =
      confined other (.ok value.toNat ⟨position + bytes.length, rest⟩) := by
  obtain ⟨⟨hnonneg, hholds⟩, rfl⟩ := write_eq_ok_iff.mp h
  have hbelow := (IntType.holds_iff_of_nonneg hnonneg).mp hholds
  have hwidest := type.bound_le
  have htakes := takes_read_iff.mpr (spelling_encode (n := value.toNat) (by omega))
  rw [readInto_eq, htakes position rest]

/-- Reading gives a number exactly for the bytes that hold it in one of the layouts, and everything
else is malformed. Each type takes the same bytes and gives the number, or refuses one that it does
not hold. So a number that was written from any type is read from its bytes into every type that
holds it, and refused by the others. -/
theorem reads_exactly_the_layouts :
    (∀ (cursor after : Cursor) (n : Nat),
      read cursor = .ok n after ↔
        ∃ taken, LaidOut taken n ∧ cursor.rest = taken ++ after.rest ∧
          after.position = cursor.position + taken.length) ∧
    (∀ (bytes : List UInt8) (n : Nat), LaidOut bytes n → n < 2 ^ 128) ∧
    (∀ cursor : Cursor, (∀ taken n, taken <+: cursor.rest → ¬ LaidOut taken n) →
      ∃ cause after, read cursor = .error (.malformed cause) after) ∧
    (∀ (type : IntType) (cursor : Cursor),
      (Decoder.compact type).read cursor =
        match read cursor with
        | .ok n after =>
            if type.holds n then .ok n after else .error (.malformed (.compactRange n type)) after
        | .error error after => .error error after) ∧
    (∀ (type other : IntType) (value : Int) (bytes : List UInt8),
      (Encoder.compact type).write value = .ok bytes → ∀ (position : Nat) (rest : List UInt8),
        (Decoder.compact other).read ⟨position, bytes ++ rest⟩ =
          if other.holds value then .ok value ⟨position + bytes.length, rest⟩
          else .error (.malformed (.compactRange value.toNat other))
            ⟨position + bytes.length, rest⟩) := by
  refine ⟨fun cursor after n => read_eq_ok_iff, ?_, ?_, readInto_eq, ?_⟩
  · intro bytes n h
    exact h.spelling.lt
  · intro cursor hnone
    apply read_malformed
    intro n after h
    obtain ⟨taken, hlayout, hrest, -⟩ := read_eq_ok_iff.mp h
    exact hnone taken n ⟨after.rest, hrest.symm⟩ hlayout
  · intro type other value bytes h position rest
    have hnonneg := (write_eq_ok_iff.mp h).1.1
    refine (readInto_written other h position rest).trans ?_
    rw [confined, Int.toNat_of_nonneg hnonneg]

end ChainRpc.Scale.Compact
