import ChainRpc.Proofs.Scale.Mapped

/-!
# Lists are no longer than the source

A list announces the number of its items, and any number can be announced. Each item takes a byte
at least, unless it has no length at all. So a list that is read has no more items than there are
bytes behind its count, a list whose count says more is refused, and a buffer with room for as many
items as there are bytes left never grows.
-/

namespace ChainRpc.Scale

variable {α β : Type}

namespace Reader

/-- Each success of the read leaves fewer bytes than there were. -/
def Advances (read : Reader α) : Prop :=
  ∀ ⦃cursor value after⦄, read cursor = .ok value after → after.remaining < cursor.remaining

/-- A local read never goes back. -/
theorem IsLocal.remaining_le {read : Reader α} (h : read.IsLocal) {cursor after : Cursor}
    {value : α} (hread : read cursor = .ok value after) : after.remaining ≤ cursor.remaining := by
  obtain ⟨front, hrest, -⟩ := h hread
  rw [Cursor.remaining, Cursor.remaining, hrest, List.length_append]
  exact Nat.le_add_left _ _

/-- A local read leaves fewer bytes unless it gives a value for no bytes. -/
theorem IsLocal.advances_iff {read : Reader α} (h : read.IsLocal) :
    read.Advances ↔ ∀ value, ¬read.Takes [] value := by
  constructor
  · intro hadvances value htakes
    exact Nat.lt_irrefl _ (hadvances (htakes 0 []))
  · intro hnever cursor value after hread
    obtain ⟨front, hrest, -, htakes⟩ := h hread
    have hnonempty : front ≠ [] := by
      rintro rfl
      exact hnever value htakes
    rw [Cursor.remaining, Cursor.remaining, hrest, List.length_append]
    exact Nat.lt_add_of_pos_left (List.length_pos_of_ne_nil hnonempty)

theorem advances_byte : Reader.byte.Advances := by
  rw [isLocal_byte.advances_iff]
  intro value htakes
  cases takes_byte_iff.mp htakes

theorem advances_bytes {n : Nat} (hpos : 0 < n) : (Reader.bytes n).Advances := by
  rw [(isLocal_bytes n).advances_iff]
  intro value htakes
  obtain ⟨rfl, rfl⟩ := takes_bytes_iff.mp htakes
  exact Nat.lt_irrefl 0 hpos

theorem Advances.bind {first : Reader α} {next : α → Reader β} (h : first.Advances)
    (hnext : ∀ a, (next a).IsLocal) : (first >>= next).Advances := by
  intro cursor value after hread
  obtain ⟨a, middle, hfirst, hrest⟩ := bind_eq_ok_iff.mp hread
  exact Nat.lt_of_le_of_lt ((hnext a).remaining_le hrest) (h hfirst)

theorem advances_map_iff {read : Reader α} (f : α → β) : (f <$> read).Advances ↔ read.Advances := by
  simp only [Advances, map_apply]
  constructor
  · intro h cursor value after hread
    have hmapped : converted f (read cursor) = .ok (f value) after := by rw [hread]; rfl
    exact h hmapped
  · intro h cursor value after hread
    cases hsource : read cursor with
    | error error stop =>
        rw [hsource] at hread
        cases hread
    | ok source stop =>
        rw [hsource] at hread
        cases hread
        exact h hsource

/-- Items that take a byte at least are no more than the bytes that are taken. -/
theorem Advances.repeated_le {item : Reader α} (h : item.Advances) {count : Nat}
    {cursor after : Cursor} {items : List α}
    (hread : repeated count item cursor = .ok items after) :
    items.length = count ∧ count + after.remaining ≤ cursor.remaining := by
  induction count generalizing cursor items with
  | zero =>
      cases hread
      exact ⟨rfl, by omega⟩
  | succ count ih =>
      obtain ⟨first, middle, hfirst, hmore⟩ := bind_eq_ok_iff.mp hread
      obtain ⟨rest, last, hrest, hpure⟩ := bind_eq_ok_iff.mp hmore
      cases hpure
      obtain ⟨hlength, hbound⟩ := ih hrest
      have hstep := h hfirst
      exact ⟨congrArg (· + 1) hlength, by omega⟩

/-- However many items are asked for, if one is read from no bytes then all of them are. -/
theorem repeated_of_takes_nil {item : Reader α} {value : α} (h : item.Takes [] value)
    (count : Nat) (cursor : Cursor) :
    repeated count item cursor = .ok (List.replicate count value) cursor := by
  induction count with
  | zero => rfl
  | succ count ih => exact (bind_of_ok (h cursor.position cursor.rest)).trans (bind_of_ok ih)

/-! ### Buffers -/

/-- Reads items into a buffer with room for so many of them. An item that finds the buffer full ends
the read with nothing. -/
def repeatedWithin (item : Reader α) : (count room : Nat) → Reader (Option (List α))
  | 0, _ => pure (some [])
  | _ + 1, 0 => do
      let _ ← item
      pure none
  | count + 1, room + 1 => do
      let first ← item
      let rest ← repeatedWithin item count room
      pure (rest.map (first :: ·))

/-- What is read next sees only the outcome of what was read first. -/
theorem bind_congr_at {first other : Reader α} {next : α → Reader β} {cursor : Cursor}
    (hsame : first cursor = other cursor) : (first >>= next) cursor = (other >>= next) cursor := by
  change EStateM.bind first next cursor = EStateM.bind other next cursor
  rw [EStateM.bind, EStateM.bind, hsame]

/-- Items that take a byte at least find room in a buffer for as many as there are bytes left. -/
theorem Advances.repeatedWithin_eq {item : Reader α} (h : item.Advances) {count room : Nat}
    {cursor : Cursor} (henough : min count cursor.remaining ≤ room) :
    repeatedWithin item count room cursor = (some <$> repeated count item) cursor := by
  induction count generalizing room cursor with
  | zero => rfl
  | succ count ih =>
      rw [repeated, map_bind]
      cases hfirst : item cursor with
      | error error after =>
          cases room <;> exact (bind_of_error hfirst).trans (bind_of_error hfirst).symm
      | ok first middle =>
          have hstep := h hfirst
          cases room with
          | zero => omega
          | succ room =>
              -- One place is taken, and there is at least one byte less to be read.
              have hfits : min count middle.remaining ≤ room := by omega
              refine (bind_of_ok hfirst).trans (.trans ?_ (bind_of_ok hfirst).symm)
              rw [bind_congr_at (ih hfits), bind_map_left, map_bind]
              simp only [map_pure, Option.map_some]

end Reader

open Reader

namespace Decoder

/-- Reads a list into a buffer that is made behind the count, with room for as many items as the
count says or, if these are fewer, as there are bytes left. -/
def readPrepared (item : Decoder α) : Reader (Option (List α)) := do
  let count ← Compact.readLength
  let behind ← get
  repeatedWithin item.read count (min count behind.remaining)

/-- Lists of these items are no longer than the source. -/
structure ListsWithinSource (item : Decoder α) : Prop where
  /-- The items are as many as the count says, and no more than the bytes that they take. -/
  counted : ∀ ⦃cursor items after⦄, (list item).read cursor = .ok items after →
    ∃ behind taken, Compact.readLength cursor = .ok items.length behind ∧
      behind.rest = taken ++ after.rest ∧ after.position = behind.position + taken.length ∧
      items.length ≤ taken.length
  /-- A count of more items than there are bytes behind it is refused. -/
  refused : ∀ ⦃cursor count behind⦄, Compact.readLength cursor = .ok count behind →
    behind.remaining < count → ∃ error after, (list item).read cursor = .error error after
  /-- The buffer never grows, whether the list is read or refused. -/
  prepared : ∀ cursor, item.readPrepared cursor = (some <$> (list item).read) cursor

theorem listsWithinSource_of_advances {item : Decoder α} (hlocal : item.read.IsLocal)
    (h : item.read.Advances) : item.ListsWithinSource where
  counted cursor items after hread := by
    obtain ⟨count, behind, hcount, hitems⟩ := bind_eq_ok_iff.mp hread
    obtain ⟨rfl, hbound⟩ := h.repeated_le hitems
    obtain ⟨taken, hrest, hposition, -⟩ := isLocal_repeated hlocal items.length hitems
    refine ⟨behind, taken, hcount, hrest, hposition, ?_⟩
    rw [Cursor.remaining, Cursor.remaining, hrest, List.length_append] at hbound
    omega
  refused cursor count behind hcount hmore := by
    cases hread : (list item).read cursor with
    | error error after => exact ⟨error, after, rfl⟩
    | ok items after =>
        obtain ⟨count', behind', hcount', hitems⟩ := bind_eq_ok_iff.mp hread
        rw [hcount] at hcount'
        cases hcount'
        have hfew := (h.repeated_le hitems).2
        omega
  prepared cursor := by
    change _ = (some <$> (Compact.readLength >>= fun count => repeated count item.read)) cursor
    rw [map_bind]
    cases hcount : Compact.readLength cursor with
    | error error after => exact (bind_of_error hcount).trans (bind_of_error hcount).symm
    | ok count behind =>
        refine (bind_of_ok hcount).trans (.trans ?_ (bind_of_ok hcount).symm)
        exact h.repeatedWithin_eq (Nat.le_refl _)

/-- However many items are announced, if one is read from no bytes then all of them are. -/
theorem read_list_of_takes_nil {item : Decoder α} {value : α} (h : item.read.Takes [] value)
    {cursor behind : Cursor} {count : Nat} (hcount : Compact.readLength cursor = .ok count behind) :
    (list item).read cursor = .ok (List.replicate count value) behind :=
  (bind_of_ok hcount).trans (repeated_of_takes_nil h count behind)

/-- The lists of those items are no longer than the source that take a byte at least. -/
theorem listsWithinSource_iff {item : Decoder α} (hlocal : item.read.IsLocal) :
    item.ListsWithinSource ↔ item.read.Advances := by
  refine ⟨fun hwithin => hlocal.advances_iff.mpr ?_, listsWithinSource_of_advances hlocal⟩
  intro value htakes
  -- The byte 4 announces one item, and no byte is left for it.
  have hcount : Compact.readLength ⟨0, [4]⟩ = .ok 1 ⟨1, []⟩ := rfl
  obtain ⟨error, after, hfailed⟩ := hwithin.refused hcount Nat.zero_lt_one
  rw [read_list_of_takes_nil htakes hcount] at hfailed
  cases hfailed

end Decoder

/-! ### Formats -/

namespace Compact

theorem advances_read : read.Advances := advances_byte.bind isLocal_readBehind

theorem advances_readLength : readLength.Advances :=
  advances_read.bind fun _ => isLocal_ite (isLocal_pure _) (isLocal_fail _)

theorem advances_readInto (type : IntType) : (readInto type).Advances :=
  advances_read.bind fun _ => isLocal_ite (isLocal_pure _) (isLocal_fail _)

end Compact

namespace Decoder

theorem advances_readBool : readBool.Advances :=
  advances_byte.bind fun _ =>
    isLocal_ite (isLocal_pure _) (isLocal_ite (isLocal_pure _) (isLocal_fail _))

theorem advances_readTriState : readTriState.Advances :=
  advances_byte.bind fun _ => isLocal_ite (isLocal_pure _)
    (isLocal_ite (isLocal_pure _) (isLocal_ite (isLocal_pure _) (isLocal_fail _)))

theorem advances_behindPresence {read : Reader α} (h : read.IsLocal) :
    (behindPresence read).Advances :=
  advances_readBool.bind fun _ => isLocal_ite (isLocal_map some h) (isLocal_pure none)

theorem advances_readBytes : Decoder.bytes.read.Advances :=
  Compact.advances_readLength.bind isLocal_bytes

theorem advances_readText : Decoder.text.read.Advances := by
  refine advances_readBytes.bind fun bytes => ?_
  split
  · exact isLocal_pure _
  · exact isLocal_fail _

theorem advances_readHash {size : Nat} (hpos : 0 < size) : (Decoder.hash size).read.Advances :=
  fun _ _ _ hread => advances_bytes hpos (Agree.readHash_eq_ok_iff.mp hread)

end Decoder

namespace Format

/-- Bytes or a hash of no length, whatever is mapped over them. -/
def IsVoid {side : Side} : Format side → Prop
  | .fixed size => size = 0
  | .hash size => size = 0
  | .plain inner => inner.IsVoid
  | _ => False

/-- The optional form of each format takes a byte at least, the presence byte or the option of a
boolean. -/
theorem advances_optional (format : Format .both) : format.decoder.readOptional.Advances := by
  by_cases hboolean : format = .bool
  · subst hboolean
    exact Decoder.advances_readTriState
  · rw [Format.isUsual hboolean]
    exact Decoder.advances_behindPresence format.mirrors.alone.isLocal

theorem advances_of_not_isVoid :
    (format : Format .both) → ¬format.IsVoid → format.decoder.read.Advances
  | .word width, _ => by
      have hpos : 0 < width.bytes := by cases width <;> decide
      exact (advances_bytes hpos).bind fun _ => isLocal_pure _
  | .compact type, _ => Compact.advances_readInto type
  | .bool, _ => Decoder.advances_readBool
  | .triState, _ => Decoder.advances_readTriState
  | .bytes, _ => Decoder.advances_readBytes
  | .text, _ => Decoder.advances_readText
  | .hash _, hsolid => Decoder.advances_readHash (Nat.pos_of_ne_zero hsolid)
  | .fixed _, hsolid => advances_bytes (Nat.pos_of_ne_zero hsolid)
  | .era hwriteOnly, _ => nomatch hwriteOnly
  | .list item, _ =>
      Compact.advances_readLength.bind (isLocal_repeated item.mirrors.alone.isLocal)
  | .option inner, _ => inner.advances_optional
  | .plain inner, hsolid => inner.advances_of_not_isVoid hsolid
  | .union variants, _ => advances_byte.bind fun tag => by
      split
      next read hread => exact variants.agree.isLocal hread
      next => exact isLocal_fail _

/-- A value of no length is read from no bytes. -/
theorem exists_takes_nil : (format : Format .both) → format.IsVoid →
    ∃ value, format.decoder.read.Takes [] value
  | .fixed _, hvoid => ⟨[], takes_bytes_iff.mpr ⟨rfl, hvoid.symm⟩⟩
  | .hash _, hvoid => ⟨⟨[], hvoid.symm⟩, Agree.takes_readHash_iff.mpr rfl⟩
  | .plain inner, hvoid => inner.exists_takes_nil hvoid

/-- Every format takes a byte at least but those of no length. -/
theorem advances_iff (format : Format .both) : format.decoder.read.Advances ↔ ¬format.IsVoid := by
  refine ⟨fun hadvances hvoid => ?_, format.advances_of_not_isVoid⟩
  obtain ⟨value, htakes⟩ := format.exists_takes_nil hvoid
  exact format.mirrors.alone.isLocal.advances_iff.mp hadvances value htakes

end Format

/-- The lists of a format, and of conversions of its values, are no longer than the source, unless
the values have no length. Then every number of them is read from no bytes. -/
theorem lists_are_within_source_iff (item : Format .both) :
    (item.decoder.ListsWithinSource ↔ ¬item.IsVoid) ∧
    (∀ (β : Type) (f : item.Value → β),
      (item.decoder.map f).ListsWithinSource ↔ ¬item.IsVoid) ∧
    (item.IsVoid → ∃ value, ∀ ⦃cursor count behind⦄,
      Compact.readLength cursor = .ok count behind →
        (Format.list item).decoder.read cursor = .ok (List.replicate count value) behind) := by
  have hlocal := item.mirrors.alone.isLocal
  refine ⟨?_, ?_, ?_⟩
  · rw [Decoder.listsWithinSource_iff hlocal, item.advances_iff]
  · intro β f
    have hmapped : (item.decoder.map f).ListsWithinSource ↔ (f <$> item.decoder.read).Advances :=
      Decoder.listsWithinSource_iff (isLocal_map f hlocal)
    rw [hmapped, advances_map_iff, item.advances_iff]
  · intro hvoid
    obtain ⟨value, htakes⟩ := item.exists_takes_nil hvoid
    exact ⟨value, fun _ _ _ hcount => Decoder.read_list_of_takes_nil htakes hcount⟩

/-- Nine bytes that announce as many items as can be counted, and nothing behind them. -/
def greatestCount : List UInt8 := [0x13, 255, 255, 255, 255, 255, 255, 255, 255]

/-- The greatest count of options is refused, and that of values of no length is read. -/
theorem greatestCount_read :
    ¬(Format.option .bool : Format .both).IsVoid ∧
      (∃ error after, (Format.list (.option .bool) : Format .both).decoder.read
        ⟨0, greatestCount⟩ = .error error after) ∧
      (Format.plain (.fixed 0) : Format .both).IsVoid ∧
      ∃ value, (Format.list (.plain (.fixed 0)) : Format .both).decoder.read
        ⟨0, greatestCount⟩ = .ok (List.replicate (2 ^ 64 - 1) value) ⟨9, []⟩ := by
  have hcount : Compact.readLength ⟨0, greatestCount⟩ = .ok (2 ^ 64 - 1) ⟨9, []⟩ := by rfl
  have hsolid : ¬(Format.option .bool : Format .both).IsVoid := id
  have hvoid : (Format.plain (.fixed 0) : Format .both).IsVoid := rfl
  have hwithin := (lists_are_within_source_iff (.option .bool)).1.mpr hsolid
  obtain ⟨value, hread⟩ := (lists_are_within_source_iff (.plain (.fixed 0))).2.2 hvoid
  exact ⟨hsolid, hwithin.refused hcount (by decide), hvoid, value, hread hcount⟩

end ChainRpc.Scale
