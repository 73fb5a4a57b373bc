import ChainRpc.Proofs.Scale.WellFormed

/-!
# Reads are self-delimiting

A read that fails stops within the source, with malformed input or with a tag byte that names no
variant of a union. Such a tag is refused whatever follows it, while malformed input may be
input that ended too soon. So a beginning of the bytes of a value is malformed: it can neither be
read as a value, since reads are local, nor hold a tag that the whole does not hold.
-/

namespace ChainRpc.Scale

namespace Reader

variable {α β : Type} {unions : List Nat}

/-- The read fails behind `front` with this error, at every place and before every rest. -/
def Refuses (read : Reader α) (front : List UInt8) (error : Error) : Prop :=
  ∀ position rest, read ⟨position, front ++ rest⟩ = .error error ⟨position + front.length, rest⟩

/-- The last of the bytes is a tag beyond the variants of a union with one of these counts. -/
def UnknownTag (unions : List Nat) (front : List UInt8) (error : Error) : Prop :=
  ∃ tag count, front.getLast? = some tag ∧ count ∈ unions ∧ count ≤ tag.toNat ∧
    error = .unknownVariant tag.toNat count

/-- Each failure of the read leaves the cursor within the source. The input is malformed, or it
has an unknown tag. -/
def Stops (unions : List Nat) (read : Reader α) : Prop :=
  ∀ ⦃cursor error after⦄, read cursor = .error error after →
    ∃ taken, cursor.rest = taken ++ after.rest ∧
      after.position = cursor.position + taken.length ∧
      ((∃ cause, error = .malformed cause) ∨
        UnknownTag unions taken error ∧ read.Refuses taken error)

theorem UnknownTag.append {back : List UInt8} {error : Error} (front : List UInt8)
    (h : UnknownTag unions back error) : UnknownTag unions (front ++ back) error := by
  obtain ⟨tag, count, hlast, hrest⟩ := h
  refine ⟨tag, count, ?_, hrest⟩
  rw [List.getLast?_append, hlast, Option.some_or]

theorem UnknownTag.mono {others : List Nat} {front : List UInt8} {error : Error}
    (h : UnknownTag unions front error) (hsub : unions ⊆ others) :
    UnknownTag others front error := by
  obtain ⟨tag, count, hlast, hmem, hrest⟩ := h
  exact ⟨tag, count, hlast, hsub hmem, hrest⟩

theorem Stops.mono {others : List Nat} {read : Reader α} (h : Stops unions read)
    (hsub : unions ⊆ others) : Stops others read := by
  intro cursor error after hread
  obtain ⟨taken, hrest, hposition, hcause⟩ := h hread
  refine ⟨taken, hrest, hposition, hcause.imp_right ?_⟩
  rintro ⟨hunknown, hrefuses⟩
  exact ⟨hunknown.mono hsub, hrefuses⟩

/-- A beginning of the bytes of a value is malformed input. -/
theorem Stops.cut_short {read : Reader α} (h : Stops unions read) (hlocal : read.IsLocal)
    {front cut : List UInt8} {value : α} (htakes : read.Takes front value) (hcut : cut <+: front)
    (hne : cut ≠ front) (position : Nat) :
    ∃ cause after, read ⟨position, cut⟩ = .error (.malformed cause) after := by
  obtain ⟨missing, rfl⟩ := hcut
  cases hread : read ⟨position, cut⟩ with
  | ok other after =>
      -- A read that is content with the beginning takes no more of the whole.
      obtain ⟨taken, hrest, -, htaken⟩ := hlocal hread
      simp only at hrest
      have hsame : (cut ++ missing) ++ [] = taken ++ (after.rest ++ missing) := by
        rw [hrest, List.append_nil, List.append_assoc]
      have hlength := congrArg List.length (htakes.unique htaken hsame).1
      rw [hrest] at hlength hne
      simp only [List.length_append] at hlength
      obtain rfl : missing = [] := List.eq_nil_of_length_eq_zero (by omega)
      exact absurd (List.append_nil _).symm hne
  | error error after =>
      obtain ⟨taken, hrest, -, hcause⟩ := h hread
      rcases hcause with ⟨cause, rfl⟩ | ⟨-, hrefuses⟩
      · exact ⟨cause, after, rfl⟩
      · have hwhole := hrefuses position (after.rest ++ missing)
        simp only at hrest
        rw [← List.append_assoc, ← hrest, htakes.read_alone position] at hwhole
        cases hwhole

/-! ### Single steps -/

theorem stops_pure (value : α) : Stops unions (pure value) := by
  intro cursor error after h
  cases h

theorem stops_malformed (cause : Malformed) :
    Stops unions (fail (.malformed cause) : Reader α) := by
  intro cursor error after h
  cases h
  exact ⟨[], rfl, rfl, Or.inl ⟨cause, rfl⟩⟩

theorem stops_byte : Stops unions Reader.byte := by
  rintro ⟨position, source⟩ error after h
  cases source with
  | nil =>
      cases h
      exact ⟨[], rfl, rfl, Or.inl ⟨_, rfl⟩⟩
  | cons first rest => cases h

/-- A request for more bytes than there are leaves the cursor where it is. -/
theorem stops_bytes (n : Nat) : Stops unions (Reader.bytes n) := by
  intro cursor error after h
  unfold Reader.bytes at h
  split at h
  next => cases h
  next =>
    cases h
    exact ⟨[], rfl, rfl, Or.inl ⟨_, rfl⟩⟩

theorem stops_ite {condition : Prop} [Decidable condition] {read other : Reader α}
    (h : Stops unions read) (h' : Stops unions other) :
    Stops unions (if condition then read else other) := by
  split
  · exact h
  · exact h'

/-! ### Reads in sequence -/

/-- A sequence of two reads fails when the first does, or the second where the first ended. -/
theorem bind_eq_error_iff {first : Reader α} {next : α → Reader β} {cursor after : Cursor}
    {error : Error} :
    (first >>= next) cursor = .error error after ↔
      first cursor = .error error after ∨
        ∃ a middle, first cursor = .ok a middle ∧ next a middle = .error error after := by
  change EStateM.bind first next cursor = .error error after ↔ _
  unfold EStateM.bind
  cases hfirst : first cursor with
  | ok a middle => simp
  | error error' middle => simp

theorem bind_of_error {first : Reader α} {next : α → Reader β} {cursor after : Cursor}
    {error : Error} (h : first cursor = .error error after) :
    (first >>= next) cursor = .error error after :=
  bind_eq_error_iff.mpr (.inl h)

theorem Takes.bind_refuses {first : Reader α} {next : α → Reader β} {front back : List UInt8}
    {a : α} {error : Error} (hfirst : first.Takes front a) (hnext : (next a).Refuses back error) :
    (first >>= next).Refuses (front ++ back) error := by
  intro position rest
  rw [bind_eq_error_iff]
  refine Or.inr ⟨a, ⟨position + front.length, back ++ rest⟩, ?_, ?_⟩
  · rw [List.append_assoc]
    exact hfirst position (back ++ rest)
  · rw [List.length_append, ← Nat.add_assoc]
    exact hnext (position + front.length) rest

theorem Stops.bind {first : Reader α} {next : α → Reader β} (hlocal : first.IsLocal)
    (hfirst : Stops unions first) (hnext : ∀ a, Stops unions (next a)) :
    Stops unions (first >>= next) := by
  intro cursor error after h
  rcases bind_eq_error_iff.mp h with hread | ⟨a, middle, hread, hfail⟩
  · obtain ⟨taken, hrest, hposition, hcause⟩ := hfirst hread
    refine ⟨taken, hrest, hposition, hcause.imp_right ?_⟩
    rintro ⟨hunknown, hrefuses⟩
    exact ⟨hunknown, fun position rest => bind_eq_error_iff.mpr (Or.inl (hrefuses position rest))⟩
  · obtain ⟨front, hfront, hmiddle, htakes⟩ := hlocal hread
    obtain ⟨back, hback, hposition, hcause⟩ := hnext a hfail
    refine ⟨front ++ back, ?_, ?_, hcause.imp_right ?_⟩
    · rw [hfront, hback, List.append_assoc]
    · rw [hposition, hmiddle, List.length_append, Nat.add_assoc]
    · rintro ⟨hunknown, hrefuses⟩
      exact ⟨hunknown.append front, htakes.bind_refuses hrefuses⟩

theorem map_eq_error_iff {read : Reader α} {f : α → β} {cursor after : Cursor} {error : Error} :
    (f <$> read) cursor = .error error after ↔ read cursor = .error error after := by
  rw [map_eq_pure_bind, bind_eq_error_iff]
  constructor
  · rintro (h | ⟨a, middle, -, hpure⟩)
    · exact h
    · cases hpure
  · exact Or.inl

theorem Stops.map {read : Reader α} (f : α → β) (h : Stops unions read) :
    Stops unions (f <$> read) := by
  intro cursor error after hread
  obtain ⟨taken, hrest, hposition, hcause⟩ := h (map_eq_error_iff.mp hread)
  refine ⟨taken, hrest, hposition, hcause.imp_right ?_⟩
  rintro ⟨hunknown, hrefuses⟩
  exact ⟨hunknown, fun position rest => map_eq_error_iff.mpr (hrefuses position rest)⟩

theorem Stops.repeated {item : Reader α} (hlocal : item.IsLocal) (h : Stops unions item)
    (count : Nat) : Stops unions (repeated count item) := by
  induction count with
  | zero => exact stops_pure []
  | succ count ih =>
      exact h.bind hlocal fun first =>
        ih.bind (isLocal_repeated hlocal count) fun rest => stops_pure (first :: rest)

end Reader

open Reader

/-! ### The parts of a value -/

namespace Compact

variable {unions : List Nat}

theorem stops_read : Stops unions read := by
  refine stops_byte.bind isLocal_byte fun first => ?_
  unfold readBehind
  split
  · exact stops_pure _
  · exact (stops_bytes 1).bind (isLocal_bytes 1) fun rest => stops_pure _
  · exact (stops_bytes 3).bind (isLocal_bytes 3) fun rest => stops_pure _
  · apply (stops_bytes _).bind (isLocal_bytes _)
    intro magnitude
    exact stops_ite (stops_pure _) (stops_malformed _)

theorem stops_readLength : Stops unions readLength :=
  stops_read.bind isLocal_read fun _ => stops_ite (stops_pure _) (stops_malformed _)

theorem stops_readInto (type : IntType) : Stops unions (readInto type) :=
  stops_read.bind isLocal_read fun _ => stops_ite (stops_pure _) (stops_malformed _)

end Compact

namespace Decoder

variable {α : Type} {unions : List Nat}

/-- Both forms of the type stop within the source. -/
structure Stops (unions : List Nat) (decoder : Decoder α) : Prop where
  alone : Reader.Stops unions decoder.read
  optional : Reader.Stops unions decoder.readOptional

theorem stops_readBool : Reader.Stops unions readBool :=
  stops_byte.bind isLocal_byte fun _ =>
    stops_ite (stops_pure _) (stops_ite (stops_pure _) (stops_malformed _))

theorem stops_readTriState : Reader.Stops unions readTriState :=
  stops_byte.bind isLocal_byte fun _ => stops_ite (stops_pure _)
    (stops_ite (stops_pure _) (stops_ite (stops_pure _) (stops_malformed _)))

theorem stops_ofRead {read : Reader α} (h : Reader.Stops unions read) :
    (ofRead read).Stops unions where
  alone := h
  optional := by
    apply stops_readBool.bind Agree.isLocal_readBool
    intro present
    exact stops_ite (h.map some) (stops_pure none)

theorem stops_bytes : (Decoder.bytes).Stops unions :=
  stops_ofRead (Compact.stops_readLength.bind Compact.isLocal_readLength Reader.stops_bytes)

theorem stops_text : (Decoder.text).Stops unions := by
  apply stops_ofRead
  apply stops_bytes.alone.bind Agree.isLocal_readBytes
  intro bytes
  split
  · exact stops_pure _
  · exact stops_malformed _

theorem stops_hash (size : Nat) : (Decoder.hash size).Stops unions := by
  apply stops_ofRead
  intro cursor error after h
  simp only at h
  split at h
  next => cases h
  next =>
    cases h
    exact ⟨[], rfl, rfl, Or.inl ⟨_, rfl⟩⟩

theorem stops_list {item : Decoder α} (hlocal : item.read.IsLocal) (h : item.Stops unions) :
    (Decoder.list item).Stops unions :=
  stops_ofRead (Compact.stops_readLength.bind Compact.isLocal_readLength
    (h.alone.repeated hlocal))

/-- A union refuses the tags from the number of its variants on. -/
theorem stops_union {count : Nat} {variant : Nat → Option (Reader α)}
    (hvariant : ∀ ⦃tag read⦄, variant tag = some read → Reader.Stops unions read)
    (hcount : ∀ ⦃tag⦄, variant tag = none → count ≤ tag) :
    (Decoder.union count variant).Stops (count :: unions) := by
  apply stops_ofRead
  intro cursor error after h
  -- The tag is part of the error, so the read behind it does not stop alone.
  rcases bind_eq_error_iff.mp h with hbyte | ⟨tag, middle, hbyte, hbehind⟩
  · have hstops : Reader.Stops [] byte := stops_byte
    obtain ⟨taken, hrest, hposition, hcause⟩ := hstops hbyte
    refine ⟨taken, hrest, hposition, hcause.imp_right ?_⟩
    rintro ⟨⟨_, _, -, hmem, -⟩, -⟩
    cases hmem
  · obtain ⟨front, hfront, hmiddle, htakes⟩ := isLocal_byte hbyte
    obtain rfl := takes_byte_iff.mp htakes
    cases hnamed : variant tag.toNat with
    | some read =>
        simp only [hnamed] at hbehind
        obtain ⟨back, hback, hposition, hcause⟩ := hvariant hnamed hbehind
        refine ⟨tag :: back, ?_, ?_, hcause.imp_right ?_⟩
        · rw [hfront, hback, List.singleton_append, List.cons_append]
        · rw [hposition, hmiddle]
          simp only [List.length_cons, List.length_nil]
          omega
        · rintro ⟨hunknown, hrefuses⟩
          refine ⟨(hunknown.mono (List.subset_cons_self _ _)).append [tag], ?_⟩
          apply htakes.bind_refuses
          rw [hnamed]
          exact hrefuses
    | none =>
        simp only [hnamed] at hbehind
        cases hbehind
        refine ⟨[tag], hfront, hmiddle, Or.inr ⟨?_, ?_⟩⟩
        · exact ⟨tag, count, rfl, List.mem_cons_self, hcount hnamed, rfl⟩
        · intro position rest
          rw [bind_eq_error_iff]
          refine Or.inr ⟨tag, _, htakes position rest, ?_⟩
          rw [hnamed]
          rfl

end Decoder

/-! ### Formats -/

mutual

/-- The numbers of variants of the unions in a format. -/
def Format.unions {side : Side} : Format side → List Nat
  | .list item => item.unions
  | .option inner => inner.unions
  | .plain inner => inner.unions
  | .union variants => variants.count :: variants.unions
  | .word _ | .compact _ | .bool | .triState | .bytes | .text | .hash _ | .fixed _ | .era _ => []

/-- The numbers of variants of the unions in the variants. -/
def Variants.unions {side : Side} : Variants side → List Nat
  | .nil => []
  | .cons first rest => first.unions ++ rest.unions

end

/-- Only the tags from the number of variants on name none. -/
theorem Variants.count_le_of_reader? : (variants : Variants .both) → ⦃tag : Nat⦄ →
    variants.reader? tag = none → variants.count ≤ tag
  | .nil, tag, _ => Nat.zero_le tag
  | .cons _ _, 0, h => by cases h
  | .cons _ rest, tag + 1, h => by
      simp only [reader?] at h
      split at h
      next => cases h
      next hnone => exact Nat.succ_le_succ (rest.count_le_of_reader? hnone)

mutual

theorem Format.stops : (format : Format .both) → format.decoder.Stops format.unions
  | .word _ => Decoder.stops_ofRead <|
      (Reader.stops_bytes _).bind (isLocal_bytes _) fun _ => stops_pure _
  | .compact type => Decoder.stops_ofRead (Compact.stops_readInto type)
  | .bool => ⟨Decoder.stops_readBool, Decoder.stops_readTriState⟩
  | .triState => Decoder.stops_ofRead Decoder.stops_readTriState
  | .bytes => Decoder.stops_bytes
  | .text => Decoder.stops_text
  | .hash size => Decoder.stops_hash size
  | .fixed size => Decoder.stops_ofRead (Reader.stops_bytes size)
  | .era hwriteOnly => nomatch hwriteOnly
  | .list item => Decoder.stops_list item.mirrors.alone.isLocal item.stops
  | .option inner => Decoder.stops_ofRead inner.stops.optional
  | .plain inner => Decoder.stops_ofRead inner.stops.alone
  | .union variants => Decoder.stops_union variants.stops variants.count_le_of_reader?

theorem Variants.stops : (variants : Variants .both) → ⦃tag : Nat⦄ →
    ⦃read : Reader variants.Choice⦄ → variants.reader? tag = some read →
    Reader.Stops variants.unions read
  | .nil, _, _, h => by cases h
  | .cons first rest, 0, read, h => by
      obtain rfl := Option.some.inj h
      exact (first.stops.alone.mono (List.subset_append_left _ _)).map Sum.inl
  | .cons first rest, tag + 1, read, h => by
      simp only [Variants.reader?] at h
      split at h
      next read' hread =>
        obtain rfl := Option.some.inj h
        exact ((rest.stops hread).mono (List.subset_append_right _ _)).map Sum.inr
      next => cases h

end

/-- Reading a source from behind `before` looks at the bytes `taken` and stops right behind them.
If it gives a value, it does so for these bytes wherever they stand, and for no less of them. If it
fails, the input is malformed or ends with a tag that names no variant of a union in the
format. -/
theorem reads_are_self_delimiting (format : Format .both) (before rest : List UInt8) :
    ∃ (taken : List UInt8) (stop : Cursor),
      rest = taken ++ stop.rest ∧ stop.position = before.length + taken.length ∧
      stop.position + stop.remaining = (before ++ rest).length ∧
      match format.decoder.read ⟨before.length, rest⟩ with
      | .ok value after =>
          after = stop ∧
          (∀ position behind, format.decoder.read ⟨position, taken ++ behind⟩ =
            .ok value ⟨position + taken.length, behind⟩) ∧
          ∀ position cut, cut <+: taken → cut ≠ taken →
            ∃ cause after, format.decoder.read ⟨position, cut⟩ = .error (.malformed cause) after
      | .error error after =>
          after = stop ∧
          ((∃ cause, error = .malformed cause) ∨
            ∃ tag count, taken.getLast? = some tag ∧ count ∈ format.unions ∧
              count ≤ tag.toNat ∧ error = .unknownVariant tag.toNat count) := by
  have hlocal := format.mirrors.alone.isLocal
  have hstops := format.stops.alone
  -- The cursor only ever moves over bytes of the source.
  have haccounted : ∀ {taken : List UInt8} {stop : Cursor}, rest = taken ++ stop.rest →
      stop.position = before.length + taken.length →
      stop.position + stop.remaining = (before ++ rest).length := by
    intro taken stop hrest hposition
    rw [hposition, hrest]
    simp only [Cursor.remaining, List.length_append]
    omega
  cases hread : format.decoder.read ⟨before.length, rest⟩ with
  | ok value after =>
      obtain ⟨taken, hrest, hposition, htakes⟩ := hlocal hread
      refine ⟨taken, after, hrest, hposition, haccounted hrest hposition, rfl, htakes, ?_⟩
      intro position cut hcut hne
      exact hstops.cut_short hlocal htakes hcut hne position
  | error error after =>
      obtain ⟨taken, hrest, hposition, hcause⟩ := hstops hread
      exact ⟨taken, after, hrest, hposition, haccounted hrest hposition, rfl,
        hcause.imp_right And.left⟩

end ChainRpc.Scale
