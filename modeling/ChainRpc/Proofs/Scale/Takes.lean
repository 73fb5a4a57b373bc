import ChainRpc.Scale.Reader
import Mathlib.Data.List.Forall2

/-!
# What a read takes

`read.Takes front value` says that the read gives `value` for the bytes `front`, wherever they
stand and whatever follows them. A read is local when each of its successes is of this kind. Reads
built from local reads are local, and what they take is described by what their parts take.
-/

namespace ChainRpc.Scale.Reader

variable {α β : Type}

/-- The read takes exactly `front` and gives `value`, at every place and before every rest. -/
def Takes (read : Reader α) (front : List UInt8) (value : α) : Prop :=
  ∀ position rest, read ⟨position, front ++ rest⟩ = .ok value ⟨position + front.length, rest⟩

/-- A success of the read depends only on the bytes that it takes. -/
def IsLocal (read : Reader α) : Prop :=
  ∀ ⦃cursor value after⦄, read cursor = .ok value after →
    ∃ front, cursor.rest = front ++ after.rest ∧
      after.position = cursor.position + front.length ∧ read.Takes front value

/-- What is taken determines the value and is taken alone. -/
theorem Takes.read_alone {read : Reader α} {front : List UInt8} {value : α}
    (h : read.Takes front value) (position : Nat) :
    read ⟨position, front⟩ = .ok value ⟨position + front.length, []⟩ := by
  simpa using h position []

/-- A read takes at most one beginning of a byte string. -/
theorem Takes.unique {read : Reader α} {front other rest rest' : List UInt8} {value value' : α}
    (h : read.Takes front value) (h' : read.Takes other value')
    (hsame : front ++ rest = other ++ rest') : front = other ∧ value = value' := by
  have hfirst := h 0 rest
  rw [hsame, h' 0 rest'] at hfirst
  injection hfirst with hvalue hcursor
  injection hcursor with hlength hrest
  subst hrest
  exact ⟨List.append_cancel_right hsame, hvalue.symm⟩

/-! ### Single steps -/

theorem takes_pure (value : α) : Takes (pure value) [] value := fun _ _ => rfl

@[simp] theorem takes_pure_iff {value other : α} {front : List UInt8} :
    Takes (pure value) front other ↔ front = [] ∧ other = value := by
  constructor
  · intro h
    have hread := h 0 []
    injection hread with hvalue hcursor
    injection hcursor with hlength hrest
    exact ⟨by simpa using hrest, hvalue.symm⟩
  · rintro ⟨rfl, rfl⟩
    exact takes_pure other

@[simp] theorem not_takes_fail {error : Error} {front : List UInt8} {value : α} :
    ¬ Takes (fail error) front value := by
  intro h
  cases h 0 []

@[simp] theorem takes_byte_iff {front : List UInt8} {byte : UInt8} :
    Takes Reader.byte front byte ↔ front = [byte] := by
  constructor
  · intro h
    have hread := h.read_alone 0
    cases front with
    | nil => cases hread
    | cons first rest =>
        injection hread with hvalue hcursor
        injection hcursor with hlength hrest
        rw [hvalue, hrest]
  · rintro rfl position rest
    rfl

@[simp] theorem takes_bytes_iff {n : Nat} {front value : List UInt8} :
    Takes (Reader.bytes n) front value ↔ front = value ∧ value.length = n := by
  constructor
  · intro h
    have hread := h.read_alone 0
    unfold Reader.bytes at hread
    cases hsplit : splitExact n front with
    | none => simp [hsplit] at hread
    | some parts =>
        obtain ⟨taken, back⟩ := parts
        simp only [hsplit, EStateM.Result.ok.injEq, Cursor.mk.injEq] at hread
        obtain ⟨hfront, hlength⟩ := splitExact_eq_some_iff.mp hsplit
        obtain ⟨rfl, -, rfl⟩ := hread
        exact ⟨by simpa using hfront, hlength⟩
  · rintro ⟨rfl, rfl⟩ position rest
    have hsplit : splitExact front.length (front ++ rest) = some (front, rest) :=
      splitExact_eq_some_iff.mpr ⟨rfl, rfl⟩
    simp [Reader.bytes, hsplit]

theorem isLocal_pure (value : α) : IsLocal (pure value) := by
  intro cursor other after h
  injection h with hvalue hcursor
  subst hvalue hcursor
  exact ⟨[], rfl, rfl, takes_pure value⟩

theorem isLocal_fail (error : Error) : IsLocal (fail error : Reader α) := by
  intro cursor value after h
  cases h

theorem isLocal_byte : IsLocal Reader.byte := by
  rintro ⟨position, source⟩ value after h
  cases source with
  | nil => cases h
  | cons first rest =>
      injection h with hvalue hcursor
      subst hvalue hcursor
      exact ⟨[first], rfl, rfl, takes_byte_iff.mpr rfl⟩

theorem isLocal_bytes (n : Nat) : IsLocal (Reader.bytes n) := by
  rintro ⟨position, source⟩ value after h
  unfold Reader.bytes at h
  cases hsplit : splitExact n source with
  | none => simp [hsplit] at h
  | some parts =>
      obtain ⟨front, back⟩ := parts
      simp only [hsplit, EStateM.Result.ok.injEq] at h
      obtain ⟨rfl, rfl⟩ := h
      obtain ⟨hsource, hlength⟩ := splitExact_eq_some_iff.mp hsplit
      exact ⟨front, hsource, by rw [hlength], takes_bytes_iff.mpr ⟨rfl, hlength⟩⟩

/-- A read that refuses some values is local when it is local for the others. -/
theorem isLocal_ite {condition : Prop} [Decidable condition] {read other : Reader α}
    (h : read.IsLocal) (h' : other.IsLocal) : IsLocal (if condition then read else other) := by
  split
  · exact h
  · exact h'

/-! ### Reads in sequence -/

/-- A sequence of two reads succeeds when both do, the second where the first ended. -/
theorem bind_eq_ok_iff {first : Reader α} {next : α → Reader β} {cursor after : Cursor}
    {value : β} :
    (first >>= next) cursor = .ok value after ↔
      ∃ a middle, first cursor = .ok a middle ∧ next a middle = .ok value after := by
  change EStateM.bind first next cursor = .ok value after ↔ _
  unfold EStateM.bind
  cases hfirst : first cursor with
  | ok a middle =>
      constructor
      · intro h
        exact ⟨a, middle, rfl, h⟩
      · rintro ⟨a, middle, hsame, h⟩
        cases hsame
        exact h
  | error error middle => simp

/-- What is read next starts where the first read ended. -/
theorem bind_of_ok {first : Reader α} {next : α → Reader β} {cursor middle : Cursor} {a : α}
    (h : first cursor = .ok a middle) : (first >>= next) cursor = next a middle := by
  change EStateM.bind first next cursor = _
  rw [EStateM.bind, h]

theorem Takes.bind {first : Reader α} {next : α → Reader β} {front back : List UInt8}
    {a : α} {value : β} (hfirst : first.Takes front a) (hnext : (next a).Takes back value) :
    Takes (first >>= next) (front ++ back) value := by
  intro position rest
  rw [bind_eq_ok_iff]
  refine ⟨a, ⟨position + front.length, back ++ rest⟩, ?_, ?_⟩
  · rw [List.append_assoc]
    exact hfirst position (back ++ rest)
  · rw [List.length_append, ← Nat.add_assoc]
    exact hnext (position + front.length) rest

theorem IsLocal.bind {first : Reader α} {next : α → Reader β} (hfirst : first.IsLocal)
    (hnext : ∀ a, (next a).IsLocal) : IsLocal (first >>= next) := by
  intro cursor value after h
  obtain ⟨a, middle, hread, hrest⟩ := bind_eq_ok_iff.mp h
  obtain ⟨front, hfront, hmiddle, htakes⟩ := hfirst hread
  obtain ⟨back, hback, hafter, htakes'⟩ := hnext a hrest
  refine ⟨front ++ back, ?_, ?_, htakes.bind htakes'⟩
  · rw [hfront, hback, List.append_assoc]
  · rw [hafter, hmiddle, List.length_append, Nat.add_assoc]

theorem takes_bind_iff {first : Reader α} {next : α → Reader β} (hfirst : first.IsLocal)
    (hnext : ∀ a, (next a).IsLocal) {bytes : List UInt8} {value : β} :
    Takes (first >>= next) bytes value ↔
      ∃ a front back, bytes = front ++ back ∧ first.Takes front a ∧ (next a).Takes back value := by
  constructor
  · intro h
    obtain ⟨a, middle, hread, hrest⟩ := bind_eq_ok_iff.mp (h.read_alone 0)
    obtain ⟨front, hfront, -, htakes⟩ := hfirst hread
    obtain ⟨back, hback, -, htakes'⟩ := hnext a hrest
    refine ⟨a, front, back, ?_, htakes, htakes'⟩
    simpa [hback] using hfront
  · rintro ⟨a, front, back, rfl, htakes, htakes'⟩
    exact htakes.bind htakes'

/-- A byte is taken, and what the rest of the read takes follows it. -/
theorem takes_byte_bind_iff {next : UInt8 → Reader β} (hnext : ∀ byte, (next byte).IsLocal)
    {bytes : List UInt8} {value : β} :
    Takes (Reader.byte >>= next) bytes value ↔
      ∃ first rest, bytes = first :: rest ∧ (next first).Takes rest value := by
  rw [takes_bind_iff isLocal_byte hnext]
  constructor
  · rintro ⟨first, front, rest, rfl, hbyte, hrest⟩
    rw [takes_byte_iff] at hbyte
    subst hbyte
    exact ⟨first, rest, rfl, hrest⟩
  · rintro ⟨first, rest, rfl, hrest⟩
    exact ⟨first, [first], rest, rfl, takes_byte_iff.mpr rfl, hrest⟩

/-- So many bytes are taken, and what the rest of the read takes follows them. -/
theorem takes_bytes_bind_iff {n : Nat} {next : List UInt8 → Reader β}
    (hnext : ∀ front, (next front).IsLocal) {bytes : List UInt8} {value : β} :
    Takes (Reader.bytes n >>= next) bytes value ↔
      ∃ front rest, bytes = front ++ rest ∧ front.length = n ∧ (next front).Takes rest value := by
  rw [takes_bind_iff (isLocal_bytes n) hnext]
  constructor
  · rintro ⟨taken, front, rest, rfl, hbytes, hrest⟩
    obtain ⟨rfl, hlength⟩ := takes_bytes_iff.mp hbytes
    exact ⟨front, rest, rfl, hlength, hrest⟩
  · rintro ⟨front, rest, rfl, hlength, hrest⟩
    exact ⟨front, front, rest, rfl, takes_bytes_iff.mpr ⟨rfl, hlength⟩, hrest⟩

theorem isLocal_map {read : Reader α} (f : α → β) (h : read.IsLocal) : IsLocal (f <$> read) := by
  rw [map_eq_pure_bind]
  exact h.bind fun a => isLocal_pure (f a)

theorem takes_map_iff {read : Reader α} {f : α → β} (h : read.IsLocal) {front : List UInt8}
    {value : β} : Takes (f <$> read) front value ↔ ∃ a, read.Takes front a ∧ value = f a := by
  rw [map_eq_pure_bind, takes_bind_iff h fun a => isLocal_pure (f a)]
  constructor
  · rintro ⟨a, front, back, rfl, htakes, hpure⟩
    obtain ⟨rfl, rfl⟩ := takes_pure_iff.mp hpure
    exact ⟨a, by simpa using htakes, rfl⟩
  · rintro ⟨a, htakes, rfl⟩
    exact ⟨a, front, [], by simp, htakes, takes_pure (f a)⟩

theorem isLocal_checked {read : Reader α} (h : read.IsLocal) (accepts : α → Prop)
    [DecidablePred accepts] (convert : α → β) (error : α → Error) :
    IsLocal (do let a ← read; if accepts a then pure (convert a) else fail (error a)) :=
  h.bind fun _ => isLocal_ite (isLocal_pure _) (isLocal_fail _)

/-- A read that refuses some values takes what it takes for the others. -/
theorem takes_checked_iff {read : Reader α} (h : read.IsLocal) {accepts : α → Prop}
    [DecidablePred accepts] {convert : α → β} {error : α → Error} {front : List UInt8}
    {value : β} :
    Takes (do let a ← read; if accepts a then pure (convert a) else fail (error a)) front value ↔
      ∃ a, read.Takes front a ∧ accepts a ∧ value = convert a := by
  rw [takes_bind_iff h fun _ => isLocal_ite (isLocal_pure _) (isLocal_fail _)]
  constructor
  · rintro ⟨a, front, back, rfl, htakes, hback⟩
    split at hback
    next haccepts =>
      obtain ⟨rfl, rfl⟩ := takes_pure_iff.mp hback
      exact ⟨a, by simpa using htakes, haccepts, rfl⟩
    next => exact (not_takes_fail hback).elim
  · rintro ⟨a, htakes, haccepts, rfl⟩
    refine ⟨a, front, [], by simp, htakes, ?_⟩
    rw [if_pos haccepts]
    exact takes_pure (convert a)

theorem isLocal_repeated {item : Reader α} (h : item.IsLocal) (count : Nat) :
    IsLocal (repeated count item) := by
  induction count with
  | zero => exact isLocal_pure []
  | succ count ih =>
      exact h.bind fun first => ih.bind fun rest => isLocal_pure (first :: rest)

/-- A repeated read takes what the items take, one after the other. -/
theorem takes_repeated_iff {item : Reader α} (h : item.IsLocal) {count : Nat}
    {bytes : List UInt8} {values : List α} :
    Takes (repeated count item) bytes values ↔
      values.length = count ∧
        ∃ fronts, bytes = fronts.flatten ∧ List.Forall₂ item.Takes fronts values := by
  -- The first item takes a piece off the front, so bytes and values vary along the count.
  induction count generalizing bytes values with
  | zero =>
      simp only [repeated, takes_pure_iff, List.length_eq_zero_iff]
      constructor
      · rintro ⟨rfl, rfl⟩
        exact ⟨rfl, [], rfl, .nil⟩
      · rintro ⟨rfl, fronts, rfl, hitems⟩
        cases hitems
        exact ⟨rfl, rfl⟩
  | succ count ih =>
      have hrest := isLocal_repeated h count
      simp only [repeated]
      rw [takes_bind_iff h fun first => hrest.bind fun rest => isLocal_pure (first :: rest)]
      constructor
      · rintro ⟨first, front, back, rfl, hfirst, hback⟩
        rw [takes_bind_iff hrest fun rest => isLocal_pure (first :: rest)] at hback
        obtain ⟨rest, front', back', rfl, hitems, hpure⟩ := hback
        obtain ⟨rfl, rfl⟩ := takes_pure_iff.mp hpure
        obtain ⟨hlength, fronts, rfl, hall⟩ := ih.mp hitems
        exact ⟨by simp [hlength], front :: fronts, by simp, .cons hfirst hall⟩
      · rintro ⟨hlength, fronts, rfl, hall⟩
        cases hall with
        | nil => cases hlength
        | @cons front first fronts rest hfirst hall =>
            have hitems := ih.mpr ⟨by simpa using hlength, fronts, rfl, hall⟩
            refine ⟨first, front, fronts.flatten, rfl, hfirst, ?_⟩
            rw [takes_bind_iff hrest fun rest => isLocal_pure (first :: rest)]
            exact ⟨rest, fronts.flatten, [], by simp, hitems, takes_pure (first :: rest)⟩

end ChainRpc.Scale.Reader
