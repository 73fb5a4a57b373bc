import ChainRpc.Proofs.Text.Utf8
import ChainRpc.Text.Hex

/-!
# Hexadecimal texts

A text stands for bytes when, without one leading marker, it is made of digits of either case that
can be paired. Every other text is refused: for an odd number of bytes first, and then for the first
byte that is no digit, with its place behind the marker. Printing what was read gives the digits in
lower case behind the marker, and reading what was printed gives the bytes.
-/

namespace ChainRpc.Text.Hex

/-! ### Digits -/

/-- The byte of a digit of either case. -/
def IsDigit (byte : UInt8) : Prop :=
  (0x30 ≤ byte ∧ byte ≤ 0x39) ∨ (0x41 ≤ byte ∧ byte ≤ 0x46) ∨ (0x61 ≤ byte ∧ byte ≤ 0x66)

theorem isDigit_iff_toNat {byte : UInt8} :
    IsDigit byte ↔ (48 ≤ byte.toNat ∧ byte.toNat ≤ 57) ∨ (65 ≤ byte.toNat ∧ byte.toNat ≤ 70) ∨
      (97 ≤ byte.toNat ∧ byte.toNat ≤ 102) := by
  simp only [IsDigit, UInt8.le_iff_toNat_le]
  rfl

theorem isSome_digitValue?_iff (byte : UInt8) : (digitValue? byte).isSome ↔ IsDigit byte := by
  rw [isDigit_iff_toNat, digitValue?]
  split
  · simp [*]
  · split
    · simp [*]
    · split <;> simp [*]

theorem digitValue?_eq_none_iff {byte : UInt8} : digitValue? byte = none ↔ ¬ IsDigit byte := by
  rw [← isSome_digitValue?_iff, Bool.not_eq_true, Option.isSome_eq_false_iff,
    Option.isNone_iff_eq_none]

theorem isDigit_of_digitValue? {byte : UInt8} {n : Nat} (h : digitValue? byte = some n) :
    IsDigit byte := by
  rw [← isSome_digitValue?_iff, h]
  rfl

/-- A digit is printed as the lower case of how it was written. -/
theorem digit_of_digitValue? {byte : UInt8} {n : Nat} (h : digitValue? byte = some n) :
    n < 16 ∧ digit n = (Char.ofUInt8 byte).toLower := by
  have hevery : ∀ k < 256, ∀ m ∈ digitValue? (UInt8.ofNat k),
      m < 16 ∧ digit m = (Char.ofUInt8 (UInt8.ofNat k)).toLower := by
    decide +kernel
  have this := hevery byte.toNat byte.toNat_lt n
  rw [UInt8.ofNat_toNat] at this
  exact this h

/-- Different numbers have different digits. -/
theorem digit_injective : ∀ n < 16, ∀ m < 16, digit n = digit m → n = m := by
  decide

/-- What is printed are digits, and they are in lower case. -/
theorem digit_spec : ∀ n < 16, (digit n).toNat < 128 ∧ IsDigit (UInt8.ofNat (digit n).toNat) ∧
    (digit n).toLower = digit n := by
  unfold IsDigit
  decide

@[simp] theorem length_digits (bytes : List UInt8) : (digits bytes).length = 2 * bytes.length := by
  induction bytes with
  | nil => rfl
  | cons byte bytes ih =>
      simp only [digits, List.flatMap_cons, List.length_append, List.length_cons, List.length_nil]
      unfold digits at ih
      omega

/-- The digits tell the bytes. -/
theorem digits_injective {bytes other : List UInt8} (h : digits bytes = digits other) :
    bytes = other := by
  induction bytes generalizing other with
  | nil =>
      have hlengths := congrArg List.length h
      rw [length_digits, length_digits, List.length_nil] at hlengths
      exact (List.length_eq_zero_iff.mp (by omega)).symm
  | cons byte bytes ih =>
      cases other with
      | nil => cases h
      | cons byte' other =>
          simp only [digits, List.flatMap_cons, List.cons_append, List.nil_append, List.cons.injEq]
            at h
          obtain ⟨hhigh, hlow, hrest⟩ := h
          have hbound := byte.toNat_lt
          have hbound' := byte'.toNat_lt
          have hhighs := digit_injective _ (by omega) _ (by omega) hhigh
          have hlows := digit_injective _ (by omega) _ (by omega) hlow
          have hsame : byte = byte' := UInt8.toNat_inj.mp (by omega)
          rw [hsame, ih hrest]

/-- What is printed for bytes are digits in lower case. -/
theorem digits_spec {bytes : List UInt8} {c : Char} (h : c ∈ digits bytes) :
    c.toNat < 128 ∧ IsDigit (UInt8.ofNat c.toNat) ∧ c.toLower = c := by
  obtain ⟨byte, -, h⟩ := List.mem_flatMap.mp h
  have hbound := byte.toNat_lt
  simp only [List.mem_cons, List.not_mem_nil, or_false] at h
  rcases h with rfl | rfl
  · exact digit_spec _ (by omega)
  · exact digit_spec _ (by omega)

/-! ### Pairing digits up -/

/-- The byte is the first one that is no digit, and it stands at the place `index`. -/
def FirstStray (bytes : List UInt8) (byte : UInt8) (index : Nat) : Prop :=
  ∃ before after, bytes = before ++ byte :: after ∧ before.length = index ∧
    (∀ digit ∈ before, IsDigit digit) ∧ ¬ IsDigit byte

/-- Where pairing succeeds there are only digits, and they are printed in lower case. -/
theorem pair_eq_ok {index : Nat} {bytes out : List UInt8} (h : pair index bytes = .ok out) :
    bytes.length % 2 = 0 ∧ (∀ byte ∈ bytes, IsDigit byte) ∧
      digits out = bytes.map fun byte => (Char.ofUInt8 byte).toLower := by
  fun_induction pair index bytes generalizing out with
  | case1 => cases h
  | case2 => cases h
  | case3 index high low rest a b hlow hhigh ih =>
      cases hrest : pair (index + 2) rest with
      | error fault => rw [hrest] at h; cases h
      | ok others =>
          rw [hrest] at h
          obtain rfl := Except.ok.inj h
          obtain ⟨heven, hall, hshown⟩ := ih hrest
          obtain ⟨ha, hhighDigit⟩ := digit_of_digitValue? hhigh
          obtain ⟨hb, hlowDigit⟩ := digit_of_digitValue? hlow
          have hvalue : (UInt8.ofNat (16 * a + b)).toNat = 16 * a + b :=
            UInt8.toNat_ofNat_of_lt' (show 16 * a + b < 256 by omega)
          refine ⟨by simp only [List.length_cons]; omega, ?_, ?_⟩
          · intro byte hmem
            rcases List.mem_cons.mp hmem with rfl | hmem
            · exact isDigit_of_digitValue? hhigh
            · rcases List.mem_cons.mp hmem with rfl | hmem
              · exact isDigit_of_digitValue? hlow
              · exact hall byte hmem
          · unfold digits at hshown ⊢
            rw [List.flatMap_cons, hvalue, hshown, List.map_cons, List.map_cons, ← hhighDigit,
              ← hlowDigit, show (16 * a + b) / 16 = a by omega,
              show (16 * a + b) % 16 = b by omega]
            rfl
  | case4 => cases h
  | case5 =>
      obtain rfl := Except.ok.inj h
      exact ⟨rfl, by simp, rfl⟩

/-- Where pairing fails for an even number of bytes, it names the first that is no digit. -/
theorem pair_eq_error {index : Nat} {bytes : List UInt8} {fault : Fault}
    (heven : bytes.length % 2 = 0) (h : pair index bytes = .error fault) :
    ∃ byte place, fault = .digit byte (index + place) ∧ FirstStray bytes byte place := by
  fun_induction pair index bytes with
  | case1 index high low rest hhigh =>
      cases h
      exact ⟨high, 0, rfl, [], low :: rest, rfl, rfl, by simp, digitValue?_eq_none_iff.mp hhigh⟩
  | case2 index high low rest value hlow hhigh =>
      cases h
      refine ⟨low, 1, rfl, [high], rest, rfl, rfl, ?_, digitValue?_eq_none_iff.mp hlow⟩
      simpa using isDigit_of_digitValue? hhigh
  | case3 index high low rest a b hlow hhigh ih =>
      cases hrest : pair (index + 2) rest with
      | ok others => rw [hrest] at h; cases h
      | error other =>
          rw [hrest] at h
          cases h
          simp only [List.length_cons] at heven
          obtain ⟨byte, place, rfl, before, after, rfl, rfl, hall, hstray⟩ := ih (by omega) hrest
          refine ⟨byte, before.length + 2, ?_, high :: low :: before, after, rfl, rfl, ?_, hstray⟩
          · rw [Nat.add_assoc, Nat.add_comm 2]
          · intro digit hmem
            rcases List.mem_cons.mp hmem with rfl | hmem
            · exact isDigit_of_digitValue? hhigh
            · rcases List.mem_cons.mp hmem with rfl | hmem
              · exact isDigit_of_digitValue? hlow
              · exact hall digit hmem
  | case4 => simp at heven
  | case5 => cases h

theorem FirstStray.not_all {bytes : List UInt8} {byte : UInt8} {index : Nat}
    (h : FirstStray bytes byte index) : ¬ ∀ digit ∈ bytes, IsDigit digit := by
  obtain ⟨before, after, rfl, -, -, hstray⟩ := h
  intro hall
  exact hstray (hall byte (by simp))

/-- There is only one first byte that is no digit. -/
theorem FirstStray.unique {bytes : List UInt8} {byte other : UInt8} {index place : Nat}
    (h : FirstStray bytes byte index) (h' : FirstStray bytes other place) :
    byte = other ∧ index = place := by
  obtain ⟨before, after, rfl, rfl, hall, hstray⟩ := h
  obtain ⟨before', after', hsame, rfl, hall', hstray'⟩ := h'
  rcases List.append_eq_append_iff.mp hsame with
    ⟨between, hbefore, hafter⟩ | ⟨between, hbefore, hafter⟩
  · cases between with
    | nil =>
        cases hafter
        exact ⟨rfl, by simp [hbefore]⟩
    | cons first between =>
        cases hafter
        exact absurd (hall' byte (by simp [hbefore])) hstray
  · cases between with
    | nil =>
        cases hafter
        exact ⟨rfl, by simp [hbefore]⟩
    | cons first between =>
        cases hafter
        exact absurd (hall other (by simp [hbefore])) hstray'

/-! ### Sequences of digits -/

theorem decodeDigits_of_even {bytes : List UInt8} (heven : bytes.length % 2 = 0) :
    decodeDigits bytes = pair 0 bytes := by
  rw [decodeDigits, if_neg (by omega)]

theorem decodeDigits_eq_ok {bytes out : List UInt8} (h : decodeDigits bytes = .ok out) :
    bytes.length % 2 = 0 ∧ (∀ byte ∈ bytes, IsDigit byte) ∧
      digits out = bytes.map fun byte => (Char.ofUInt8 byte).toLower := by
  unfold decodeDigits at h
  split at h
  next => cases h
  next => exact pair_eq_ok h

/-- An even number of digits is read, and nothing else is. -/
theorem decodeDigits_isOk_iff {bytes : List UInt8} :
    (∃ out, decodeDigits bytes = .ok out) ↔
      bytes.length % 2 = 0 ∧ ∀ byte ∈ bytes, IsDigit byte := by
  constructor
  · rintro ⟨out, h⟩
    obtain ⟨heven, hall, -⟩ := decodeDigits_eq_ok h
    exact ⟨heven, hall⟩
  · rintro ⟨heven, hall⟩
    rw [decodeDigits_of_even heven]
    cases h : pair 0 bytes with
    | ok out => exact ⟨out, rfl⟩
    | error fault =>
        obtain ⟨byte, place, -, hfirst⟩ := pair_eq_error heven h
        exact absurd hall hfirst.not_all

/-- An odd number of bytes is refused for that, whatever they are. -/
theorem decodeDigits_odd_iff {bytes : List UInt8} :
    decodeDigits bytes = .error .odd ↔ bytes.length % 2 = 1 := by
  constructor
  · intro h
    rcases Nat.mod_two_eq_zero_or_one bytes.length with heven | hodd
    · rw [decodeDigits_of_even heven] at h
      obtain ⟨byte, place, hnamed, -⟩ := pair_eq_error heven h
      cases hnamed
    · exact hodd
  · intro hodd
    rw [decodeDigits, if_pos hodd]

/-- An even number of bytes is refused for the first that is no digit. -/
theorem decodeDigits_digit_iff {bytes : List UInt8} {byte : UInt8} {index : Nat} :
    decodeDigits bytes = .error (.digit byte index) ↔
      bytes.length % 2 = 0 ∧ FirstStray bytes byte index := by
  constructor
  · intro h
    have heven : bytes.length % 2 = 0 := by
      rcases Nat.mod_two_eq_zero_or_one bytes.length with heven | hodd
      · exact heven
      · rw [decodeDigits_odd_iff.mpr hodd] at h
        cases h
    rw [decodeDigits_of_even heven] at h
    obtain ⟨other, place, hnamed, hfirst⟩ := pair_eq_error heven h
    cases hnamed
    rw [Nat.zero_add]
    exact ⟨heven, hfirst⟩
  · rintro ⟨heven, hfirst⟩
    rw [decodeDigits_of_even heven]
    cases h : pair 0 bytes with
    | ok out => exact absurd (pair_eq_ok h).2.1 hfirst.not_all
    | error fault =>
        obtain ⟨other, place, rfl, hfirst'⟩ := pair_eq_error heven h
        obtain ⟨rfl, rfl⟩ := hfirst.unique hfirst'
        rw [Nat.zero_add]

/-! ### Texts of digits -/

/-- The characters below 128 are written as single bytes. -/
theorem encode_of_ascii {chars : List Char} (hascii : ∀ c ∈ chars, c.toNat < 128) :
    Utf8.encode (String.ofList chars) = chars.map fun c => UInt8.ofNat c.toNat := by
  rw [Utf8.encode, String.toList_ofList]
  induction chars with
  | nil => rfl
  | cons c chars ih =>
      have hsmall : c.val.toNat ≤ 127 := Nat.le_of_lt_succ (hascii c List.mem_cons_self)
      rw [List.flatMap_cons, ih fun other hmem => hascii other (List.mem_cons_of_mem c hmem)]
      simp only [String.utf8EncodeChar, if_pos hsmall]
      rfl

theorem IsDigit.toNat_lt {byte : UInt8} (h : IsDigit byte) : byte.toNat < 128 := by
  rw [isDigit_iff_toNat] at h
  omega

/-- A text whose bytes are all digits has one character for each of them. -/
theorem toList_of_digits {text : String} (hall : ∀ byte ∈ Utf8.encode text, IsDigit byte) :
    text.toList = (Utf8.encode text).map Char.ofUInt8 := by
  have hwritten : Utf8.encode (String.ofList ((Utf8.encode text).map Char.ofUInt8)) =
      Utf8.encode text := by
    rw [encode_of_ascii, List.map_map]
    · refine (List.map_congr_left fun byte _ => ?_).trans (List.map_id _)
      exact UInt8.ofNat_toNat
    · intro c hmem
      obtain ⟨byte, hinside, rfl⟩ := List.mem_map.mp hmem
      exact (hall byte hinside).toNat_lt
  have hread := Utf8.decode_eq_ok_iff.mpr hwritten.symm
  rw [Utf8.decode_encode] at hread
  exact (congrArg String.toList (Except.ok.inj hread)).trans String.toList_ofList

/-! ### Texts with and without the marker -/

/-- The text is `rest` behind a marker, or it has no marker and is `rest`. -/
def IsUnmarked (text rest : String) : Prop :=
  text = "0x" ++ rest ∨ (text = rest ∧ ¬ ['0', 'x'] <+: text.toList)

theorem toList_marked (rest : String) : ("0x" ++ rest).toList = '0' :: 'x' :: rest.toList := by
  rw [String.toList_append]
  rfl

/-- What is read is the text without one leading marker. -/
theorem isUnmarked_unmark (text : String) :
    IsUnmarked text (String.ofList (unmark text.toList)) := by
  unfold unmark
  split
  next rest h =>
    left
    rw [← String.toList_inj, toList_marked, String.toList_ofList, h]
  next hnone =>
    refine .inr ⟨String.ofList_toList.symm, ?_⟩
    rintro ⟨rest, h⟩
    exact hnone rest h.symm

theorem IsUnmarked.eq {text rest : String} (h : IsUnmarked text rest) :
    String.ofList (unmark text.toList) = rest := by
  rcases h with rfl | ⟨rfl, hnone⟩
  · rw [toList_marked]
    exact String.ofList_toList
  · unfold unmark
    split
    next rest h => exact absurd ⟨rest, h.symm⟩ hnone
    next => exact String.ofList_toList

theorem decode_of_unmarked {text rest : String} (h : IsUnmarked text rest) :
    decode text = decodeDigits (Utf8.encode rest) := by
  rw [decode, digitBytes, h.eq]

theorem toList_toLower (text : String) : text.toLower.toList = text.toList.map Char.toLower :=
  String.toList_map

/-- Digits are printed in lower case after they were read. -/
theorem toLower_of_decodeDigits {rest : String} {out : List UInt8}
    (hread : decodeDigits (Utf8.encode rest) = .ok out) : rest.toLower.toList = digits out := by
  obtain ⟨-, hall, hshown⟩ := decodeDigits_eq_ok hread
  rw [hshown, toList_toLower, toList_of_digits hall, List.map_map]
  rfl

/-- Each byte that is read takes two digits. -/
theorem length_of_decode {text : String} {out : List UInt8} (hread : decode text = .ok out) :
    (digitBytes text).length = 2 * out.length := by
  have hshown := congrArg List.length (decodeDigits_eq_ok hread).2.2
  rw [length_digits, List.length_map] at hshown
  exact hshown.symm

/-! ### The texts that stand for bytes -/

theorem toNat_toLower (c : Char) :
    c.toLower.toNat = c.toNat ∨
      65 ≤ c.toNat ∧ c.toNat ≤ 90 ∧ c.toLower.toNat = c.toNat + 32 := by
  unfold Char.toLower
  split
  next hcapital =>
    have hleast : 65 ≤ c.val.toNat := UInt32.le_iff_toNat_le.mp hcapital.1
    have hgreatest : c.val.toNat ≤ 90 := UInt32.le_iff_toNat_le.mp hcapital.2
    refine .inr ⟨hleast, hgreatest, ?_⟩
    change (c.val.toNat + 32) % 4294967296 = c.val.toNat + 32
    omega
  next => exact .inl rfl

/-- A character whose lower case is printed for bytes is a digit. -/
theorem isDigit_of_toLower {c : Char} {bytes : List UInt8} (h : c.toLower ∈ digits bytes) :
    c.toNat < 128 ∧ IsDigit (UInt8.ofNat c.toNat) := by
  obtain ⟨hsmall, hdigit, -⟩ := digits_spec h
  rcases toNat_toLower c with hsame | ⟨hleast, hgreatest, hmoved⟩
  · rw [hsame] at hsmall hdigit
    exact ⟨hsmall, hdigit⟩
  · have hsmall' : c.toNat < 256 := by omega
    rw [hmoved] at hsmall hdigit
    refine ⟨by omega, ?_⟩
    rw [isDigit_iff_toNat, UInt8.toNat_ofNat_of_lt' (show c.toNat + 32 < 256 by omega)] at hdigit
    rw [isDigit_iff_toNat, UInt8.toNat_ofNat_of_lt' hsmall']
    omega

/-- The text consists of the digits of the bytes, each in either case, behind a marker or not. -/
def Spells (text : String) (bytes : List UInt8) : Prop :=
  ∃ rest, (text = "0x" ++ rest ∨ text = rest) ∧ rest.toLower.toList = digits bytes

/-- The digits of bytes are read as the bytes, in whatever case each of them is. -/
theorem decodeDigits_of_toLower {rest : String} {bytes : List UInt8}
    (h : rest.toLower.toList = digits bytes) : decodeDigits (Utf8.encode rest) = .ok bytes := by
  have hlowered : rest.toList.map Char.toLower = digits bytes := by
    rw [← h, toList_toLower]
  have hspec {c : Char} (hmem : c ∈ rest.toList) :
      c.toNat < 128 ∧ IsDigit (UInt8.ofNat c.toNat) := by
    have hlower : c.toLower ∈ digits bytes := by
      rw [← hlowered]
      exact List.mem_map_of_mem hmem
    exact isDigit_of_toLower hlower
  have hwritten : Utf8.encode rest = rest.toList.map fun c => UInt8.ofNat c.toNat := by
    rw [← encode_of_ascii fun c hmem => (hspec hmem).1, String.ofList_toList]
  have heven : (Utf8.encode rest).length % 2 = 0 := by
    have hlengths := congrArg List.length hlowered
    rw [List.length_map, length_digits] at hlengths
    rw [hwritten, List.length_map]
    omega
  have hall : ∀ byte ∈ Utf8.encode rest, IsDigit byte := by
    rw [hwritten]
    intro byte hmem
    obtain ⟨c, hinside, rfl⟩ := List.mem_map.mp hmem
    exact (hspec hinside).2
  obtain ⟨out, hread⟩ := decodeDigits_isOk_iff.mpr ⟨heven, hall⟩
  rw [hread, digits_injective ((toLower_of_decodeDigits hread).symm.trans h)]

/-- Those bytes are read that are printed as the digits in lower case behind the marker. -/
theorem decode_eq_ok_iff_encode {text rest : String} (h : IsUnmarked text rest)
    {out : List UInt8} : decode text = .ok out ↔ encode out = "0x" ++ rest.toLower := by
  rw [decode_of_unmarked h, ← String.toList_inj, toList_marked, encode, String.toList_ofList,
    List.cons.injEq, List.cons.injEq]
  constructor
  · intro hread
    exact ⟨rfl, rfl, (toLower_of_decodeDigits hread).symm⟩
  · rintro ⟨-, -, hshown⟩
    exact decodeDigits_of_toLower hshown.symm

/-- No text of digits begins with a marker. -/
theorem not_marked_of_toLower {rest : String} {bytes : List UInt8}
    (h : rest.toLower.toList = digits bytes) : ¬ ['0', 'x'] <+: rest.toList := by
  rintro ⟨others, hsame⟩
  have hmem : 'x' ∈ digits bytes := by
    rw [← h, toList_toLower, ← hsame]
    simp
  have hdigit := (digits_spec hmem).2.1
  revert hdigit
  unfold IsDigit
  decide

/-- Reading gives bytes for the texts that consist of their digits, and for no others. -/
theorem decode_eq_ok_iff {text : String} {bytes : List UInt8} :
    decode text = .ok bytes ↔ Spells text bytes := by
  constructor
  · intro hread
    have hunmarked := isUnmarked_unmark text
    rw [decode_of_unmarked hunmarked] at hread
    exact ⟨_, hunmarked.imp_right And.left, toLower_of_decodeDigits hread⟩
  · rintro ⟨rest, hmarked | hplain, hshown⟩
    · rw [decode_of_unmarked (.inl hmarked)]
      exact decodeDigits_of_toLower hshown
    · rw [decode_of_unmarked (.inr ⟨hplain, hplain ▸ not_marked_of_toLower hshown⟩)]
      exact decodeDigits_of_toLower hshown

theorem toLower_digits (bytes : List UInt8) :
    (String.ofList (digits bytes)).toLower.toList = digits bytes := by
  rw [toList_toLower, String.toList_ofList]
  refine (List.map_congr_left fun c hmem => ?_).trans (List.map_id _)
  exact (digits_spec hmem).2.2

theorem encode_eq (bytes : List UInt8) :
    encode bytes = "0x" ++ String.ofList (digits bytes) := by
  rw [← String.toList_inj, toList_marked, encode, String.toList_ofList, String.toList_ofList]

/-- What is printed for bytes stands for them. -/
theorem spells_encode (bytes : List UInt8) : Spells (encode bytes) bytes :=
  ⟨_, .inl (encode_eq bytes), toLower_digits bytes⟩

/-- The digits alone stand for the bytes too. -/
theorem spells_digits (bytes : List UInt8) : Spells (String.ofList (digits bytes)) bytes :=
  ⟨_, .inr rfl, toLower_digits bytes⟩

end ChainRpc.Text.Hex
