import ChainRpc.Proofs.Json.Lossless
import Mathlib.Data.List.TakeWhile

/-!
# The grammar of JSON

A tree is proper when it is spelled by the rules of JSON: its blanks are blanks, its digits are
digits, its literals hold no control characters and only the escapes there are. The JSON values are
the texts of proper trees.

Literals and numerals are read exactly: whatever is read as one is proper, and a proper one is read
back from its text, whatever stands behind it that does not go on with it.
-/

namespace ChainRpc.Json

/-- What comes next does not belong to a run of `p`. -/
def Stops {α : Type} (p : α → Bool) (rest : List α) : Prop := ∀ x ∈ rest.head?, p x = false

theorem span_append_of_stops {α : Type} {p : α → Bool} {run rest : List α}
    (hall : ∀ x ∈ run, p x = true) (hstops : Stops p rest) :
    (run ++ rest).span p = (run, rest) := by
  have htaken : rest.takeWhile p = [] := by
    cases rest with
    | nil => rfl
    | cons x rest => simp [hstops x rfl]
  have hdropped : rest.dropWhile p = rest := by
    cases rest with
    | nil => rfl
    | cons x rest => simp [hstops x rfl]
  rw [List.span_eq_takeWhile_dropWhile, List.takeWhile_append_of_pos hall,
    List.dropWhile_append_of_pos hall, htaken, hdropped, List.append_nil]

theorem all_of_span {α : Type} {p : α → Bool} {items run rest : List α}
    (h : items.span p = (run, rest)) : ∀ x ∈ run, p x = true := by
  rw [List.span_eq_takeWhile_dropWhile, Prod.mk.injEq] at h
  intro x hmem
  rw [← h.1] at hmem
  exact List.mem_takeWhile_imp hmem

/-! ### Literals -/

/-- A hexadecimal digit of either case. -/
def IsHexDigit (c : Char) : Prop :=
  ('0' ≤ c ∧ c ≤ '9') ∨ ('a' ≤ c ∧ c ≤ 'f') ∨ ('A' ≤ c ∧ c ≤ 'F')

namespace Piece

/-- A piece that may stand in a literal. -/
def IsProper : Piece → Prop
  | plain c => c ≠ '"' ∧ c ≠ '\\' ∧ 0x20 ≤ c.toNat
  | escape letter => letter ∈ ['"', '\\', '/', 'b', 'f', 'n', 'r', 't']
  | unit a b c d => IsHexDigit a ∧ IsHexDigit b ∧ IsHexDigit c ∧ IsHexDigit d

theorem isSome_hexValue?_iff (c : Char) : (hexValue? c).isSome ↔ IsHexDigit c := by
  simp only [IsHexDigit, Char.le_def, UInt32.le_iff_toNat_le, hexValue?]
  change _ ↔ (48 ≤ c.toNat ∧ c.toNat ≤ 57) ∨ (97 ≤ c.toNat ∧ c.toNat ≤ 102) ∨
    (65 ≤ c.toNat ∧ c.toNat ≤ 70)
  split
  · simp [*]
  · split
    · simp [*]
    · split <;> simp [*]

theorem isSome_unitValue?_iff (a b c d : Char) :
    (unitValue? a b c d).isSome ↔ (unit a b c d).IsProper := by
  simp only [IsProper, ← isSome_hexValue?_iff, unitValue?]
  cases hexValue? a <;> cases hexValue? b <;> cases hexValue? c <;> cases hexValue? d <;> simp

theorem isSome_escapeValue?_iff (letter : Char) :
    (escapeValue? letter).isSome ↔ (escape letter).IsProper := by
  simp only [IsProper, List.mem_cons, List.not_mem_nil, or_false]
  constructor
  · unfold escapeValue?
    split <;> simp
  · rintro (rfl | rfl | rfl | rfl | rfl | rfl | rfl | rfl) <;> rfl

/-- A literal of proper pieces is read up to its closing quote. -/
theorem scan_append {pieces : List Piece} (hproper : ∀ piece ∈ pieces, piece.IsProper)
    (rest : List Char) : scan (pieces.flatMap text ++ '"' :: rest) = some (pieces, rest) := by
  induction pieces with
  | nil => rfl
  | cons piece pieces ih =>
      obtain ⟨hfirst, hothers⟩ := List.forall_mem_cons.mp hproper
      have hlater := ih hothers
      cases piece with
      | plain c =>
          obtain ⟨hquote, hbackslash, hprintable⟩ := hfirst
          simp only [List.flatMap_cons, text, List.cons_append, List.nil_append]
          rw [scan]
          · rw [if_neg (by simp [hbackslash]; omega), hlater]
          all_goals simp [hquote, hbackslash]
      | escape letter =>
          have hknown := (isSome_escapeValue?_iff letter).mpr hfirst
          obtain ⟨value, hknown⟩ := Option.isSome_iff_exists.mp hknown
          have hother : letter ≠ 'u' := by
            rintro rfl
            contradiction
          simp only [List.flatMap_cons, text, List.cons_append, List.nil_append]
          rw [scan]
          · rw [hknown, hlater]
          all_goals simp [hother]
      | unit a b c d =>
          have hknown := (isSome_unitValue?_iff a b c d).mpr hfirst
          obtain ⟨value, hknown⟩ := Option.isSome_iff_exists.mp hknown
          simp only [List.flatMap_cons, text, List.cons_append, List.nil_append]
          rw [scan, hknown, hlater]

/-- Whatever is read as a literal has proper pieces. -/
theorem isProper_of_scan {s rest : List Char} {pieces : List Piece}
    (h : scan s = some (pieces, rest)) : ∀ piece ∈ pieces, piece.IsProper := by
  fun_induction scan s generalizing pieces rest with
  | case1 => contradiction
  | case2 tail =>
      cases h
      simp
  | case3 a b c d tail n inner after hscan hknown ih =>
      cases h
      have hfirst := (isSome_unitValue?_iff a b c d).mp (by simp [hknown])
      exact List.forall_mem_cons.mpr ⟨hfirst, ih hscan⟩
  | case4 => contradiction
  | case5 letter tail _ c inner after hscan hknown ih =>
      cases h
      have hfirst := (isSome_escapeValue?_iff letter).mp (by simp [hknown])
      exact List.forall_mem_cons.mpr ⟨hfirst, ih hscan⟩
  | case6 => contradiction
  | case7 => contradiction
  | case8 c tail hquote _ _ hplain inner after hscan ih =>
      cases h
      have hfirst : (Piece.plain c).IsProper := by
        simp only [Bool.or_eq_true, decide_eq_true_eq, not_or] at hplain
        refine ⟨?_, hplain.1, by omega⟩
        rintro rfl
        exact hquote rfl
      exact List.forall_mem_cons.mpr ⟨hfirst, ih hscan⟩
  | case9 => contradiction

end Piece

/-! ### Numerals -/

/-- A run of digits. -/
structure IsDigits (digits : List Char) : Prop where
  nonempty : digits ≠ []
  all : ∀ c ∈ digits, c.isDigit = true

/-- An exponent: the letter, a sign or none, and digits. -/
structure WrittenExponent.IsProper (e : WrittenExponent) : Prop where
  mark : e.mark = 'e' ∨ e.mark = 'E'
  sign : ∀ c ∈ e.sign, c = '+' ∨ c = '-'
  digits : IsDigits e.digits

namespace Numeral

/-- A numeral: a zero stands alone before the point, and every part that is there has digits. -/
structure IsProper (n : Numeral) : Prop where
  whole : IsDigits n.whole
  leading : ∀ first rest, n.whole = '0' :: first :: rest → False
  fraction : ∀ digits ∈ n.fraction, IsDigits digits
  exponent : ∀ e ∈ n.exponent, e.IsProper

/-- The character would go on with a numeral. -/
def continues (c : Char) : Bool := c.isDigit || c = '.' || c = 'e' || c = 'E'

/-- What does not go on with a numeral goes on with none of its parts. -/
theorem stops_parts {rest : List Char} (hstops : Stops continues rest) :
    Stops Char.isDigit rest ∧ (∀ tail, rest = '.' :: tail → False) ∧
      ∀ mark tail, rest = mark :: tail → ¬(mark = 'e' ∨ mark = 'E') := by
  refine ⟨?_, ?_, ?_⟩
  · intro c hnext
    have := hstops c hnext
    simp only [continues, Bool.or_eq_false_iff] at this
    exact this.1.1.1
  · rintro tail rfl
    have := hstops '.' rfl
    contradiction
  · rintro mark tail rfl hmarked
    have := hstops mark rfl
    rcases hmarked with rfl | rfl <;> contradiction

theorem scanWhole_append {digits rest : List Char} (hproper : IsDigits digits)
    (hleading : ∀ first others, digits = '0' :: first :: others → False)
    (hstops : Stops Char.isDigit rest) : scanWhole (digits ++ rest) = some (digits, rest) := by
  have hrun := span_append_of_stops hproper.all hstops
  fun_cases scanWhole (digits ++ rest) with
  | case1 after hsame =>
      rw [hrun] at hsame
      cases hsame
      exact absurd rfl hproper.nonempty
  | case2 first others after hsame =>
      rw [hrun] at hsame
      cases hsame
      exact absurd rfl (hleading first others)
  | case3 digits' after _ _ hsame =>
      rw [hrun] at hsame
      cases hsame
      rfl

theorem scanFraction_append {fraction : Option (List Char)} {rest : List Char}
    (hproper : ∀ digits ∈ fraction, IsDigits digits) (hstops : Stops Char.isDigit rest)
    (hnoPoint : ∀ tail, rest = '.' :: tail → False) :
    scanFraction (text ⟨false, [], fraction, none⟩ ++ rest) = some (fraction, rest) := by
  cases fraction with
  | none =>
      change scanFraction rest = _
      rw [scanFraction]
      exact hnoPoint
  | some digits =>
      have hdigital := hproper digits rfl
      have hshown : text ⟨false, [], some digits, none⟩ ++ rest = '.' :: (digits ++ rest) := by
        simp [text]
      rw [hshown, scanFraction, span_append_of_stops hdigital.all hstops]
      obtain ⟨c, others, rfl⟩ := List.exists_cons_of_ne_nil hdigital.nonempty
      rfl

theorem scanSign_append {sign : Option Char} {rest : List Char}
    (hproper : ∀ c ∈ sign, c = '+' ∨ c = '-')
    (hunsigned : ∀ c ∈ rest.head?, c.isDigit = true) :
    scanSign (sign.toList ++ rest) = (sign, rest) := by
  cases sign with
  | none =>
      change scanSign rest = _
      rw [scanSign]
      all_goals
        rintro tail rfl
        exact absurd (hunsigned _ rfl) (by decide)
  | some c => rcases hproper c rfl with rfl | rfl <;> rfl

theorem scanExponent_append {exponent : Option WrittenExponent} {rest : List Char}
    (hproper : ∀ e ∈ exponent, e.IsProper) (hstops : Stops Char.isDigit rest)
    (hnoMark : ∀ mark tail, rest = mark :: tail → ¬(mark = 'e' ∨ mark = 'E')) :
    scanExponent (text ⟨false, [], none, exponent⟩ ++ rest) = some (exponent, rest) := by
  cases exponent with
  | none =>
      change scanExponent rest = _
      cases rest with
      | nil => rfl
      | cons mark tail =>
          have hother : ¬(mark = 'e' || mark = 'E') = true := by simpa using hnoMark mark tail rfl
          unfold scanExponent
          dsimp only
          rw [if_neg hother]
  | some e =>
      obtain ⟨hmarked, hsigned, hdigital⟩ := hproper e rfl
      obtain ⟨mark, sign, digits⟩ := e
      obtain ⟨c, others, rfl⟩ := List.exists_cons_of_ne_nil hdigital.nonempty
      have hunsigned : ∀ first ∈ ((c :: others) ++ rest).head?, first.isDigit = true := by
        rintro first ⟨⟩
        exact hdigital.all c List.mem_cons_self
      have hshown : text ⟨false, [], none, some ⟨mark, sign, c :: others⟩⟩ ++ rest
          = mark :: (sign.toList ++ ((c :: others) ++ rest)) := by simp [text]
      have hmarked : (mark = 'e' || mark = 'E') = true := by simpa using hmarked
      rw [hshown]
      unfold scanExponent
      dsimp only
      rw [if_pos hmarked, scanSign_append hsigned hunsigned]
      dsimp only
      rw [span_append_of_stops hdigital.all hstops]

/-- Where digits begin, neither a point nor a letter stands. -/
theorem stops_exponent {exponent : Option WrittenExponent} {rest : List Char}
    (hproper : ∀ e ∈ exponent, e.IsProper) (hstops : Stops continues rest) :
    Stops Char.isDigit (text ⟨false, [], none, exponent⟩ ++ rest) ∧
      ∀ tail, text ⟨false, [], none, exponent⟩ ++ rest = '.' :: tail → False := by
  obtain ⟨hstopsDigit, hnoPoint, -⟩ := stops_parts hstops
  cases exponent with
  | none => exact ⟨hstopsDigit, hnoPoint⟩
  | some e =>
      obtain ⟨hmarked, -, -⟩ := hproper e rfl
      have hshown : text ⟨false, [], none, some e⟩ ++ rest
          = e.mark :: (e.sign.toList ++ e.digits ++ rest) := by simp [text]
      rw [hshown]
      refine ⟨?_, ?_⟩
      · rintro c ⟨⟩
        rcases hmarked with hsame | hsame <;> rw [hsame] <;> rfl
      · intro tail hsame
        rw [(List.cons.inj hsame).1] at hmarked
        rcases hmarked with hsame | hsame <;> contradiction

theorem stops_fraction (fraction : Option (List Char)) {rest : List Char}
    (hstops : Stops Char.isDigit rest) :
    Stops Char.isDigit (text ⟨false, [], fraction, none⟩ ++ rest) := by
  cases fraction with
  | none => exact hstops
  | some digits =>
      rintro c ⟨⟩
      rfl

/-- A proper numeral is read up to the first character that does not go on with it. -/
theorem scan_append {n : Numeral} (hproper : n.IsProper) {rest : List Char}
    (hstops : Stops continues rest) : scan (n.text ++ rest) = some (n, rest) := by
  obtain ⟨hstopsDigit, hnoPoint, hnoMark⟩ := stops_parts hstops
  obtain ⟨negative, whole, fraction, exponent⟩ := n
  obtain ⟨hwhole, hleading, hfraction, hexponent⟩ := hproper
  dsimp only at hwhole hleading hfraction hexponent
  obtain ⟨hstopsExponent, hnoPointExponent⟩ := stops_exponent hexponent hstops
  have hthird := scanExponent_append hexponent hstopsDigit hnoMark
  have hsecond := scanFraction_append hfraction hstopsExponent hnoPointExponent
  have hfirst := scanWhole_append hwhole hleading (stops_fraction fraction hstopsExponent)
  have hshown : text ⟨negative, whole, fraction, exponent⟩ ++ rest =
      (if negative then ['-'] else []) ++ (whole ++ (text ⟨false, [], fraction, none⟩
        ++ (text ⟨false, [], none, exponent⟩ ++ rest))) := by
    simp [text]
  rw [hshown]
  cases negative with
  | true => simp [scan, hfirst, hsecond, hthird]
  | false =>
      -- A digit comes first, so no minus is taken off.
      obtain ⟨c, others, rfl⟩ := List.exists_cons_of_ne_nil hwhole.nonempty
      have hunsigned : c ≠ '-' := by
        rintro rfl
        have := hwhole.all '-' List.mem_cons_self
        contradiction
      rw [List.cons_append] at hfirst
      simp [scan, hunsigned, hfirst, hsecond, hthird]

theorem isDigits_of_scanWhole {s digits rest : List Char} :
    scanWhole s = some (digits, rest) →
      IsDigits digits ∧ ∀ first others, digits = '0' :: first :: others → False := by
  fun_cases scanWhole s with
  | case1 => simp
  | case2 => simp
  | case3 run after hnonempty hleading hspan =>
      rintro ⟨⟩
      refine ⟨⟨?_, all_of_span hspan⟩, ?_⟩
      · rintro rfl
        exact hnonempty rfl
      · rintro first others rfl
        exact hleading _ _ rfl

theorem isDigits_of_scanFraction {s rest : List Char} {fraction : Option (List Char)} :
    scanFraction s = some (fraction, rest) → ∀ digits ∈ fraction, IsDigits digits := by
  fun_cases scanFraction s with
  | case1 => simp
  | case2 tail run after hnonempty hspan =>
      rintro ⟨⟩ digits ⟨⟩
      refine ⟨?_, all_of_span hspan⟩
      rintro rfl
      exact hnonempty rfl
  | case3 =>
      rintro ⟨⟩ digits ⟨⟩

theorem isProper_of_scanExponent {s rest : List Char} {exponent : Option WrittenExponent} :
    scanExponent s = some (exponent, rest) → ∀ e ∈ exponent, e.IsProper := by
  fun_cases scanExponent s with
  | case1 => simp
  | case2 mark tail hmarked sign unsigned hsign run after hnonempty hspan =>
      rintro ⟨⟩ e ⟨⟩
      refine ⟨by simpa using hmarked, ?_, ?_, all_of_span hspan⟩
      · unfold scanSign at hsign
        split at hsign <;> cases hsign <;> simp
      · rintro rfl
        exact hnonempty rfl
  | case3 => rintro ⟨⟩ e ⟨⟩
  | case4 => rintro ⟨⟩ e ⟨⟩

/-- Whatever is read as a numeral is proper. -/
theorem isProper_of_scan {s rest : List Char} {n : Numeral} (h : scan s = some (n, rest)) :
    n.IsProper := by
  simp only [scan, Option.bind_eq_bind, Option.bind_eq_some_iff, Option.pure_def,
    Option.some.injEq] at h
  obtain ⟨⟨whole, s₁⟩, hwhole, ⟨fraction, s₂⟩, hfraction, ⟨exponent, s₃⟩, hexponent, h⟩ := h
  cases h
  obtain ⟨hdigital, hleading⟩ := isDigits_of_scanWhole hwhole
  exact ⟨hdigital, hleading, isDigits_of_scanFraction hfraction, isProper_of_scanExponent hexponent⟩

end Numeral

/-! ### Values -/

/-- Blanks and nothing else. -/
def IsGap (gap : List Char) : Prop := ∀ c ∈ gap, isBlank c = true

mutual

/-- The value is spelled by the rules of JSON. -/
def Node.IsProper : Node → Prop
  | .null | .bool _ => True
  | .number n => n.IsProper
  | .string pieces => ∀ piece ∈ pieces, piece.IsProper
  | .array items => items.IsProper true
  | .object members => members.IsProper true
  | .cut => False

/-- The items and all between them are. Only an array without items has blanks before the closing
bracket that do not stand behind an item. -/
def Items.IsProper : Items → (first : Bool) → Prop
  | .close gap, first => if first then IsGap gap else gap = []
  | .item before value after rest, _ =>
      IsGap before ∧ value.IsProper ∧ IsGap after ∧ rest.IsProper false
  | .cut, _ => False

/-- The members and all between them are. -/
def Members.IsProper : Members → (first : Bool) → Prop
  | .close gap, first => if first then IsGap gap else gap = []
  | .member before key left right value after rest, _ =>
      IsGap before ∧ (∀ piece ∈ key, piece.IsProper) ∧ IsGap left ∧ IsGap right ∧
        value.IsProper ∧ IsGap after ∧ rest.IsProper false
  | .cut, _ => False

end

mutual

theorem Node.IsProper.isWhole : ∀ {node : Node}, node.IsProper → node.isWhole = true
  | .null, _ | .bool _, _ | .number _, _ | .string _, _ => rfl
  | .array _, hproper => Items.IsProper.isWhole hproper
  | .object _, hproper => Members.IsProper.isWhole hproper

theorem Items.IsProper.isWhole :
    ∀ {items : Items} {first : Bool}, items.IsProper first → items.isWhole = true
  | .close _, _, _ => rfl
  | .item _ _ _ _, _, ⟨_, hvalue, _, hrest⟩ => by
      simp [Items.isWhole, hvalue.isWhole, hrest.isWhole]

theorem Members.IsProper.isWhole :
    ∀ {members : Members} {first : Bool}, members.IsProper first → members.isWhole = true
  | .close _, _, _ => rfl
  | .member _ _ _ _ _ _ _, _, ⟨_, _, _, _, hvalue, _, hrest⟩ => by
      simp [Members.isWhole, hvalue.isWhole, hrest.isWhole]

end

end ChainRpc.Json
