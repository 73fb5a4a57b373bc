import ChainRpc.Json.Node
import Mathlib.Data.List.TakeDrop

/-!
# Trees keep their text

A tree whose text is JSON to its end holds every character that was read for it: its own text
followed by what was left is the text it was read from. So the text of a part of the tree is the
text that stands there.
-/

namespace ChainRpc.Json

theorem span_fst_append_snd {α : Type} (p : α → Bool) (items : List α) :
    (items.span p).1 ++ (items.span p).2 = items := by
  rw [List.span_eq_takeWhile_dropWhile, List.takeWhile_append_dropWhile]

theorem span_append {α : Type} {p : α → Bool} {items first second : List α}
    (h : items.span p = (first, second)) : first ++ second = items := by
  have hjoined := span_fst_append_snd p items
  rwa [h] at hjoined

/-! ### Leaves -/

theorem Piece.scan_text {s rest : List Char} {pieces : List Piece}
    (h : Piece.scan s = some (pieces, rest)) : pieces.flatMap Piece.text ++ '"' :: rest = s := by
  fun_induction Piece.scan s generalizing pieces rest with
  | case1 => contradiction
  | case2 tail =>
      cases h
      rfl
  | case3 a b c d tail n inner after hscan _ ih =>
      cases h
      simp [Piece.text, ih hscan]
  | case4 => contradiction
  | case5 letter tail _ c inner after hscan _ ih =>
      cases h
      simp [Piece.text, ih hscan]
  | case6 => contradiction
  | case7 => contradiction
  | case8 c tail _ _ _ _ inner after hscan ih =>
      cases h
      simp [Piece.text, ih hscan]
  | case9 => contradiction

namespace Numeral

theorem scanWhole_text {s digits rest : List Char} :
    scanWhole s = some (digits, rest) → digits ++ rest = s := by
  fun_cases scanWhole s with
  | case1 => simp
  | case2 => simp
  | case3 run after _ _ hspan =>
      intro h
      cases h
      exact span_append hspan

theorem scanFraction_text {s rest : List Char} {digits : Option (List Char)} :
    scanFraction s = some (digits, rest) → text ⟨false, [], digits, none⟩ ++ rest = s := by
  fun_cases scanFraction s with
  | case1 => simp
  | case2 tail run after _ hspan =>
      intro h
      cases h
      simp [text, span_append hspan]
  | case3 =>
      intro h
      cases h
      rfl

theorem scanSign_text (s : List Char) : (scanSign s).1.toList ++ (scanSign s).2 = s := by
  unfold scanSign
  split <;> rfl

theorem scanExponent_text {s rest : List Char} {exponent : Option WrittenExponent} :
    scanExponent s = some (exponent, rest) → text ⟨false, [], none, exponent⟩ ++ rest = s := by
  fun_cases scanExponent s with
  | case1 => simp
  | case2 mark tail _ sign unsigned hsign run after _ hspan =>
      intro h
      cases h
      have hsigned := scanSign_text tail
      rw [hsign] at hsigned
      simp [text, span_append hspan, hsigned]
  | case3 =>
      intro h
      cases h
      rfl
  | case4 =>
      intro h
      cases h
      rfl

theorem scan_text {s rest : List Char} {n : Numeral} (h : scan s = some (n, rest)) :
    n.text ++ rest = s := by
  simp only [scan, Option.bind_eq_bind, Option.bind_eq_some_iff, Option.pure_def,
    Option.some.injEq] at h
  obtain ⟨⟨whole, s₁⟩, hwhole, ⟨fraction, s₂⟩, hfraction, ⟨exponent, s₃⟩, hexponent, h⟩ := h
  cases h
  have hfirst := scanWhole_text hwhole
  have hsecond := scanFraction_text hfraction
  have hthird := scanExponent_text hexponent
  simp only [text, Bool.false_eq_true, if_false, List.nil_append, List.append_nil] at hsecond hthird
  simp only [text, List.append_assoc, hthird, hsecond, hfirst]
  split <;> rfl

end Numeral

/-! ### Values -/

/-- A value that is JSON to its end is read off its own text. -/
def Node.KeepsText (fuel : Nat) : Prop :=
  ∀ {s node rest}, Node.scan fuel s = (node, rest) → node.isWhole = true → node.text ++ rest = s

def Items.KeepsText (fuel : Nat) : Prop :=
  ∀ {before s items rest}, Items.scan fuel before s = (items, rest) → items.isWhole = true →
    ∀ first : Bool, items.text first ++ rest = (if first then [] else [',']) ++ before ++ s

def Members.KeepsText (fuel : Nat) : Prop :=
  ∀ {before s members rest}, Members.scan fuel before s = (members, rest) →
    members.isWhole = true →
    ∀ first : Bool, members.text first ++ rest = (if first then [] else [',']) ++ before ++ s

section Step

variable {n : Nat} (hnodes : ∀ m < n, Node.KeepsText m) (hitems : ∀ m < n, Items.KeepsText m)
  (hmembers : ∀ m < n, Members.KeepsText m)

include hitems hmembers in
theorem Node.keepsText_step : Node.KeepsText n := by
  intro s node rest
  fun_cases Node.scan n s with
  | case1 => rintro ⟨⟩ hwhole; contradiction
  | case2 => rintro ⟨⟩ _; rfl
  | case3 => rintro ⟨⟩ _; rfl
  | case4 => rintro ⟨⟩ _; rfl
  | case5 fuel tail pieces rest hscan =>
      rintro ⟨⟩ _
      simp [Node.text, quote, Piece.scan_text hscan]
  | case6 => rintro ⟨⟩ hwhole; contradiction
  | case7 fuel tail gap rest hspan =>
      rintro ⟨⟩ _
      simp [Node.text, Items.text, span_append hspan]
  | case8 fuel tail gap inner hspan inside after hscan =>
      rintro ⟨⟩ hwhole
      have hkept := hitems fuel (Nat.lt_succ_self fuel) hscan
      rw [hscan] at hwhole ⊢
      simpa [Node.text, span_append hspan] using hkept hwhole true
  | case9 fuel tail gap rest hspan =>
      rintro ⟨⟩ _
      simp [Node.text, Members.text, span_append hspan]
  | case10 fuel tail gap inner hspan inside after hscan =>
      rintro ⟨⟩ hwhole
      have hkept := hmembers fuel (Nat.lt_succ_self fuel) hscan
      rw [hscan] at hwhole ⊢
      simpa [Node.text, span_append hspan] using hkept hwhole true
  | case11 s fuel numeral after hscan =>
      rw [hscan]
      rintro ⟨⟩ _
      simp [Node.text, Numeral.scan_text hscan]
  | case12 s fuel hscan =>
      rw [hscan]
      rintro ⟨⟩ hwhole
      contradiction

include hnodes hitems in
theorem Items.keepsText_step : Items.KeepsText n := by
  intro before s node rest
  fun_cases Items.scan n before s with
  | case1 => rintro ⟨⟩ hwhole; contradiction
  | case2 fuel before s value s₁ hvalue gap tail hspan =>
      rintro ⟨⟩ hwhole first
      simp only [Items.isWhole, Bool.and_true] at hwhole
      have hvalue' := hnodes fuel (Nat.lt_succ_self fuel) hvalue hwhole
      simp [Items.text, ← hvalue', ← span_append hspan]
  | case3 fuel before s value s₁ hvalue gap s₂ next s₃ hnext others s₄ hothers hspan =>
      rintro ⟨⟩ hwhole first
      simp only [Items.isWhole, Bool.and_eq_true] at hwhole
      have hvalue' := hnodes fuel (Nat.lt_succ_self fuel) hvalue hwhole.1
      have hothers' := hitems fuel (Nat.lt_succ_self fuel) hothers hwhole.2 false
      simp only [Bool.false_eq_true, if_false] at hothers'
      simp [Items.text, hothers', ← hvalue', ← span_append hspan, ← span_append hnext]
  | case4 =>
      rintro ⟨⟩ hwhole
      simp [Items.isWhole] at hwhole

include hnodes hmembers in
theorem Members.keepsText_step : Members.KeepsText n := by
  intro before s node rest
  fun_cases Members.scan n before s with
  | case1 => rintro ⟨⟩ hwhole; contradiction
  | case2 fuel before s₁ key s₂ hkey left s₃ right s₄ hright value s₅ hvalue after s₆ hleft
      hafter =>
      rintro ⟨⟩ hwhole first
      simp only [Members.isWhole, Bool.and_true] at hwhole
      have hvalue' := hnodes fuel (Nat.lt_succ_self fuel) hvalue hwhole
      simp [Members.text, quote, ← Piece.scan_text hkey, ← span_append hleft,
        ← span_append hright, ← hvalue', ← span_append hafter]
  | case3 fuel before s₁ key s₂ hkey left s₃ right s₄ hright value s₅ hvalue after s₆ next s₇
      hnext others s₈ hothers hleft hafter =>
      rintro ⟨⟩ hwhole first
      simp only [Members.isWhole, Bool.and_eq_true] at hwhole
      have hvalue' := hnodes fuel (Nat.lt_succ_self fuel) hvalue hwhole.1
      have hothers' := hmembers fuel (Nat.lt_succ_self fuel) hothers hwhole.2 false
      simp only [Bool.false_eq_true, if_false] at hothers'
      simp [Members.text, quote, hothers', ← Piece.scan_text hkey, ← span_append hleft,
        ← span_append hright, ← hvalue', ← span_append hafter, ← span_append hnext]
  | case4 =>
      rintro ⟨⟩ hwhole
      simp [Members.isWhole] at hwhole
  | case5 => rintro ⟨⟩ hwhole; contradiction
  | case6 => rintro ⟨⟩ hwhole; contradiction
  | case7 => rintro ⟨⟩ hwhole; contradiction

end Step

theorem keepsText (n : Nat) :
    Node.KeepsText n ∧ Items.KeepsText n ∧ Members.KeepsText n := by
  -- Each scanner calls the others with less fuel, so all three go through one induction on it.
  induction n using Nat.strongRecOn with
  | ind n ih =>
      have hnodes : ∀ m < n, Node.KeepsText m := fun m hless => (ih m hless).1
      have hitems : ∀ m < n, Items.KeepsText m := fun m hless => (ih m hless).2.1
      have hmembers : ∀ m < n, Members.KeepsText m := fun m hless => (ih m hless).2.2
      exact ⟨Node.keepsText_step hitems hmembers, Items.keepsText_step hnodes hitems,
        Members.keepsText_step hnodes hmembers⟩

/-- A document whose value is JSON to its end holds its whole text. -/
theorem Document.ofText_text {text : String} (hwhole : (ofText text).value.isWhole = true) :
    (ofText text).before ++ (ofText text).value.text ++ (ofText text).after ++ (ofText text).tail
      = text.toList := by
  unfold ofText at hwhole ⊢
  dsimp only at hwhole ⊢
  rw [List.append_assoc _ (List.span isBlank _).1, span_fst_append_snd, List.append_assoc,
    (keepsText _).1 rfl hwhole, span_fst_append_snd]

end ChainRpc.Json
