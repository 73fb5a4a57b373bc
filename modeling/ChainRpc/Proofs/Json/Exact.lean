import ChainRpc.Proofs.Json.Grammar

/-!
# Reading is exact

The text of a proper tree gives that tree back, whatever stands behind it, and a tree that is JSON
to its end is proper. So a document is one value between blanks, and that value is JSON to its
end, exactly when the text is JSON.
-/

namespace ChainRpc.Json

/-! ### What a value begins with, and what may follow it -/

theorem stops_append {p : Char → Bool} {gap rest : List Char} (hgaps : ∀ c ∈ gap, p c = false)
    (hstops : Stops p rest) : Stops p (gap ++ rest) := by
  cases gap with
  | nil => exact hstops
  | cons c gap =>
      rintro first ⟨⟩
      exact hgaps c List.mem_cons_self

theorem continues_of_isBlank {c : Char} (hblank : isBlank c = true) :
    Numeral.continues c = false := by
  simp only [isBlank, Bool.or_eq_true, decide_eq_true_eq] at hblank
  rcases hblank with ((rfl | rfl) | rfl) | rfl <;> rfl

/-- Behind a gap stands what stops a run, if the blanks themselves do. -/
theorem IsGap.stops_continues {gap rest : List Char} {c : Char} (hblanks : IsGap gap)
    (hother : Numeral.continues c = false) : Stops Numeral.continues (gap ++ c :: rest) := by
  apply stops_append (fun c hmem => continues_of_isBlank (hblanks c hmem))
  rintro _ ⟨⟩
  exact hother

/-- What follows an item is a comma or the closing bracket. -/
theorem Items.text_head {items : Items} (hproper : items.IsProper false) :
    ∃ tail, items.text false = ',' :: tail ∨ items.text false = ']' :: tail := by
  cases items with
  | close gap =>
      obtain rfl : gap = [] := hproper
      exact ⟨[], .inr rfl⟩
  | item before value after rest => exact ⟨_, .inl rfl⟩
  | cut => exact hproper.elim

/-- What follows a member is a comma or the closing brace. -/
theorem Members.text_head {members : Members} (hproper : members.IsProper false) :
    ∃ tail, members.text false = ',' :: tail ∨ members.text false = '\x7d' :: tail := by
  cases members with
  | close gap =>
      obtain rfl : gap = [] := hproper
      exact ⟨[], .inr rfl⟩
  | member before key left right value after rest => exact ⟨_, .inl rfl⟩
  | cut => exact hproper.elim

theorem Numeral.IsProper.text_head {n : Numeral} (hproper : n.IsProper) :
    ∃ c tail, n.text = c :: tail ∧ (c = '-' ∨ c.isDigit = true) := by
  obtain ⟨negative, whole, fraction, exponent⟩ := n
  obtain ⟨c, others, rfl⟩ := List.exists_cons_of_ne_nil hproper.whole.nonempty
  cases negative with
  | true => exact ⟨'-', _, rfl, .inl rfl⟩
  | false => exact ⟨c, _, rfl, .inr (hproper.whole.all c List.mem_cons_self)⟩

theorem Numeral.text_head_facts {c : Char} (hhead : c = '-' ∨ c.isDigit = true) :
    isBlank c = false ∧ c ∉ ['n', 't', 'f', '"', '[', '\x7b', ']'] := by
  rcases hhead with rfl | hdigit
  · decide
  · refine ⟨?_, ?_⟩
    · rw [Bool.eq_false_iff]
      intro hblank
      simp only [isBlank, Bool.or_eq_true, decide_eq_true_eq] at hblank
      rcases hblank with ((rfl | rfl) | rfl) | rfl <;> contradiction
    · simp only [List.mem_cons, List.not_mem_nil, or_false]
      rintro (rfl | rfl | rfl | rfl | rfl | rfl | rfl) <;> contradiction

/-- A value begins with neither a blank nor a closing bracket. -/
theorem Node.IsProper.text_head {node : Node} (hproper : node.IsProper) :
    ∃ c tail, node.text = c :: tail ∧ isBlank c = false ∧ c ≠ ']' := by
  cases node with
  | null => exact ⟨_, _, rfl, rfl, by decide⟩
  | bool b => cases b <;> exact ⟨_, _, rfl, rfl, by decide⟩
  | number n =>
      obtain ⟨c, tail, hshown, hhead⟩ := Numeral.IsProper.text_head hproper
      obtain ⟨hsolid, hother⟩ := Numeral.text_head_facts hhead
      exact ⟨c, tail, hshown, hsolid, by simp_all⟩
  | string pieces => exact ⟨_, _, rfl, rfl, by decide⟩
  | array items => exact ⟨_, _, rfl, rfl, by decide⟩
  | object members => exact ⟨_, _, rfl, rfl, by decide⟩
  | cut => exact hproper.elim

/-! ### Proper trees are read back -/

/-- The characters of an array from an item on. -/
def Items.textFrom (value : Node) (after : List Char) (others : Items) : List Char :=
  value.text ++ (after ++ others.text false)

/-- The characters of an object from a key on. -/
def Members.textFrom (key : List Piece) (left right : List Char) (value : Node)
    (after : List Char) (others : Members) : List Char :=
  quote key ++ (left ++ ':' :: (right ++ (value.text ++ (after ++ others.text false))))

/-- With enough fuel the scanner gives a proper value back. -/
def Node.ReadsBack (fuel : Nat) : Prop :=
  ∀ {node : Node} (rest : List Char), node.IsProper → node.text.length < fuel →
    Stops Numeral.continues rest → Node.scan fuel (node.text ++ rest) = (node, rest)

def Items.ReadsBack (fuel : Nat) : Prop :=
  ∀ {before value after others} (rest : List Char),
    (Items.item before value after others).IsProper false →
    (Items.textFrom value after others).length < fuel →
    Items.scan fuel before (Items.textFrom value after others ++ rest)
      = (.item before value after others, rest)

def Members.ReadsBack (fuel : Nat) : Prop :=
  ∀ {before key left right value after others} (rest : List Char),
    (Members.member before key left right value after others).IsProper false →
    (Members.textFrom key left right value after others).length < fuel →
    Members.scan fuel before (Members.textFrom key left right value after others ++ rest)
      = (.member before key left right value after others, rest)

/-- Behind blanks the scanner finds what is none. -/
theorem IsGap.span_append {gap rest : List Char} {c : Char} (hblanks : IsGap gap)
    (hsolid : isBlank c = false) : (gap ++ c :: rest).span isBlank = (gap, c :: rest) := by
  apply span_append_of_stops hblanks
  rintro _ ⟨⟩
  exact hsolid

section Scan

variable {n : Nat} {s s₁ s₂ s₃ s₄ s₅ s₆ rest : List Char} {before left right after gap : List Char}
  {key : List Piece} {value : Node} {items : Items} {members : Members}

theorem Items.scan_last (hvalue : Node.scan n s = (value, s₁))
    (hafter : s₁.span isBlank = (after, ']' :: rest)) :
    Items.scan (n + 1) before s = (.item before value after (.close []), rest) := by
  simp only [Items.scan, hvalue, hafter]

theorem Items.scan_more (hvalue : Node.scan n s = (value, s₁))
    (hafter : s₁.span isBlank = (after, ',' :: s₂)) (hgap : s₂.span isBlank = (gap, s₃))
    (hitems : Items.scan n gap s₃ = (items, rest)) :
    Items.scan (n + 1) before s = (.item before value after items, rest) := by
  simp only [Items.scan, hvalue, hafter, hgap, hitems]

theorem Members.scan_last (hkey : Piece.scan s = some (key, s₁))
    (hleft : s₁.span isBlank = (left, ':' :: s₂)) (hright : s₂.span isBlank = (right, s₃))
    (hvalue : Node.scan n s₃ = (value, s₄)) (hafter : s₄.span isBlank = (after, '\x7d' :: rest)) :
    Members.scan (n + 1) before ('"' :: s)
      = (.member before key left right value after (.close []), rest) := by
  simp only [Members.scan, hkey, hleft, hright, hvalue, hafter]

theorem Members.scan_more (hkey : Piece.scan s = some (key, s₁))
    (hleft : s₁.span isBlank = (left, ':' :: s₂)) (hright : s₂.span isBlank = (right, s₃))
    (hvalue : Node.scan n s₃ = (value, s₄)) (hafter : s₄.span isBlank = (after, ',' :: s₅))
    (hgap : s₅.span isBlank = (gap, s₆)) (hmembers : Members.scan n gap s₆ = (members, rest)) :
    Members.scan (n + 1) before ('"' :: s)
      = (.member before key left right value after members, rest) := by
  simp only [Members.scan, hkey, hleft, hright, hvalue, hafter, hgap, hmembers]

theorem Node.scan_array {c : Char} (hgap : s.span isBlank = (gap, c :: s₁)) (hother : c ≠ ']')
    (hitems : Items.scan n gap (c :: s₁) = (items, rest)) :
    Node.scan (n + 1) ('[' :: s) = (.array items, rest) := by
  simp [Node.scan, hgap, hother, hitems, -List.span_eq_takeWhile_dropWhile]

theorem Node.scan_object {c : Char} (hgap : s.span isBlank = (gap, c :: s₁)) (hother : c ≠ '\x7d')
    (hmembers : Members.scan n gap (c :: s₁) = (members, rest)) :
    Node.scan (n + 1) ('\x7b' :: s) = (.object members, rest) := by
  simp [Node.scan, hgap, hother, hmembers, -List.span_eq_takeWhile_dropWhile]

end Scan

section Step

variable {n : Nat}

theorem Node.readsBack_succ (hitems : Items.ReadsBack n) (hmembers : Members.ReadsBack n) :
    Node.ReadsBack (n + 1) := by
  intro node rest hproper henough hstops
  cases node with
  | null => rfl
  | bool b => cases b <;> rfl
  | number numeral =>
      obtain ⟨c, tail, hshown, hhead⟩ := Numeral.IsProper.text_head hproper
      obtain ⟨-, hother⟩ := Numeral.text_head_facts hhead
      simp only [List.mem_cons, List.not_mem_nil, or_false, not_or] at hother
      rw [Node.text, Node.scan, Numeral.scan_append hproper hstops]
      -- A numeral begins like none of the other values.
      all_goals
        intro tail' hsame
        simp [hshown, hother] at hsame
  | string pieces =>
      have hshown : (Node.string pieces).text ++ rest
          = '"' :: (pieces.flatMap Piece.text ++ '"' :: rest) := by simp [Node.text, quote]
      rw [hshown, Node.scan, Piece.scan_append hproper]
  | array inside =>
      cases inside with
      | close gap =>
          have hshown : (Node.array (.close gap)).text ++ rest = '[' :: (gap ++ ']' :: rest) := by
            simp [Node.text, Items.text]
          rw [hshown, Node.scan, IsGap.span_append hproper rfl]
          rfl
      | item before value after others =>
          have hshown : (Node.array (.item before value after others)).text
              = '[' :: (before ++ Items.textFrom value after others) := by
            simp [Node.text, Items.text, Items.textFrom]
          have hread := hitems rest hproper (by simp [hshown] at henough; omega)
          obtain ⟨c, tail, hhead, hsolid, hother⟩ := hproper.2.1.text_head
          have hbegins : Items.textFrom value after others ++ rest
              = c :: (tail ++ (after ++ others.text false) ++ rest) := by
            simp [Items.textFrom, hhead]
          rw [hbegins] at hread
          rw [hshown, List.cons_append, List.append_assoc, hbegins]
          exact Node.scan_array (hproper.1.span_append hsolid) hother hread
      | cut => exact hproper.elim
  | object inside =>
      cases inside with
      | close gap =>
          have hshown : (Node.object (.close gap)).text ++ rest
              = '\x7b' :: (gap ++ '\x7d' :: rest) := by
            simp [Node.text, Members.text]
          rw [hshown, Node.scan, IsGap.span_append hproper rfl]
          rfl
      | member before key left right value after others =>
          have hshown : (Node.object (.member before key left right value after others)).text
              = '\x7b' :: (before ++ Members.textFrom key left right value after others) := by
            simp [Node.text, Members.text, Members.textFrom]
          have hread := hmembers rest hproper (by simp [hshown] at henough; omega)
          rw [hshown, List.cons_append, List.append_assoc]
          exact Node.scan_object (hproper.1.span_append rfl) (by decide) hread
      | cut => exact hproper.elim
  | cut => exact hproper.elim

theorem Items.readsBack_succ (hnodes : Node.ReadsBack n) (hitems : Items.ReadsBack n) :
    Items.ReadsBack (n + 1) := by
  intro before value after others rest hproper henough
  obtain ⟨-, hvalueProper, hgap, hothersProper⟩ := hproper
  cases others with
  | close gap' =>
      obtain rfl : gap' = [] := hothersProper
      have hshown : textFrom value after (.close []) ++ rest
          = value.text ++ (after ++ ']' :: rest) := by
        simp [textFrom, Items.text]
      have hread := hnodes (after ++ ']' :: rest) hvalueProper
        (by simp [textFrom, Items.text] at henough; omega) (hgap.stops_continues rfl)
      rw [hshown]
      exact Items.scan_last hread (hgap.span_append rfl)
  | item before' value' after' others' =>
      have hshown : textFrom value after (.item before' value' after' others') ++ rest = value.text
          ++ (after ++ ',' :: (before' ++ (textFrom value' after' others' ++ rest))) := by
        simp [textFrom, Items.text]
      have hread := hnodes (after ++ ',' :: (before' ++ (textFrom value' after' others' ++ rest)))
        hvalueProper (by simp [textFrom, Items.text] at henough; omega) (hgap.stops_continues rfl)
      have hlater := hitems rest hothersProper (by
        simp [textFrom, Items.text] at henough ⊢
        omega)
      obtain ⟨c, tail, hhead, hsolid, -⟩ := hothersProper.2.1.text_head
      have hbegins : textFrom value' after' others' ++ rest
          = c :: (tail ++ (after' ++ others'.text false) ++ rest) := by
        simp [textFrom, hhead]
      rw [hshown]
      rw [hbegins] at hread hlater ⊢
      exact Items.scan_more hread (hgap.span_append rfl) (hothersProper.1.span_append hsolid) hlater
  | cut => exact hothersProper.elim

theorem Members.readsBack_succ (hnodes : Node.ReadsBack n) (hmembers : Members.ReadsBack n) :
    Members.ReadsBack (n + 1) := by
  intro before key left right value after others rest hproper henough
  obtain ⟨-, hkeyProper, hleft, hright, hvalueProper, hafter, hothersProper⟩ := hproper
  obtain ⟨c, tail, hhead, hsolid, -⟩ := hvalueProper.text_head
  have hbegun (behind : List Char) :
      (right ++ (value.text ++ behind)).span isBlank = (right, value.text ++ behind) := by
    rw [hhead]
    exact hright.span_append hsolid
  cases others with
  | close gap =>
      obtain rfl : gap = [] := hothersProper
      have hshown : textFrom key left right value after (.close []) ++ rest
          = '"' :: (key.flatMap Piece.text ++ '"' :: (left ++ ':' :: (right ++ (value.text
            ++ (after ++ '\x7d' :: rest))))) := by
        simp [textFrom, Members.text, quote]
      have hread := hnodes (after ++ '\x7d' :: rest) hvalueProper
        (by simp [textFrom, Members.text] at henough; omega) (hafter.stops_continues rfl)
      rw [hshown]
      exact Members.scan_last (Piece.scan_append hkeyProper _) (hleft.span_append rfl) (hbegun _)
        hread (hafter.span_append rfl)
  | member before' key' left' right' value' after' others' =>
      have hshown : textFrom key left right value after
            (.member before' key' left' right' value' after' others') ++ rest
          = '"' :: (key.flatMap Piece.text ++ '"' :: (left ++ ':' :: (right ++ (value.text
            ++ (after ++ ',' :: (before'
              ++ (textFrom key' left' right' value' after' others' ++ rest))))))) := by
        simp [textFrom, Members.text, quote]
      have hread := hnodes (after ++ ',' :: (before'
          ++ (textFrom key' left' right' value' after' others' ++ rest)))
        hvalueProper (by simp [textFrom, Members.text] at henough; omega)
        (hafter.stops_continues rfl)
      have hlater := hmembers rest hothersProper (by
        simp [textFrom, Members.text] at henough ⊢
        omega)
      rw [hshown]
      exact Members.scan_more (Piece.scan_append hkeyProper _) (hleft.span_append rfl) (hbegun _)
        hread (hafter.span_append rfl) (hothersProper.1.span_append rfl) hlater
  | cut => exact hothersProper.elim

end Step

theorem readsBack (n : Nat) : Node.ReadsBack n ∧ Items.ReadsBack n ∧ Members.ReadsBack n := by
  -- One induction for all three, as each scanner calls the others with less fuel.
  induction n with
  | zero =>
      refine ⟨?_, ?_, ?_⟩
      · intro node rest _ henough
        exact absurd henough (Nat.not_lt_zero _)
      · intro before value after others rest _ henough
        exact absurd henough (Nat.not_lt_zero _)
      · intro before key left right value after others rest _ henough
        exact absurd henough (Nat.not_lt_zero _)
  | succ n ih =>
      obtain ⟨hnodes, hitems, hmembers⟩ := ih
      exact ⟨Node.readsBack_succ hitems hmembers, Items.readsBack_succ hnodes hitems,
        Members.readsBack_succ hnodes hmembers⟩

/-! ### What is JSON to its end is proper -/

/-- The scanner makes proper trees, unless the text stops being JSON. -/
def Node.GivesProper (fuel : Nat) : Prop :=
  ∀ {s node rest}, Node.scan fuel s = (node, rest) → node.isWhole = true → node.IsProper

def Items.GivesProper (fuel : Nat) : Prop :=
  ∀ {before s items rest}, Items.scan fuel before s = (items, rest) → items.isWhole = true →
    IsGap before → ∀ first : Bool, items.IsProper first

def Members.GivesProper (fuel : Nat) : Prop :=
  ∀ {before s members rest}, Members.scan fuel before s = (members, rest) →
    members.isWhole = true → IsGap before → ∀ first : Bool, members.IsProper first

theorem isGap_of_span {s gap rest : List Char} (h : s.span isBlank = (gap, rest)) : IsGap gap :=
  all_of_span h

theorem isGap_nil : IsGap [] := by simp [IsGap]

section Step

variable {n : Nat} (hnodes : ∀ m < n, Node.GivesProper m) (hitems : ∀ m < n, Items.GivesProper m)
  (hmembers : ∀ m < n, Members.GivesProper m)

include hitems hmembers in
theorem Node.givesProper_step : Node.GivesProper n := by
  intro s node rest
  fun_cases Node.scan n s with
  | case1 => rintro ⟨⟩ hwhole; contradiction
  | case2 | case3 | case4 => rintro ⟨⟩ _; trivial
  | case5 fuel tail pieces rest hscan =>
      rintro ⟨⟩ _
      exact Piece.isProper_of_scan hscan
  | case6 => rintro ⟨⟩ hwhole; contradiction
  | case7 fuel tail gap rest hspan =>
      rintro ⟨⟩ _
      exact isGap_of_span hspan
  | case8 fuel tail gap inner hspan inside after hscan =>
      rintro ⟨⟩ hwhole
      have hproper := hitems fuel (Nat.lt_succ_self fuel) hscan
      rw [hscan] at hwhole ⊢
      exact hproper hwhole (isGap_of_span hspan) true
  | case9 fuel tail gap rest hspan =>
      rintro ⟨⟩ _
      exact isGap_of_span hspan
  | case10 fuel tail gap inner hspan inside after hscan =>
      rintro ⟨⟩ hwhole
      have hproper := hmembers fuel (Nat.lt_succ_self fuel) hscan
      rw [hscan] at hwhole ⊢
      exact hproper hwhole (isGap_of_span hspan) true
  | case11 s fuel numeral after hscan =>
      rw [hscan]
      rintro ⟨⟩ _
      exact Numeral.isProper_of_scan hscan
  | case12 s fuel hscan =>
      rw [hscan]
      rintro ⟨⟩ hwhole
      contradiction

include hnodes hitems in
theorem Items.givesProper_step : Items.GivesProper n := by
  intro before s node rest
  fun_cases Items.scan n before s with
  | case1 => rintro ⟨⟩ hwhole; contradiction
  | case2 fuel before s value s₁ hvalue gap tail hspan =>
      rintro ⟨⟩ hwhole hblanks first
      simp only [Items.isWhole, Bool.and_true] at hwhole
      have hvalue' := hnodes fuel (Nat.lt_succ_self fuel) hvalue hwhole
      exact ⟨hblanks, hvalue', isGap_of_span hspan, rfl⟩
  | case3 fuel before s value s₁ hvalue gap s₂ next s₃ hnext others s₄ hothers hspan =>
      rintro ⟨⟩ hwhole hblanks first
      simp only [Items.isWhole, Bool.and_eq_true] at hwhole
      have hvalue' := hnodes fuel (Nat.lt_succ_self fuel) hvalue hwhole.1
      have hothers' :=
        hitems fuel (Nat.lt_succ_self fuel) hothers hwhole.2 (isGap_of_span hnext) false
      exact ⟨hblanks, hvalue', isGap_of_span hspan, hothers'⟩
  | case4 =>
      rintro ⟨⟩ hwhole
      simp [Items.isWhole] at hwhole

include hnodes hmembers in
theorem Members.givesProper_step : Members.GivesProper n := by
  intro before s node rest
  fun_cases Members.scan n before s with
  | case1 => rintro ⟨⟩ hwhole; contradiction
  | case2 fuel before s₁ key s₂ hkey left s₃ right s₄ hright value s₅ hvalue after s₆ hleft
      hafter =>
      rintro ⟨⟩ hwhole hblanks first
      simp only [Members.isWhole, Bool.and_true] at hwhole
      have hvalue' := hnodes fuel (Nat.lt_succ_self fuel) hvalue hwhole
      exact ⟨hblanks, Piece.isProper_of_scan hkey, isGap_of_span hleft, isGap_of_span hright,
        hvalue', isGap_of_span hafter, rfl⟩
  | case3 fuel before s₁ key s₂ hkey left s₃ right s₄ hright value s₅ hvalue after s₆ next s₇
      hnext others s₈ hothers hleft hafter =>
      rintro ⟨⟩ hwhole hblanks first
      simp only [Members.isWhole, Bool.and_eq_true] at hwhole
      have hvalue' := hnodes fuel (Nat.lt_succ_self fuel) hvalue hwhole.1
      have hothers' :=
        hmembers fuel (Nat.lt_succ_self fuel) hothers hwhole.2 (isGap_of_span hnext) false
      exact ⟨hblanks, Piece.isProper_of_scan hkey, isGap_of_span hleft, isGap_of_span hright,
        hvalue', isGap_of_span hafter, hothers'⟩
  | case4 =>
      rintro ⟨⟩ hwhole
      simp [Members.isWhole] at hwhole
  | case5 | case6 | case7 => rintro ⟨⟩ hwhole; contradiction

end Step

theorem givesProper (n : Nat) :
    Node.GivesProper n ∧ Items.GivesProper n ∧ Members.GivesProper n := by
  induction n using Nat.strongRecOn with
  | ind n ih =>
      have hnodes : ∀ m < n, Node.GivesProper m := fun m hless => (ih m hless).1
      have hitems : ∀ m < n, Items.GivesProper m := fun m hless => (ih m hless).2.1
      have hmembers : ∀ m < n, Members.GivesProper m := fun m hless => (ih m hless).2.2
      exact ⟨Node.givesProper_step hitems hmembers, Items.givesProper_step hnodes hitems,
        Members.givesProper_step hnodes hmembers⟩

/-! ### Documents -/

/-- The text is a JSON value between blanks. -/
structure Written (text : String) (before : List Char) (value : Node) (after : List Char) :
    Prop where
  leading : IsGap before
  proper : value.IsProper
  trailing : IsGap after
  spelled : text.toList = before ++ value.text ++ after

theorem written_ofList {before after : List Char} {value : Node} (hleading : IsGap before)
    (hproper : value.IsProper) (htrailing : IsGap after) :
    Written (String.ofList (before ++ value.text ++ after)) before value after :=
  ⟨hleading, hproper, htrailing, String.toList_ofList⟩

theorem IsGap.span_self {gap : List Char} (hblanks : IsGap gap) : gap.span isBlank = (gap, []) := by
  have hrun : (gap ++ []).span isBlank = (gap, []) := span_append_of_stops hblanks nofun
  rwa [List.append_nil] at hrun

/-- A JSON text is read as what it is, and no other is read to its end. -/
theorem Document.ofText_eq_iff {text : String} {before after : List Char} {value : Node} :
    Document.ofText text = ⟨before, value, after, []⟩ ∧ value.isWhole = true ↔
      Written text before value after := by
  constructor
  · rintro ⟨hread, hwhole⟩
    have hkept : (Document.ofText text).value.isWhole = true → _ := Document.ofText_text
    rw [hread] at hkept
    cases hbefore : text.toList.span isBlank with | mk before' s₁
    cases hvalue : Node.scan (text.toList.length + 1) s₁ with | mk value' s₂
    cases hafter : s₂.span isBlank with | mk after' tail
    simp only [Document.ofText, hbefore, hvalue, hafter, Document.mk.injEq] at hread
    obtain ⟨rfl, rfl, rfl, rfl⟩ := hread
    refine ⟨isGap_of_span hbefore, (givesProper _).1 hvalue hwhole, isGap_of_span hafter, ?_⟩
    rw [← hkept hwhole, List.append_nil]
  · rintro ⟨hleading, hproper, htrailing, hspelled⟩
    refine ⟨?_, hproper.isWhole⟩
    obtain ⟨c, tail, hhead, hsolid, -⟩ := hproper.text_head
    have hrun : text.toList.span isBlank = (before, value.text ++ after) := by
      rw [hspelled, List.append_assoc, hhead]
      exact hleading.span_append hsolid
    have hstops : Stops Numeral.continues after := fun c hnext =>
      continues_of_isBlank (htrailing c (List.mem_of_mem_head? hnext))
    have hread := (readsBack (text.toList.length + 1)).1 after hproper
      (by rw [hspelled]; simp; omega) hstops
    simp only [Document.ofText, hrun, hread, htrailing.span_self]

/-- A tree is known from its text. -/
theorem Node.IsProper.text_injective {node other : Node} (hproper : node.IsProper)
    (hproper' : other.IsProper) (hsame : node.text = other.text) : node = other := by
  have hread := (Document.ofText_eq_iff.mpr (written_ofList isGap_nil hproper isGap_nil)).1
  rw [hsame, (Document.ofText_eq_iff.mpr (written_ofList isGap_nil hproper' isGap_nil)).1] at hread
  exact (congrArg Document.value hread).symm

end ChainRpc.Json
