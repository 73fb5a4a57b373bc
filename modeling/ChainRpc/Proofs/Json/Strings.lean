import ChainRpc.Proofs.Json.Careful
import ChainRpc.Proofs.Json.Printed

/-!
# JSON texts that are strings

A text denotes another one when it is a string of JSON, between blanks, whose literal stands for the
other, with whatever escapes. Reading a string succeeds for these texts and for no others, and what
is read further is read from the text that is denoted.
-/

namespace ChainRpc.Json

/-- The text is a JSON string between blanks, and its literal stands for `content`. -/
def Denotes (text content : String) : Prop :=
  ∃ before pieces after, Written text before (.string pieces) after ∧
    stringValue pieces = .ok content

/-- A text denotes one text at most. -/
theorem Denotes.unique {text content other : String} (h : Denotes text content)
    (h' : Denotes text other) : content = other := by
  obtain ⟨before, pieces, after, hwritten, hvalue⟩ := h
  obtain ⟨before', pieces', after', hwritten', hvalue'⟩ := h'
  have hsame := (Document.ofText_eq_iff.mpr hwritten).1.symm.trans
    (Document.ofText_eq_iff.mpr hwritten').1
  cases hsame
  exact Except.ok.inj (hvalue.symm.trans hvalue')

/-- Every text is denoted by what is printed for it. -/
theorem denotes_text (content : String) : Denotes (Value.string content).text content := by
  have hspells := spells_printed content
  have hwritten : Written (String.ofList ([] ++ (Node.string (printed content)).text ++ [])) []
      (.string (printed content)) [] :=
    written_ofList isGap_nil hspells.proper isGap_nil
  rw [List.nil_append, List.append_nil] at hwritten
  exact ⟨[], printed content, [], hwritten, hspells.value⟩

namespace Decoder

variable {α : Type} {text content : String}

theorem ofText_stringWith (read : String → Except Fault α) (h : Denotes text content) :
    (stringWith read).ofText text = read content := by
  obtain ⟨before, pieces, after, hwritten, hvalue⟩ := h
  rw [ofText_of_written _ hwritten, stringWith, string, hvalue]
  rfl

/-- A string is read from the texts that denote it. -/
theorem ofText_string_eq_ok_iff : string.ofText text = .ok content ↔ Denotes text content := by
  constructor
  · intro hread
    obtain ⟨before, node, after, hwritten, hvalue⟩ := careful_string.written_of_ofText hread
    cases node with
    | string pieces => exact ⟨before, pieces, after, hwritten, hvalue⟩
    | _ => cases hvalue
  · rintro ⟨before, pieces, after, hwritten, hvalue⟩
    rw [ofText_of_written _ hwritten, string, hvalue]

/-- Every other text is refused as not being JSON of the wanted shape. -/
theorem ofText_string_eq_error_iff {fault : Fault} :
    string.ofText text = .error fault ↔ fault = .shape ∧ ∀ content, ¬ Denotes text content := by
  constructor
  · intro hrefused
    refine ⟨careful_string.isPlain_ofText text fault hrefused, fun content hdenotes => ?_⟩
    rw [ofText_string_eq_ok_iff.mpr hdenotes] at hrefused
    cases hrefused
  · rintro ⟨rfl, hnone⟩
    cases hread : string.ofText text with
    | ok content => exact absurd (ofText_string_eq_ok_iff.mp hread) (hnone content)
    | error fault => rw [careful_string.isPlain_ofText text fault hread]

end Decoder

end ChainRpc.Json
