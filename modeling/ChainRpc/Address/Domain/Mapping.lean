import ChainRpc.Address.Domain.Mapping.Table
import ChainRpc.Text.Ranges
import ChainRpc.Text.Rows

/-!
# Replacements in domains

Spellings that differ in case or in the form of a letter name the same domain. Each
character of a domain stands for itself, is replaced by others, leaves no trace, or may not stand
in a domain at all.
-/

namespace ChainRpc.Address.Domain.Mapping

open Text (inRanges)

/-- The replacements that follow no rule. -/
def singles : List (Nat × List Nat) :=
  Text.Rows.read (singleRowsLow ++ singleRowsMiddle ++ singleRowsHigh ++ singleRowsSupplementary)

/-- The small letter of a capital, in rows where the two take turns. -/
def alternate? (n : Nat) : Option Nat :=
  match alternating.find? fun (first, last) => first ≤ n && n ≤ last with
  | some (first, _) => if (n - first) % 2 = 0 then some (n + 1) else none
  | none => none

/-- The character in the same place of the row that is parallel to one's own. -/
def parallel? (n : Nat) : Option Nat :=
  (parallel.find? fun (first, last, _) => first ≤ n && n ≤ last).map fun (first, _, target) =>
    target + (n - first)

/-- The code point stands in no domain. -/
def isForbidden (n : Nat) : Bool :=
  if n < 0x10000 then inRanges forbiddenLow n else inRanges forbiddenHigh n

/-- What stands for a code point. -/
def replacement (n : Nat) : List Nat :=
  if inRanges ignored n then []
  else
    match alternate? n, parallel? n with
    | some small, _ => [small]
    | none, some other => [other]
    | none, none => (Text.Rows.find? singles n).getD [n]

/-- What stands for a character, unless it may not stand in a domain. -/
def replace? (c : Char) : Option (List Char) :=
  if isForbidden c.toNat then none else some ((replacement c.toNat).map Char.ofNat)

/-- The character stands for itself. -/
def isPlain (c : Char) : Bool := replace? c = some [c]

/-- A text with its characters replaced, unless one may not stand in a domain. -/
def replaceAll? (chars : List Char) : Option (List Char) := (chars.mapM replace?).map List.flatten

end ChainRpc.Address.Domain.Mapping
