import ChainRpc.Text.Hex
import ChainRpc.Text.Parts

/-!
# Tables written as rows

A large table of code points is written as rows of text. The entries of a row stand between
blanks. An entry `A>B.C,D` says that `B` and `C` belong to the code point `A`, and `D` to
the code point after it. All numbers are hexadecimal.
-/

namespace ChainRpc.Text.Rows

/-- The number that hexadecimal digits spell. -/
def number (digits : List Char) : Nat :=
  digits.foldl (fun n c => 16 * n + (Hex.digitValue? (UInt8.ofNat c.toNat)).getD 0) 0

/-- Numbers each with its place, counted from `first`. -/
def numbered {α : Type} : (first : Nat) → List α → List (Nat × α)
  | _, [] => []
  | first, value :: rest => (first, value) :: numbered (first + 1) rest

/-- The code points of an entry, each with what belongs to it. -/
def entry (word : List Char) : List (Nat × List Nat) :=
  match splitAt '>' word with
  | [first, values] =>
      numbered (number first) ((splitAt ',' values).map fun value =>
        (splitAt '.' value).map number)
  | _ => []

/-- The code points of a table, each with what belongs to it. -/
def read (rows : List String) : List (Nat × List Nat) :=
  rows.flatMap fun row => (splitAt ' ' row.toList).flatMap entry

/-- What belongs to a code point. -/
def find? (table : List (Nat × List Nat)) (n : Nat) : Option (List Nat) :=
  (table.find? fun (code, _) => code = n).map Prod.snd

end ChainRpc.Text.Rows
