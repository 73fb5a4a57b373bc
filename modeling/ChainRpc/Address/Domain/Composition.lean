import ChainRpc.Address.Domain.Composition.Table
import ChainRpc.Text.Ranges
import ChainRpc.Text.Rows

/-!
# Composition

A letter with marks can be spelled as one character or as several. The composed spelling is the
one that counts: characters are taken apart, the marks behind a letter are put into the order of
their classes, and then every letter takes up the marks it can be one character with. Marks
of one class keep their order. Korean syllables are composed by arithmetic.
-/

namespace ChainRpc.Address.Domain.Composition

open Text (inRanges)

/-- A character that is made of two others. -/
structure Composite where
  whole : Nat
  first : Nat
  second : Nat

/-- All composites but Korean syllables, each before those that its parts are. -/
def composites : List Composite :=
  (Text.Rows.read compositeRows).filterMap fun
    | (whole, [first, second]) => some ⟨whole, first, second⟩
    | _ => none

/-- The class of a mark; all other characters have class zero. -/
def classOf (n : Nat) : Nat :=
  match classRanges.find? fun (_, ranges) => inRanges ranges n with
  | some (place, _) => place
  | none => 0

/-! ### Korean syllables -/

/-- The first syllable. -/
def syllableStart : Nat := 0xAC00

/-- The first of the leading consonants. -/
def leadStart : Nat := 0x1100

/-- The first of the vowels. -/
def vowelStart : Nat := 0x1161

/-- The place before the first of the trailing consonants. -/
def tailStart : Nat := 0x11A7

/-- The code point is that of a syllable. -/
def isSyllable (n : Nat) : Bool := syllableStart ≤ n && n < syllableStart + 19 * 21 * 28

/-- The two or three letters of a syllable. -/
def syllableParts (n : Nat) : List Nat :=
  let place := n - syllableStart
  let body := [leadStart + place / (21 * 28), vowelStart + place / 28 % 21]
  if place % 28 = 0 then body else body ++ [tailStart + place % 28]

/-- The syllable of a leading consonant and a vowel, or of a syllable without a trailing
consonant and one. -/
def syllable? (first second : Nat) : Option Nat :=
  if leadStart ≤ first && first < leadStart + 19 && vowelStart ≤ second && second < vowelStart + 21
  then some (syllableStart + ((first - leadStart) * 21 + (second - vowelStart)) * 28)
  else if isSyllable first && (first - syllableStart) % 28 = 0 && tailStart < second
      && second < tailStart + 28
  then some (first + (second - tailStart))
  else none

/-! ### Taking apart -/

/-- The parts of a character by a list of composites. The entry of its first part, if there is
one, comes later in the list. -/
def partsBy : List Composite → Nat → List Nat
  | [], n => [n]
  | composite :: rest, n =>
      if composite.whole = n then partsBy rest composite.first ++ [composite.second]
      else partsBy rest n

/-- All that a character is made of. -/
def parts (n : Nat) : List Nat := if isSyllable n then syllableParts n else partsBy composites n

/-! ### Ordering -/

/-- A character with its class. -/
structure Placed where
  code : Nat
  place : Nat

/-- Puts a character before those it has to stand before: a mark passes the marks of lower
classes. -/
def insertPlaced (mark : Placed) : List Placed → List Placed
  | [] => [mark]
  | next :: rest =>
      if next.place ≠ 0 && next.place < mark.place then next :: insertPlaced mark rest
      else mark :: next :: rest

/-- Puts the marks behind each letter into the order of their classes. -/
def order : List Placed → List Placed
  | [] => []
  | next :: rest => if next.place = 0 then next :: order rest else insertPlaced next (order rest)

/-! ### Putting together -/

/-- The character that two others make. -/
def compose? (first second : Nat) : Option Nat :=
  match syllable? first second with
  | some n => some n
  | none =>
      (composites.find? fun composite => composite.first = first && composite.second = second).map
        Composite.whole

/-- What has been put together: what is done, the letter under way and the marks that
stay beside it. -/
structure Composing where
  done : List Nat := []
  letter : Option Nat := none
  /-- The marks of the letter, the last one first. -/
  marks : List Placed := []

namespace Composing

/-- All characters in order. -/
def all (state : Composing) : List Nat :=
  state.done ++ state.letter.toList ++ (state.marks.map Placed.code).reverse

/-- Adds a character as it is. A character of class zero is the next letter. -/
def add (state : Composing) (next : Placed) : Composing :=
  if next.place = 0 then { done := state.all, letter := some next.code }
  else { state with marks := next :: state.marks }

/-- Nothing stands between the letter and the next character that keeps them apart: no mark, or
only marks of lower classes. -/
def isFree (state : Composing) (next : Placed) : Bool :=
  match state.marks with
  | [] => true
  | last :: _ => last.place < next.place

/-- Goes on to the next character, which the letter takes up if it can. -/
def step (state : Composing) (next : Placed) : Composing :=
  match state.letter.bind (compose? · next.code) with
  | some whole => if state.isFree next then { state with letter := some whole } else state.add next
  | none => state.add next

end Composing

/-- The composed spelling of a text. -/
def compose (chars : List Char) : List Char :=
  let placed := (chars.flatMap fun c => parts c.toNat).map fun n => ⟨n, classOf n⟩
  ((order placed).foldl Composing.step {}).all.map Char.ofNat

end ChainRpc.Address.Domain.Composition
