import ChainRpc.Json.Numeral
import ChainRpc.Json.StringPiece

/-!
# JSON texts as trees

A tree holds everything that stands in a text, down to the blanks and the spelling of numbers
and strings, so a value can be given back character by character. A text that stops being
JSON gives a tree that is cut off at that place. Reading a tree from the left
therefore meets the contents of the text and its first syntax error in the right order.

There is no limit on nesting here; strings may hold unpaired surrogates and numbers may be
of any size. Such limits belong to the values that are built from a tree.
-/

namespace ChainRpc.Json

mutual

/-- A value as it stands in a text. -/
inductive Node where
  | null
  | bool (b : Bool)
  | number (n : Numeral)
  | string (pieces : List Piece)
  | array (items : Items)
  | object (members : Members)
  /-- The text stops being JSON here. -/
  | cut

/-- What stands between the brackets of an array. -/
inductive Items where
  /-- The closing bracket. Blanks stand before it only in an array without items. -/
  | close (gap : List Char)
  /-- An item between blanks, and those after it. -/
  | item (before : List Char) (value : Node) (after : List Char) (rest : Items)
  | cut

/-- What stands between the braces of an object. -/
inductive Members where
  /-- The closing brace. Blanks stand before it only in an object without members. -/
  | close (gap : List Char)
  /-- A member: the key, the blanks around the colon, the value between blanks, the rest. -/
  | member (before : List Char) (key : List Piece) (left right : List Char) (value : Node)
      (after : List Char) (rest : Members)
  | cut

end

/-- The blanks that may stand between tokens. -/
def isBlank (c : Char) : Bool := c = ' ' || c = '\n' || c = '\t' || c = '\r'

/-- A string literal. -/
def quote (pieces : List Piece) : List Char := '"' :: pieces.flatMap Piece.text ++ ['"']

mutual

/-- The characters of a value. -/
def Node.text : Node → List Char
  | .null => ['n', 'u', 'l', 'l']
  | .bool true => ['t', 'r', 'u', 'e']
  | .bool false => ['f', 'a', 'l', 's', 'e']
  | .number n => n.text
  | .string pieces => quote pieces
  | .array items => '[' :: items.text true
  | .object members => '\x7b' :: members.text true
  | .cut => []

/-- The characters from the first item or from the comma before a later one. -/
def Items.text : Items → (first : Bool) → List Char
  | .close gap, _ => gap ++ [']']
  | .item before value after rest, first =>
      (if first then [] else [',']) ++ before ++ value.text ++ after ++ rest.text false
  | .cut, _ => []

/-- The characters from the first member or from the comma before a later one. -/
def Members.text : Members → (first : Bool) → List Char
  | .close gap, _ => gap ++ ['\x7d']
  | .member before key left right value after rest, first =>
      (if first then [] else [',']) ++ before ++ quote key ++ left ++ ':' :: right
        ++ value.text ++ after ++ rest.text false
  | .cut, _ => []

end

mutual

/-- Whether the text of the value is JSON to its end. -/
def Node.isWhole : Node → Bool
  | .array items => items.isWhole
  | .object members => members.isWhole
  | .cut => false
  | _ => true

/-- Whether the text is JSON up to the closing bracket. -/
def Items.isWhole : Items → Bool
  | .close _ => true
  | .item _ value _ rest => value.isWhole && rest.isWhole
  | .cut => false

/-- Whether the text is JSON up to the closing brace. -/
def Members.isWhole : Members → Bool
  | .close _ => true
  | .member _ _ _ _ value _ rest => value.isWhole && rest.isWhole
  | .cut => false

end

mutual

/-- Reads the value at the start of a text. -/
def Node.scan : (fuel : Nat) → List Char → Node × List Char
  | 0, _ => (.cut, [])
  | fuel + 1, s =>
      match s with
      | 'n' :: 'u' :: 'l' :: 'l' :: rest => (.null, rest)
      | 't' :: 'r' :: 'u' :: 'e' :: rest => (.bool true, rest)
      | 'f' :: 'a' :: 'l' :: 's' :: 'e' :: rest => (.bool false, rest)
      | '"' :: rest =>
          match Piece.scan rest with
          | some (pieces, rest) => (.string pieces, rest)
          | none => (.cut, [])
      | '[' :: rest =>
          let (gap, rest) := rest.span isBlank
          match rest with
          | ']' :: rest => (.array (.close gap), rest)
          | _ =>
              let (items, rest) := Items.scan fuel gap rest
              (.array items, rest)
      | '\x7b' :: rest =>
          let (gap, rest) := rest.span isBlank
          match rest with
          | '\x7d' :: rest => (.object (.close gap), rest)
          | _ =>
              let (members, rest) := Members.scan fuel gap rest
              (.object members, rest)
      | _ =>
          match Numeral.scan s with
          | some (n, rest) => (.number n, rest)
          | none => (.cut, [])

/-- Reads an item, the blanks before which have been read, and all after it. -/
def Items.scan : (fuel : Nat) → (before : List Char) → List Char → Items × List Char
  | 0, _, _ => (.cut, [])
  | fuel + 1, before, s =>
      let (value, s) := Node.scan fuel s
      let (after, s) := s.span isBlank
      match s with
      | ']' :: rest => (.item before value after (.close []), rest)
      | ',' :: rest =>
          let (gap, rest) := rest.span isBlank
          let (items, rest) := Items.scan fuel gap rest
          (.item before value after items, rest)
      | _ => (.item before value after .cut, [])

/-- Reads a member, the blanks before which have been read, and all after it. -/
def Members.scan : (fuel : Nat) → (before : List Char) → List Char → Members × List Char
  | 0, _, _ => (.cut, [])
  | fuel + 1, before, s =>
      match s with
      | '"' :: rest =>
          match Piece.scan rest with
          | some (key, rest) =>
              let (left, rest) := rest.span isBlank
              match rest with
              | ':' :: rest =>
                  let (right, rest) := rest.span isBlank
                  let (value, rest) := Node.scan fuel rest
                  let (after, rest) := rest.span isBlank
                  match rest with
                  | '\x7d' :: rest => (.member before key left right value after (.close []), rest)
                  | ',' :: rest =>
                      let (gap, rest) := rest.span isBlank
                      let (members, rest) := Members.scan fuel gap rest
                      (.member before key left right value after members, rest)
                  | _ => (.member before key left right value after .cut, [])
              | _ => (.cut, [])
          | none => (.cut, [])
      | _ => (.cut, [])

end

/-- A whole text: a value between blanks, and what stands behind those. -/
structure Document where
  before : List Char
  value : Node
  after : List Char
  /-- Nothing else may follow in a JSON text. -/
  tail : List Char

namespace Document

/-- Reads a text. -/
def ofText (text : String) : Document :=
  let s := text.toList
  let (before, rest) := s.span isBlank
  let (value, rest) := Node.scan (s.length + 1) rest
  let (after, tail) := rest.span isBlank
  ⟨before, value, after, tail⟩

end Document

end ChainRpc.Json
