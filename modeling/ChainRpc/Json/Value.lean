import ChainRpc.Json.Fault
import ChainRpc.Json.Node
import ChainRpc.Json.Shortest
import ChainRpc.Text.Quoted
import ChainRpc.Text.Record

/-!
# JSON values

A value keeps what a text says and forgets how it is spelled. Objects built from a text
have their keys in order, each once, the last member of a key giving its value. Building a
value takes more than syntax: nesting is limited, strings must be text, and numbers must
fit a double. One key, as the first of an object, announces a value by its own text.
A value is printed without blanks.
-/

namespace ChainRpc.Json

/-- A JSON value. -/
inductive Value where
  | null
  | bool (b : Bool)
  | number (n : Number)
  | string (s : String)
  | array (items : List Value)
  | object (members : List (String × Value))
  deriving Inhabited

/-- A whole number as a value. -/
def Value.nat (n : Nat) : Value := .number (.natural n)

/-- A whole number of either sign as a value. -/
def Value.int (n : Int) : Value :=
  if n < 0 then .number (.negative n.natAbs) else .nat n.toNat

/-! ### Printing -/

/-- The letter of an escape that a printed string uses for the character. -/
def shortEscape? (c : Char) : Option Char :=
  if c = '"' then some '"'
  else if c = '\\' then some '\\'
  else if c = '\x08' then some 'b'
  else if c = '\x0c' then some 'f'
  else if c = '\n' then some 'n'
  else if c = '\r' then some 'r'
  else if c = '\t' then some 't'
  else none

/-- A digit of a unit, in lowercase. -/
def unitDigit (n : Nat) : Char := if n < 10 then Char.ofNat (48 + n) else Char.ofNat (87 + n)

/-- The piece that a printed string has for a character. -/
def Piece.ofChar (c : Char) : Piece :=
  match shortEscape? c with
  | some letter => .escape letter
  | none =>
      if c.toNat < 0x20 then .unit '0' '0' (unitDigit (c.toNat / 16)) (unitDigit (c.toNat % 16))
      else .plain c

/-- The literal of a text. -/
def quoteText (s : String) : List Char := quote (s.toList.map Piece.ofChar)

/-- The characters of a number. -/
def Number.text : Number → List Char
  | .natural n => Nat.toDigits 10 n
  | .negative n => '-' :: Nat.toDigits 10 n
  | .double x => x.text

mutual

/-- The characters of a value, without blanks. -/
def Value.chars : Value → List Char
  | .null => ['n', 'u', 'l', 'l']
  | .bool true => ['t', 'r', 'u', 'e']
  | .bool false => ['f', 'a', 'l', 's', 'e']
  | .number n => n.text
  | .string s => quoteText s
  | .array items => '[' :: itemChars true items
  | .object members => '\x7b' :: memberChars true members

/-- The characters from the first item or from the comma before a later one. -/
def itemChars : (first : Bool) → List Value → List Char
  | _, [] => [']']
  | first, item :: rest => (if first then [] else [',']) ++ item.chars ++ itemChars false rest

/-- The characters from the first member or from the comma before a later one. -/
def memberChars : (first : Bool) → List (String × Value) → List Char
  | _, [] => ['\x7d']
  | first, (key, value) :: rest =>
      (if first then [] else [',']) ++ quoteText key ++ ':' :: value.chars ++ memberChars false rest

end

/-- The text of a value, without blanks. -/
def Value.text (value : Value) : String := String.ofList value.chars

/-! ### Building from a text -/

/-- Puts a member in its place among sorted keys; a member of the same key gives way. -/
def insertMember (key : String) (value : Value) : List (String × Value) → List (String × Value)
  | [] => [(key, value)]
  | (other, old) :: rest =>
      if key < other then (key, value) :: (other, old) :: rest
      else if key = other then (key, value) :: rest
      else (other, old) :: insertMember key value rest

/-- The text that the pieces of a literal stand for. -/
def stringValue (pieces : List Piece) : Except Fault String :=
  match Piece.value? pieces with
  | some s => .ok (String.ofList s)
  | none => .error .shape

/-- How deep arrays and objects may be nested in a text. -/
def nestingLimit : Nat := 127

/-- The key that announces a value by its own text: an object with this key first has no other
members and stands for the value that the string beside the key spells. -/
def spelledKey : String := "$serde_json::private::RawValue"

mutual

/-- Builds the value of a tree, in which arrays and objects are nested at most `room` deep.
Values that strings spell are built by `spelled`. -/
def Node.valueWith (spelled : String → Except Fault Value) (room : Nat) :
    Node → Except Fault Value
  | .null => .ok .null
  | .bool b => .ok (.bool b)
  | .number n =>
      match n.value? with
      | some number => .ok (.number number)
      | none => .error .shape
  | .string pieces => (stringValue pieces).map .string
  | .array items =>
      match room with
      | 0 => .error .shape
      | room + 1 => (items.valuesWith spelled room).map .array
  | .object members =>
      match room with
      | 0 => .error .shape
      | room + 1 => members.valueWith spelled room
  | .cut => .error .shape

/-- Builds the values of items in turn. -/
def Items.valuesWith (spelled : String → Except Fault Value) (room : Nat) :
    Items → Except Fault (List Value)
  | .close _ => .ok []
  | .item _ value _ rest => do
      let first ← value.valueWith spelled room
      let others ← rest.valuesWith spelled room
      pure (first :: others)
  | .cut => .error .shape

/-- Builds the value of an object from all its members. -/
def Members.valueWith (spelled : String → Except Fault Value) (room : Nat) :
    Members → Except Fault Value
  | .close _ => .ok (.object [])
  | .member _ key _ _ value _ rest => do
      let key ← stringValue key
      if key = spelledKey then
        match value, rest with
        | .string pieces, .close _ => spelled (← stringValue pieces)
        | _, _ => .error .shape
      else
        let value ← value.valueWith spelled room
        (rest.valuesWith spelled room [(key, value)]).map .object
  | .cut => .error .shape

/-- Adds members in turn to those built so far. -/
def Members.valuesWith (spelled : String → Except Fault Value) (room : Nat) :
    Members → List (String × Value) → Except Fault (List (String × Value))
  | .close _, built => .ok built
  | .member _ key _ _ value _ rest, built => do
      let key ← stringValue key
      let value ← value.valueWith spelled room
      rest.valuesWith spelled room (insertMember key value built)
  | .cut, _ => .error .shape

end

/-- The value that a text spells, which may be spelled by a string in the text, and so on
`depth` times. Nesting is counted anew in each text. -/
def spelledValue : (depth : Nat) → String → Except Fault Value
  | 0, _ => .error .shape
  | depth + 1, text => do
      let document := Document.ofText text
      let value ← document.value.valueWith (spelledValue depth) nestingLimit
      if document.tail.isEmpty then .ok value else .error .shape

/-- Builds the value of a tree, in which arrays and objects are nested at most `room` deep. A text
within a text is the shorter of the two, so its length bounds how often texts are nested. -/
def Node.value (room : Nat) (node : Node) : Except Fault Value :=
  node.valueWith (fun text => spelledValue (text.length + 1) text) room

/-! ### Diagnostic text -/

mutual

/-- Diagnostic text of a value. -/
def Value.debug : Value → String
  | .null => "Null"
  | .bool b => Text.wrapped "Bool" (if b then "true" else "false")
  | .number n => Text.wrapped "Number" (String.ofList n.text)
  | .string s => Text.wrapped "String" (Text.Quoted.text s)
  | .array items => "Array " ++ Text.shownList (debugItems items)
  | .object members => "Object \x7b" ++ ", ".intercalate (debugMembers members) ++ "\x7d"

/-- Diagnostic text of each value. -/
def debugItems : List Value → List String
  | [] => []
  | item :: rest => item.debug :: debugItems rest

/-- Diagnostic text of each member. -/
def debugMembers : List (String × Value) → List String
  | [] => []
  | (key, value) :: rest => (Text.Quoted.text key ++ ": " ++ value.debug) :: debugMembers rest

end

end ChainRpc.Json
