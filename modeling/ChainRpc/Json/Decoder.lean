import ChainRpc.Json.Value

/-!
# Reading typed values from JSON

A decoder reads a value of one type from a tree. It goes through the tree from left to
right, so the fault it reports is the first in the text. A record is read from an object,
whose unknown members are skipped and whose known members may occur once, or from an array
of its fields in their declared order.
-/

namespace ChainRpc.Json

/-- Reads a value from a tree in which arrays and objects may be nested `room` deep. -/
abbrev Decoder (α : Type) := (room : Nat) → Node → Except Fault α

namespace Decoder

variable {α β σ : Type}

/-- Any JSON value. -/
def value : Decoder Value := fun room node => node.value room

/-- A string. -/
def string : Decoder String := fun _ node =>
  match node with
  | .string pieces => stringValue pieces
  | _ => .error .shape

/-- A string whose text has to be read further. -/
def stringWith (read : String → Except Fault α) : Decoder α := fun room node => do
  read (← string room node)

/-- A boolean. -/
def bool : Decoder Bool := fun _ node =>
  match node with
  | .bool b => .ok b
  | _ => .error .shape

/-- A whole number below a bound, written without fraction and exponent. -/
def natural (bound : Nat) : Decoder Nat := fun _ node =>
  match node with
  | .number n =>
      match n.value? with
      | some (.natural value) => if value < bound then .ok value else .error .shape
      | _ => .error .shape
  | _ => .error .shape

/-- A whole number of 32 bits. -/
def nat32 : Decoder Nat := natural (2 ^ 32)

/-- A whole number of 64 bits. -/
def nat64 : Decoder Nat := natural (2 ^ 64)

/-- A whole number of 64 bits with a sign. -/
def int64 : Decoder Int := fun _ node =>
  match node with
  | .number n =>
      match n.value? with
      | some (.natural value) => if value < 2 ^ 63 then .ok (value : Int) else .error .shape
      | some (.negative value) => .ok (-(value : Int))
      | _ => .error .shape
  | _ => .error .shape

/-- A value that may be `null`. -/
def nullable (inner : Decoder α) : Decoder (Option α) := fun room node =>
  match node with
  | .null => .ok none
  | _ => (inner room node).map some

/-- Reads the items of an array in turn. -/
def items (item : Decoder α) (room : Nat) : Items → Except Fault (List α)
  | .close _ => .ok []
  | .item _ value _ rest => do
      let first ← item room value
      let others ← items item room rest
      pure (first :: others)
  | .cut => .error .shape

/-- An array of values of one type. -/
def list (item : Decoder α) : Decoder (List α) := fun room node =>
  match node, room with
  | .array members, room + 1 => items item room members
  | _, _ => .error .shape

/-- The text of a value exactly as it was written. -/
def raw : Decoder String := fun _ node =>
  if node.isWhole then .ok (String.ofList node.text) else .error .shape

/-- A hash in hexadecimal. -/
def hash (size : Nat) : Decoder (Hash size) :=
  stringWith fun text => (Hash.ofHex text).mapError .content

/-- A byte string in hexadecimal. -/
def blob : Decoder Blob :=
  stringWith fun text => (Blob.ofHex text).mapError fun fault => .content (.digits fault)

/-! ### Records -/

/-- A field of a record that is put together in a draft of type `σ`. -/
structure Field (σ : Type) where
  name : String
  /-- Whether the draft has the field already. -/
  isSet : σ → Bool
  /-- Reads the field into the draft. -/
  store : (room : Nat) → Node → σ → Except Fault σ

/-- A field with its place in the draft. -/
def field (name : String) (get : σ → Option α) (set : σ → α → σ) (decoder : Decoder α) :
    Field σ where
  name := name
  isSet draft := (get draft).isSome
  store room node draft := (decoder room node).map (set draft)

/-- Reads the members of an object into a draft. -/
def storeMembers (fields : List (Field σ)) (room : Nat) : Members → σ → Except Fault σ
  | .close _, draft => .ok draft
  | .member _ key _ _ value _ rest, draft => do
      let key ← stringValue key
      match fields.find? (·.name = key) with
      | some field =>
          if field.isSet draft then .error .shape
          else do
            let draft ← field.store room value draft
            storeMembers fields room rest draft
      | none => if value.isWhole then storeMembers fields room rest draft else .error .shape
  | .cut, _ => .error .shape

/-- Reads the items of an array into the fields of a draft, in their order. -/
def storeItems (room : Nat) : Items → List (Field σ) → σ → Except Fault σ
  | .close _, _, draft => .ok draft
  | .item _ value _ rest, field :: fields, draft => do
      let draft ← field.store room value draft
      storeItems room rest fields draft
  | .item .., [], _ => .error .shape
  | .cut, _, _ => .error .shape

/-- A record: its fields, the draft without any, and the step from a draft to the record, which
is nothing when a field is missing. -/
def record (fields : List (Field σ)) (empty : σ) (finish : σ → Option α) : Decoder α :=
  fun room node => do
    let draft ← match node, room with
      | .object members, room + 1 => storeMembers fields room members empty
      | .array items, room + 1 => storeItems room items fields empty
      | _, _ => .error .shape
    match finish draft with
    | some value => .ok value
    | none => .error .shape

/-- Reads a whole text. -/
def ofText (decoder : Decoder α) (text : String) : Except Fault α := do
  let document := Document.ofText text
  let value ← decoder nestingLimit document.value
  if document.tail.isEmpty then .ok value else .error .shape

end Decoder

end ChainRpc.Json
