import ChainRpc.Scale.Format

/-!
# Writing in place

An encoder tells what a write appends. A writer in place is handed the sink instead, pushes the
bytes of a value piece by piece, and leaves the sink as it is at the first piece that it refuses.
Both come to the same on every sink: what a writer in place does to a sink is to append what the
encoder tells.
-/

namespace ChainRpc.Scale

/-- A write that is handed the sink. It gives the sink that it leaves, and the error that stopped
it, if one did. -/
def Write : Type := Sink → Sink × Option Error

namespace Write

/-- Pushes bytes. -/
def push (bytes : List UInt8) : Write := fun sink => (⟨sink.bytes ++ bytes⟩, none)

/-- Refuses, and leaves the sink as it is. -/
def refuse (error : Error) : Write := fun sink => (sink, some error)

/-- One write after another, into the sink that the first leaves; the second happens only if the
first succeeded. -/
def followedBy (first second : Write) : Write := fun sink =>
  match first sink with
  | (left, none) => second left
  | (left, some error) => (left, some error)

/-- Writes one after another, up to the first that fails. -/
def inTurn : List Write → Write
  | [] => push []
  | first :: rest => first.followedBy (inTurn rest)

/-- Whatever the sink holds, the write appends the bytes of the output and reports its fault. -/
def Appends (write : Write) (output : Output) : Prop := ∀ sink, write sink = sink.append output

theorem appends_push (bytes : List UInt8) : (push bytes).Appends (.ok bytes) := fun _ => rfl

theorem appends_refuse (error : Error) : (refuse error).Appends (.fail error) := fun sink => by
  simp [refuse, Sink.append, Output.fail]

variable {first second : Write} {output next : Output}

theorem Appends.followedBy (hfirst : first.Appends output) (hsecond : second.Appends next) :
    (first.followedBy second).Appends (output.andThen next) := by
  intro sink
  obtain ⟨bytes, - | error⟩ := output
  · simp [Write.followedBy, hfirst sink, hsecond _, Sink.append, Output.andThen]
  · simp [Write.followedBy, hfirst sink, Sink.append, Output.andThen]

/-- Items that are written one after the other are appended one after the other. -/
theorem appends_inTurn {α : Type} {write : α → Write} {encode : α → Output}
    (h : ∀ item, (write item).Appends (encode item)) (items : List α) :
    (inTurn (items.map write)).Appends (.sequence (items.map encode)) := by
  induction items with
  | nil => exact appends_push []
  | cons item items ih => exact (h item).followedBy ih

end Write

/-- A writer in place, of values alone and as options. -/
structure InPlace (α : Type) where
  write : α → Write
  writeOptional : Option α → Write

namespace InPlace

variable {α : Type}

/-- The writer in place whose optional form has a presence byte. -/
def ofWrite (write : α → Write) : InPlace α :=
  ⟨write, fun
    | some value => (Write.push [Encoder.boolByte true]).followedBy (write value)
    | none => .push [Encoder.boolByte false]⟩

/-- Pushes the layout of a number if it belongs to the type. -/
def narrowed (type : IntType) (layout : Nat → List UInt8) : InPlace Int :=
  ofWrite fun value =>
    if 0 ≤ value && type.holds value then .push (layout value.toNat)
    else .refuse (.encoding (.outOfRange value type))

/-- Pushes the number of the bytes, and then the bytes. -/
def counted (bytes : List UInt8) : Write :=
  (Write.push (Compact.encode bytes.length)).followedBy (.push bytes)

/-- The writer in place appends what the encoder tells. -/
structure Appends (writer : InPlace α) (encoder : Encoder α) : Prop where
  alone : ∀ value, (writer.write value).Appends (encoder.write value)
  optional : ∀ value, (writer.writeOptional value).Appends (encoder.writeOptional value)

theorem Appends.ofWrite {write : α → Write} {encode : α → Output}
    (h : ∀ value, (write value).Appends (encode value)) :
    (InPlace.ofWrite write).Appends (.ofWrite encode) where
  alone := h
  optional
    | some value => (Write.appends_push _).followedBy (h value)
    | none => Write.appends_push _

theorem appends_narrowed (type : IntType) (layout : Nat → List UInt8) :
    (narrowed type layout).Appends (.ofWrite (Encoder.narrowed type layout)) := by
  refine .ofWrite fun value => ?_
  rw [Encoder.narrowed]
  split
  · exact Write.appends_push _
  · exact Write.appends_refuse _

theorem appends_counted (bytes : List UInt8) :
    (counted bytes).Appends (.ok (Compact.encode bytes.length ++ bytes)) :=
  (Write.appends_push (Compact.encode bytes.length)).followedBy (Write.appends_push bytes)

end InPlace

mutual

/-- The writer in place of a format. -/
def Format.inPlace {side : Side} : (format : Format side) → InPlace format.Value
  | .word width => .narrowed (.unsigned width) (LittleEndian.ofNat width.bytes)
  | .compact type => .narrowed type Compact.encode
  | .bool => ⟨fun value => .push [Encoder.boolByte value],
      fun value => .push [Encoder.triStateByte value]⟩
  | .triState => .ofWrite fun value => .push [Encoder.triStateByte value]
  | .bytes => .ofWrite InPlace.counted
  | .text => .ofWrite fun text => InPlace.counted (Text.Utf8.encode text)
  | .hash size => .ofWrite fun (hash : Hash size) => .push hash.bytes
  | .fixed size => .ofWrite fun (bytes : List UInt8) =>
      if bytes.length = size then .push bytes
      else .refuse (.encoding (.byteCount size bytes.length))
  | .era _ => .ofWrite fun (era : UInt16) =>
      if era = 0 then .push [0] else .push (LittleEndian.ofNat 2 era.toNat)
  | .list item => .ofWrite fun (items : List item.Value) =>
      (Write.push (Compact.encode items.length)).followedBy (.inTurn (items.map item.inPlace.write))
  | .option inner => .ofWrite inner.inPlace.writeOptional
  | .plain inner => .ofWrite inner.inPlace.write
  | .union variants => .ofWrite fun choice =>
      match variants.inPlace? choice with
      | some payload => (Write.push [UInt8.ofNat (variants.tag choice)]).followedBy payload
      | none => .refuse (.unknownVariant (variants.tag choice) variants.count)

/-- How the choice is written after its tag, or nothing when the tag names no variant. -/
def Variants.inPlace? {side : Side} : (variants : Variants side) → variants.Choice → Option Write
  | .nil, _ => none
  | .cons first _, .inl value => some (first.inPlace.write value)
  | .cons _ rest, .inr choice => rest.inPlace? choice

end

mutual

/-- The writer in place of a format appends what its encoder tells. -/
theorem Format.appends_inPlace {side : Side} :
    (format : Format side) → format.inPlace.Appends format.encoder
  | .word width => InPlace.appends_narrowed (.unsigned width) (LittleEndian.ofNat width.bytes)
  | .compact type => InPlace.appends_narrowed type Compact.encode
  | .bool => ⟨fun _ => Write.appends_push _, fun _ => Write.appends_push _⟩
  | .triState => .ofWrite fun _ => Write.appends_push _
  | .bytes => .ofWrite InPlace.appends_counted
  | .text => .ofWrite fun text => InPlace.appends_counted (Text.Utf8.encode text)
  | .hash _ => .ofWrite fun _ => Write.appends_push _
  | .fixed _ => .ofWrite fun _ => by
      split
      · exact Write.appends_push _
      · exact Write.appends_refuse _
  | .era _ => .ofWrite fun _ => by
      split
      · exact Write.appends_push _
      · exact Write.appends_push _
  | .list item => .ofWrite fun items =>
      (Write.appends_push _).followedBy (Write.appends_inTurn item.appends_inPlace.alone items)
  | .option inner => .ofWrite inner.appends_inPlace.optional
  | .plain inner => .ofWrite inner.appends_inPlace.alone
  | .union variants => .ofWrite fun choice => by
      rcases variants.appends_inPlace? choice with
        ⟨payload, output, hplace, hpayload, happends⟩ | ⟨hplace, hpayload⟩
      · simp only [hplace, hpayload]
        exact (Write.appends_push _).followedBy happends
      · simp only [hplace, hpayload]
        exact Write.appends_refuse _

/-- A choice is written in place by the variant that its tag names. -/
theorem Variants.appends_inPlace? {side : Side} :
    (variants : Variants side) → (choice : variants.Choice) →
      (∃ payload output, variants.inPlace? choice = some payload ∧
        variants.payload? choice = some output ∧ payload.Appends output) ∨
      variants.inPlace? choice = none ∧ variants.payload? choice = none
  | .nil, _ => .inr ⟨rfl, rfl⟩
  | .cons first _, .inl value => .inl ⟨_, _, rfl, rfl, first.appends_inPlace.alone value⟩
  | .cons _ rest, .inr choice => rest.appends_inPlace? choice

end

end ChainRpc.Scale
