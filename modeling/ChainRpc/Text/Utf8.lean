/-!
# Strict UTF-8

Text is written as UTF-8 and read back only where every sequence is well formed:
no overlong form, no surrogate, nothing above the last code point, no sequence cut
short. A refused byte string is described by the length of its longest well-formed
beginning and by the length of the sequence that breaks it.
-/

namespace ChainRpc.Text.Utf8

/-- Where and how a byte string stops being UTF-8. -/
structure Fault where
  /-- The length of the longest well-formed beginning. -/
  index : Nat
  /-- The length of the malformed sequence, or `none` when the input ends inside a
  sequence that could still have been completed. -/
  length : Option Nat
  deriving DecidableEq, Repr

/-- The wording of a fault. -/
def Fault.message (fault : Fault) : String :=
  match fault.length with
  | some length => s!"invalid utf-8 sequence of {length} bytes from index {fault.index}"
  | none => s!"incomplete utf-8 byte sequence from index {fault.index}"

/-- The bytes of a text. -/
def encode (text : String) : List UInt8 :=
  text.toList.flatMap String.utf8EncodeChar

/-- Whether the byte continues a sequence. -/
def isTail (byte : UInt8) : Bool :=
  0x80 ≤ byte && byte ≤ 0xBF

/-- Whether `second` may follow the first byte of a sequence of three: this rules out
overlong forms and surrogates. -/
def pairsInThree (first second : UInt8) : Bool :=
  if first = 0xE0 then 0xA0 ≤ second && second ≤ 0xBF
  else if first = 0xED then 0x80 ≤ second && second ≤ 0x9F
  else isTail second

/-- Whether `second` may follow the first byte of a sequence of four: this rules out
overlong forms and numbers above the last code point. -/
def pairsInFour (first second : UInt8) : Bool :=
  if first = 0xF0 then 0x90 ≤ second && second ≤ 0xBF
  else if first = 0xF4 then 0x80 ≤ second && second ≤ 0x8F
  else isTail second

/-- What stands at the start of a byte string that is not empty. -/
inductive Head where
  /-- A character, over so many bytes, and the bytes after it. -/
  | char (c : Char) (size : Nat) (rest : List UInt8)
  /-- A malformed sequence of so many bytes, or one cut short by the end. -/
  | broken (length : Option Nat)

/-- The payload of a continuation byte. -/
def tailBits (byte : UInt8) : Nat := byte.toNat % 64

/-- Reads the sequence that starts with `first`. -/
def head (first : UInt8) (rest : List UInt8) : Head :=
  if first < 0x80 then .char (Char.ofNat first.toNat) 1 rest
  else if 0xC2 ≤ first && first ≤ 0xDF then
    match rest with
    | [] => .broken none
    | b :: rest =>
        if isTail b then .char (Char.ofNat (first.toNat % 32 * 64 + tailBits b)) 2 rest
        else .broken (some 1)
  else if 0xE0 ≤ first && first ≤ 0xEF then
    match rest with
    | [] => .broken none
    | b :: rest =>
        if !pairsInThree first b then .broken (some 1)
        else match rest with
          | [] => .broken none
          | c :: rest =>
              if isTail c then
                .char (Char.ofNat ((first.toNat % 16 * 64 + tailBits b) * 64 + tailBits c)) 3 rest
              else .broken (some 2)
  else if 0xF0 ≤ first && first ≤ 0xF4 then
    match rest with
    | [] => .broken none
    | b :: rest =>
        if !pairsInFour first b then .broken (some 1)
        else match rest with
          | [] => .broken none
          | c :: rest =>
              if !isTail c then .broken (some 2)
              else match rest with
                | [] => .broken none
                | d :: rest =>
                    if isTail d then
                      .char (Char.ofNat
                        (((first.toNat % 8 * 64 + tailBits b) * 64 + tailBits c) * 64
                          + tailBits d)) 4 rest
                    else .broken (some 3)
  else .broken (some 1)

/-- What follows a character is shorter than what it was read from. -/
theorem length_rest_of_head {first : UInt8} {rest back : List UInt8} {c : Char} {size : Nat}
    (h : head first rest = .char c size back) : back.length ≤ rest.length := by
  unfold head at h
  repeat' split at h
  all_goals simp_all
  all_goals (obtain ⟨-, -, rfl⟩ := h; omega)

/-- The characters of a byte string, `index` bytes of which are already behind. -/
def decodeFrom (index : Nat) (bytes : List UInt8) : Except Fault (List Char) :=
  match bytes with
  | [] => .ok []
  | first :: rest =>
      match h : head first rest with
      | .broken length => .error ⟨index, length⟩
      | .char c size back =>
          have := length_rest_of_head h
          (decodeFrom (index + size) back).map (c :: ·)
termination_by bytes.length
decreasing_by simp only [List.length_cons]; omega

/-- The text of a byte string, or the fault of its first malformed sequence. -/
def decode (bytes : List UInt8) : Except Fault String :=
  (decodeFrom 0 bytes).map String.ofList

end ChainRpc.Text.Utf8
