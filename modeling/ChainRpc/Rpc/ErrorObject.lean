import ChainRpc.Json.Decoder

/-!
# Error objects

A node answers a call it refuses with a code, a message and, at times, further data. Data
that is not a string is kept as the compact text of its value, and `null` counts as none.
-/

namespace ChainRpc.Rpc

open Json (Value Decoder)

/-- The error a node answered with. -/
structure ErrorObject where
  /-- A number in the signed 64-bit range. -/
  code : Int
  message : String
  data : Option String := none
  deriving DecidableEq, Repr

namespace ErrorObject

/-- The code of failures that arise on this side of the connection. -/
def internalCode : Int := -32603

/-- A failure that arises on this side of the connection. -/
def internal (message : String) (data : Option String := none) : ErrorObject :=
  ⟨internalCode, message, data⟩

/-- The code and the message. -/
def text (error : ErrorObject) : String :=
  s!"{error.code}: {error.message}"

/-- What is kept of the data of an error. -/
def dataText : Value → Option String
  | .null => none
  | .string s => some s
  | value => some value.text

/-- An error object whose fields are still being read. -/
structure Draft where
  code : Option Int := none
  message : Option String := none
  data : Option (Option String) := none

/-- The fields of an error object in their order. -/
def fields : List (Decoder.Field Draft) :=
  [Decoder.field "code" Draft.code
      (fun draft code => { draft with code := some code }) Decoder.int64,
   Decoder.field "message" Draft.message
      (fun draft message => { draft with message := some message }) Decoder.string,
   Decoder.field "data" Draft.data
      (fun draft data => { draft with data := some data })
      (fun room node => (Decoder.value room node).map dataText)]

/-- The error object of a draft; the data may be missing. -/
def ofDraft? (draft : Draft) : Option ErrorObject := do
  pure ⟨← draft.code, ← draft.message, draft.data.getD none⟩

/-- Reads an error object. -/
def decoder : Decoder ErrorObject := Decoder.record fields {} ofDraft?

/-- The error object as JSON; data that is not there is left out. -/
def toJson (error : ErrorObject) : Value :=
  .object <|
    [("code", .int error.code), ("message", .string error.message)]
      ++ (match error.data with
          | some data => [("data", .string data)]
          | none => [])

end ErrorObject

end ChainRpc.Rpc
