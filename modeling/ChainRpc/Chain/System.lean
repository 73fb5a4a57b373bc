import ChainRpc.Json.Decoder

/-!
# The node itself

The records in which a node describes its state, the methods it offers and the version of
its runtime.
-/

namespace ChainRpc.Chain

open Json (Value Decoder)

/-! ### Health -/

/-- How a node is doing. -/
structure SystemHealth where
  isSyncing : Bool
  /-- The number of connected peers. -/
  peers : Nat
  /-- Whether the node expects to have peers. -/
  shouldHavePeers : Bool
  deriving DecidableEq, Repr

namespace SystemHealth

/-- A report whose fields are still being read. -/
structure Draft where
  isSyncing : Option Bool := none
  peers : Option Nat := none
  shouldHavePeers : Option Bool := none

/-- Reads a health report. -/
def decoder : Decoder SystemHealth :=
  Decoder.record
    [Decoder.field "isSyncing" Draft.isSyncing
        (fun draft b => { draft with isSyncing := some b }) Decoder.bool,
     Decoder.field "peers" Draft.peers
        (fun draft n => { draft with peers := some n }) Decoder.nat32,
     Decoder.field "shouldHavePeers" Draft.shouldHavePeers
        (fun draft b => { draft with shouldHavePeers := some b }) Decoder.bool]
    {} fun draft => do pure ⟨← draft.isSyncing, ← draft.peers, ← draft.shouldHavePeers⟩

/-- The health report as JSON. -/
def toJson (health : SystemHealth) : Value :=
  .object [
    ("isSyncing", .bool health.isSyncing),
    ("peers", .nat health.peers),
    ("shouldHavePeers", .bool health.shouldHavePeers)]

end SystemHealth

/-! ### Methods -/

/-- The methods a node offers. -/
structure Methods where
  version : Nat := 0
  methods : List String := []
  deriving DecidableEq, Repr

namespace Methods

/-- A list of methods whose fields are still being read. -/
structure Draft where
  version : Option Nat := none
  methods : Option (List String) := none

/-- Reads a list of methods; either field may be missing. -/
def decoder : Decoder Methods :=
  Decoder.record
    [Decoder.field "version" Draft.version
        (fun draft n => { draft with version := some n }) Decoder.nat32,
     Decoder.field "methods" Draft.methods
        (fun draft names => { draft with methods := some names }) (Decoder.list Decoder.string)]
    {} fun draft => some ⟨draft.version.getD 0, draft.methods.getD []⟩

/-- The list of methods as JSON. -/
def toJson (methods : Methods) : Value :=
  .object [
    ("version", .nat methods.version),
    ("methods", .array (methods.methods.map .string))]

end Methods

/-! ### Runtime versions -/

/-- The version of a runtime. -/
structure RuntimeVersion where
  specName : String
  implName : String
  authoringVersion : Nat
  specVersion : Nat
  implVersion : Nat
  /-- The version of the format of transactions. -/
  transactionVersion : Nat := 0
  deriving DecidableEq, Repr

namespace RuntimeVersion

/-- A version whose fields are still being read. -/
structure Draft where
  specName : Option String := none
  implName : Option String := none
  authoringVersion : Option Nat := none
  specVersion : Option Nat := none
  implVersion : Option Nat := none
  transactionVersion : Option Nat := none

/-- The fields of a version in their order. -/
def fields : List (Decoder.Field Draft) :=
  [Decoder.field "specName" Draft.specName
      (fun draft name => { draft with specName := some name }) Decoder.string,
   Decoder.field "implName" Draft.implName
      (fun draft name => { draft with implName := some name }) Decoder.string,
   Decoder.field "authoringVersion" Draft.authoringVersion
      (fun draft n => { draft with authoringVersion := some n }) Decoder.nat32,
   Decoder.field "specVersion" Draft.specVersion
      (fun draft n => { draft with specVersion := some n }) Decoder.nat32,
   Decoder.field "implVersion" Draft.implVersion
      (fun draft n => { draft with implVersion := some n }) Decoder.nat32,
   Decoder.field "transactionVersion" Draft.transactionVersion
      (fun draft n => { draft with transactionVersion := some n }) Decoder.nat32]

/-- The version of a draft; only the version of the transaction format may be missing. -/
def ofDraft? (draft : Draft) : Option RuntimeVersion := do
  pure {
    specName := ← draft.specName
    implName := ← draft.implName
    authoringVersion := ← draft.authoringVersion
    specVersion := ← draft.specVersion
    implVersion := ← draft.implVersion
    transactionVersion := draft.transactionVersion.getD 0 }

/-- Reads a version. -/
def decoder : Decoder RuntimeVersion := Decoder.record fields {} ofDraft?

/-- The version as JSON. -/
def toJson (version : RuntimeVersion) : Value :=
  .object [
    ("specName", .string version.specName),
    ("implName", .string version.implName),
    ("authoringVersion", .nat version.authoringVersion),
    ("specVersion", .nat version.specVersion),
    ("implVersion", .nat version.implVersion),
    ("transactionVersion", .nat version.transactionVersion)]

end RuntimeVersion

end ChainRpc.Chain
