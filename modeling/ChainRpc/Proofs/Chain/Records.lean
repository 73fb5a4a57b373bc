import ChainRpc.Chain.System
import ChainRpc.Proofs.Chain.HexNumber
import ChainRpc.Rpc.ResultType

/-!
# Records of the chain and of the node

Every record whose numbers have the bits of their fields is read back from its text as it was. What
is read of any text is such a record, so what was missing there, a plain number or another case or
marker of digits makes no difference once the record has been printed.
-/

namespace ChainRpc.Chain

open Json (Value Decoder)
open Json.Decoder (Part Restores)
open Rpc (ResultType)

/-! ### Headers and blocks -/

namespace Digest

/-- The parts of a digest. -/
def parts : List (Part Digest Draft) :=
  [⟨"logs", Draft.logs, fun draft logs => { draft with logs := some logs }, Digest.logs,
    fun _ _ => rfl, Decoder.restores_blob.list⟩]

theorem restores : Restores decoder toJson fun _ => True :=
  Decoder.restores_record parts (List.pairwise_singleton ..) (by simp [parts])
    (fun _ => rfl) (by simp [parts]) fun _ _ _ _ => trivial

end Digest

namespace Header

/-- The parts of a header. -/
def parts : List (Part Header Draft) :=
  [⟨"parentHash", Draft.parentHash, fun draft hash => { draft with parentHash := some hash },
      Header.parentHash, fun _ _ => rfl, Decoder.restores_hash 32⟩,
   ⟨"number", Draft.number, fun draft n => { draft with number := some n }, Header.number,
      fun _ _ => rfl, HexNumber.restores_decoder⟩,
   ⟨"stateRoot", Draft.stateRoot, fun draft hash => { draft with stateRoot := some hash },
      Header.stateRoot, fun _ _ => rfl, Decoder.restores_hash 32⟩,
   ⟨"extrinsicsRoot", Draft.extrinsicsRoot,
      fun draft hash => { draft with extrinsicsRoot := some hash }, Header.extrinsicsRoot,
      fun _ _ => rfl, Decoder.restores_hash 32⟩,
   ⟨"digest", Draft.digest, fun draft digest => { draft with digest := some digest },
      Header.digest, fun _ _ => rfl, Digest.restores⟩]

/-- The height has 64 bits. -/
def Fits (header : Header) : Prop := header.number < 2 ^ 64

theorem restores : Restores decoder toJson Fits := by
  apply Decoder.restores_record parts
  · simp [parts, Part.apart_iff]
  · simp [parts]
  · exact fun _ => rfl
  · simp [parts, Fits]
  · intro draft header hfinished hsuits
    simp only [ofDraft?, Option.bind_eq_bind, Option.bind_eq_some_iff, Option.pure_def,
      Option.some.injEq] at hfinished
    obtain ⟨parent, -, n, hheld, state, -, extrinsics, -, rfl⟩ := hfinished
    exact hsuits _ (.tail _ (.head _)) n hheld

end Header

namespace Block

/-- The parts of a block. -/
def parts : List (Part Block Draft) :=
  [⟨"header", Draft.header, fun draft header => { draft with header := some header },
      Block.header, fun _ _ => rfl, Header.restores⟩,
   ⟨"extrinsics", Draft.extrinsics,
      fun draft extrinsics => { draft with extrinsics := some extrinsics }, Block.extrinsics,
      fun _ _ => rfl, Decoder.restores_blob.list⟩]

/-- The header fits. -/
def Fits (block : Block) : Prop := block.header.Fits

theorem restores : Restores decoder toJson Fits := by
  apply Decoder.restores_record parts
  · simp [parts, Part.apart_iff]
  · simp [parts]
  · exact fun _ => rfl
  · simp [parts, Fits]
  · intro draft block hfinished hsuits
    simp only [Option.bind_eq_bind, Option.bind_eq_some_iff, Option.pure_def, Option.some.injEq]
      at hfinished
    obtain ⟨header, hheld, rfl⟩ := hfinished
    exact hsuits _ (.head _) header hheld

end Block

namespace BlockResponse

/-- The parts of a block response. -/
def parts : List (Part BlockResponse Draft) :=
  [⟨"block", Draft.block, fun draft block => { draft with block := some block },
      BlockResponse.block, fun _ _ => rfl, Block.restores⟩,
   ⟨"justification", Draft.justification,
      fun draft justification => { draft with justification := some justification },
      BlockResponse.justification, fun _ _ => rfl,
      Decoder.restores_blob.nullable fun _ => nofun⟩]

/-- The block fits. -/
def Fits (response : BlockResponse) : Prop := response.block.Fits

theorem toJson_eq : toJson = fun response => .object (parts.map (Part.member response)) := by
  funext response
  obtain ⟨block, - | blob⟩ := response <;> rfl

theorem restores : Restores decoder toJson Fits := by
  rw [toJson_eq]
  apply Decoder.restores_record parts
  · simp [parts, Part.apart_iff]
  · simp [parts]
  · exact fun _ => rfl
  · simp [parts, Fits]
  · intro draft response hfinished hsuits
    simp only [Option.bind_eq_bind, Option.bind_eq_some_iff, Option.pure_def, Option.some.injEq]
      at hfinished
    obtain ⟨block, hheld, rfl⟩ := hfinished
    exact hsuits _ (.head _) block hheld

end BlockResponse

/-! ### The node itself -/

namespace SystemHealth

/-- The parts of a health report. -/
def parts : List (Part SystemHealth Draft) :=
  [⟨"isSyncing", Draft.isSyncing, fun draft b => { draft with isSyncing := some b },
      SystemHealth.isSyncing, fun _ _ => rfl, Decoder.restores_bool⟩,
   ⟨"peers", Draft.peers, fun draft n => { draft with peers := some n }, SystemHealth.peers,
      fun _ _ => rfl, Decoder.restores_nat32⟩,
   ⟨"shouldHavePeers", Draft.shouldHavePeers,
      fun draft b => { draft with shouldHavePeers := some b }, SystemHealth.shouldHavePeers,
      fun _ _ => rfl, Decoder.restores_bool⟩]

/-- The number of peers has 32 bits. -/
def Fits (health : SystemHealth) : Prop := health.peers < 2 ^ 32

theorem restores : Restores decoder toJson Fits := by
  apply Decoder.restores_record parts
  · simp [parts, Part.apart_iff]
  · simp [parts]
  · exact fun _ => rfl
  · simp [parts, Fits]
  · intro draft health hfinished hsuits
    simp only [Option.bind_eq_bind, Option.bind_eq_some_iff, Option.pure_def, Option.some.injEq]
      at hfinished
    obtain ⟨syncing, -, n, hheld, expected, -, rfl⟩ := hfinished
    exact hsuits _ (.tail _ (.head _)) n hheld

end SystemHealth

namespace Methods

/-- The parts of a list of methods. -/
def parts : List (Part Methods Draft) :=
  [⟨"version", Draft.version, fun draft n => { draft with version := some n }, Methods.version,
      fun _ _ => rfl, Decoder.restores_nat32⟩,
   ⟨"methods", Draft.methods, fun draft names => { draft with methods := some names },
      Methods.methods, fun _ _ => rfl, Decoder.restores_string.list⟩]

/-- The version has 32 bits. -/
def Fits (methods : Methods) : Prop := methods.version < 2 ^ 32

theorem restores : Restores decoder toJson Fits := by
  apply Decoder.restores_record parts
  · simp [parts, Part.apart_iff]
  · simp [parts]
  · exact fun _ => rfl
  · simp [parts, Fits]
  · intro draft methods hfinished hsuits
    cases hfinished
    exact Decoder.fits_getD (hsuits _ (.head _)) (by decide)

end Methods

namespace RuntimeVersion

/-- The parts of a version. -/
def parts : List (Part RuntimeVersion Draft) :=
  [⟨"specName", Draft.specName, fun draft name => { draft with specName := some name },
      RuntimeVersion.specName, fun _ _ => rfl, Decoder.restores_string⟩,
   ⟨"implName", Draft.implName, fun draft name => { draft with implName := some name },
      RuntimeVersion.implName, fun _ _ => rfl, Decoder.restores_string⟩,
   ⟨"authoringVersion", Draft.authoringVersion,
      fun draft n => { draft with authoringVersion := some n }, RuntimeVersion.authoringVersion,
      fun _ _ => rfl, Decoder.restores_nat32⟩,
   ⟨"specVersion", Draft.specVersion, fun draft n => { draft with specVersion := some n },
      RuntimeVersion.specVersion, fun _ _ => rfl, Decoder.restores_nat32⟩,
   ⟨"implVersion", Draft.implVersion, fun draft n => { draft with implVersion := some n },
      RuntimeVersion.implVersion, fun _ _ => rfl, Decoder.restores_nat32⟩,
   ⟨"transactionVersion", Draft.transactionVersion,
      fun draft n => { draft with transactionVersion := some n },
      RuntimeVersion.transactionVersion, fun _ _ => rfl, Decoder.restores_nat32⟩]

/-- The versions have 32 bits. -/
structure Fits (version : RuntimeVersion) : Prop where
  authoring : version.authoringVersion < 2 ^ 32
  spec : version.specVersion < 2 ^ 32
  impl : version.implVersion < 2 ^ 32
  transaction : version.transactionVersion < 2 ^ 32

theorem restores : Restores decoder toJson Fits := by
  apply Decoder.restores_record parts
  · simp [parts, Part.apart_iff]
  · simp [parts]
  · exact fun _ => rfl
  · rintro version ⟨hauthoring, hspec, himpl, htransaction⟩
    simp only [parts, List.forall_mem_cons, true_and]
    exact ⟨hauthoring, hspec, himpl, htransaction, nofun⟩
  · intro draft version hfinished hsuits
    simp only [ofDraft?, Option.bind_eq_bind, Option.bind_eq_some_iff, Option.pure_def,
      Option.some.injEq] at hfinished
    obtain ⟨_, -, _, -, authoring, hheld, spec, hheld', impl, hheld'', rfl⟩ := hfinished
    exact {
      authoring := hsuits _ (.tail _ (.tail _ (.head _))) authoring hheld
      spec := hsuits _ (.tail _ (.tail _ (.tail _ (.head _)))) spec hheld'
      impl := hsuits _ (.tail _ (.tail _ (.tail _ (.tail _ (.head _))))) impl hheld''
      transaction := Decoder.fits_getD
        (hsuits _ (.tail _ (.tail _ (.tail _ (.tail _ (.tail _ (.head _))))))) (by decide) }

end RuntimeVersion

/-! ### Whole texts -/

section Depth

open Json (itemsDepth_strings membersDepth)

theorem Digest.depth_toJson (digest : Digest) : digest.toJson.depth = 2 := by
  simp [toJson, Value.depth, membersDepth, itemsDepth_strings]

theorem Header.depth_toJson (header : Header) : header.toJson.depth = 3 := by
  simp [toJson, Value.depth, membersDepth, Digest.depth_toJson]

theorem Block.depth_toJson (block : Block) : block.toJson.depth = 4 := by
  simp [toJson, Value.depth, membersDepth, itemsDepth_strings, Header.depth_toJson]

theorem BlockResponse.depth_toJson (response : BlockResponse) : response.toJson.depth = 5 := by
  obtain ⟨block, - | blob⟩ := response <;>
    simp [toJson, Value.depth, membersDepth, Block.depth_toJson]

theorem SystemHealth.depth_toJson (health : SystemHealth) : health.toJson.depth = 1 := rfl

theorem Methods.depth_toJson (methods : Methods) : methods.toJson.depth = 2 := by
  have hnames : Json.itemsDepth (methods.methods.map .string) = 0 :=
    itemsDepth_strings (fun name => name) _
  simp [toJson, Value.depth, Value.nat, membersDepth, hnames]

theorem RuntimeVersion.depth_toJson (version : RuntimeVersion) : version.toJson.depth = 1 := rfl

end Depth

/-- What fits is read back from its text, and whatever is read of any text fits and is read back
from its own. -/
structure Survives {α : Type} (decoder : Decoder α) (print : α → Value) (Fits : α → Prop) :
    Prop where
  back : ∀ name a, Fits a → (ResultType.json name decoder).decode (print a).text = .ok a
  again : ∀ name raw a, (ResultType.json name decoder).decode raw = .ok a →
    Fits a ∧ (ResultType.json name decoder).decode (print a).text = .ok a

theorem survives {α : Type} {decoder : Decoder α} {print : α → Value} {Fits : α → Prop}
    (hrestores : Restores decoder print Fits)
    (hshallow : ∀ a, (print a).depth ≤ Json.nestingLimit) : Survives decoder print Fits := by
  have hback : ∀ name a, Fits a →
      (ResultType.json name decoder).decode (print a).text = .ok a := by
    intro name a hfits
    exact congrArg (Except.mapError Error.json) (hrestores.ofText_text hfits (hshallow a))
  refine ⟨hback, fun name raw a hread => ?_⟩
  have hfits : Fits a := hrestores.fits_of_ofText (Json.mapError_eq_ok_iff.mp hread)
  exact ⟨hfits, hback name a hfits⟩

/-- The records of the chain and of the node survive being written as JSON and read again. -/
theorem records_survive :
    Survives Digest.decoder Digest.toJson (fun _ => True) ∧
    Survives Header.decoder Header.toJson Header.Fits ∧
    Survives Block.decoder Block.toJson Block.Fits ∧
    Survives BlockResponse.decoder BlockResponse.toJson BlockResponse.Fits ∧
    Survives SystemHealth.decoder SystemHealth.toJson SystemHealth.Fits ∧
    Survives Methods.decoder Methods.toJson Methods.Fits ∧
    Survives RuntimeVersion.decoder RuntimeVersion.toJson RuntimeVersion.Fits := by
  refine ⟨survives Digest.restores fun digest => ?_, survives Header.restores fun header => ?_,
    survives Block.restores fun block => ?_, survives BlockResponse.restores fun response => ?_,
    survives SystemHealth.restores fun health => ?_, survives Methods.restores fun methods => ?_,
    survives RuntimeVersion.restores fun version => ?_⟩
  · rw [digest.depth_toJson]
    decide
  · rw [header.depth_toJson]
    decide
  · rw [block.depth_toJson]
    decide
  · rw [response.depth_toJson]
    decide
  · rw [health.depth_toJson]
    decide
  · rw [methods.depth_toJson]
    decide
  · rw [version.depth_toJson]
    decide

end ChainRpc.Chain
