import Cord.Asset.Impl.Calls
import Cord.NetworkScore.Impl.Calls
import Cord.Statement.Impl.Calls

/-!
This module puts the pallets that charge spaces together: the chain space pallet and the statement,
the asset and the network score pallets run next to each other on the same spaces.
-/

open Frame Identifier
open ChainSpace (Client)

namespace Runtime

/--
The configurations of the pallets, which agree on that of the chain space pallet.
-/
structure Config extends toStatement : Statement.Config where
  ensureAssetOrigin : Origin → Option SpaceCreatorId
  maxAssetValueLength : UInt32
  maxAssetDistribution : UInt32
  AccountId : Type
  [decEqAccountId : DecidableEq AccountId]
  ensureScoreOrigin : Origin → Option (SpaceCreatorId × AccountId)
  timestamp : UInt32 → UInt64
  maxScoreValueLength : UInt32
  encodeValue : List UInt8 → List UInt8
  maxRatingValue : UInt32

abbrev Config.toAsset (T : Config) : Asset.Config where
  toChainSpace := T.toChainSpace
  ensureAssetOrigin := T.ensureAssetOrigin
  maxEncodedValueLength := T.maxAssetValueLength
  maxAssetDistribution := T.maxAssetDistribution

abbrev Config.toScore (T : Config) : NetworkScore.Config where
  toChainSpace := T.toChainSpace
  AccountId := T.AccountId
  decEqAccountId := T.decEqAccountId
  ensureScoreOrigin := T.ensureScoreOrigin
  timestamp := T.timestamp
  maxEncodedValueLength := T.maxScoreValueLength
  encodeValue := T.encodeValue
  maxRatingValue := T.maxRatingValue

abbrev Config.plain : Config where
  toStatement := .plain
  ensureAssetOrigin := id
  maxAssetValueLength := 16
  maxAssetDistribution := 3
  AccountId := UInt8
  ensureScoreOrigin origin := origin.map fun x => (x, x)
  timestamp height := height.toUInt64
  maxScoreValueLength := 16
  encodeValue := id
  maxRatingValue := 100

structure State (T : Config) where
  statement : Statement.State T.toStatement
  asset : Asset.Storage T.toAsset
  score : NetworkScore.Storage T.toScore

def State.genesis (T : Config) : State T where
  statement := .genesis T.toStatement
  asset := (Asset.State.genesis T.toAsset).pallet
  score := (NetworkScore.State.genesis T.toScore).pallet

inductive Error where
  | statement (err : Statement.Error)
  | asset (err : Asset.Error)
  | score (err : NetworkScore.Error)
  deriving DecidableEq, Repr

abbrev CallM (T : Config) := DispatchM (State T) Error

variable {T : Config}

def statement {α : Type} (x : Statement.CallM T.toStatement α) : CallM T α :=
  zoom State.statement (fun t s => { s with statement := t }) .statement x

def asset {α : Type} (x : Asset.CallM T.toAsset α) : CallM T α :=
  zoom (fun s => ⟨s.statement.chainSpace, s.asset⟩)
    (fun t s => { s with statement.chainSpace := t.chainSpace, asset := t.pallet }) .asset x

def score {α : Type} (x : NetworkScore.CallM T.toScore α) : CallM T α :=
  zoom (fun s => ⟨s.statement.chainSpace, s.score⟩)
    (fun t s => { s with statement.chainSpace := t.chainSpace, score := t.pallet }) .score x

/--
The calls of the four pallets. Those of the chain space pallet are extrinsics of the statement pallet,
whose state includes the spaces.
-/
inductive Extrinsic (T : Config) where
  | statement (ext : Statement.Extrinsic T.toStatement)
  | asset (origin : T.Origin) (timepoint : Timepoint) (call : Asset.Call T.toAsset)
  | score (origin : T.Origin) (timepoint : Timepoint) (call : NetworkScore.Call T.toScore)

def atTime (timepoint : Timepoint) : CallM T Unit :=
  modify fun s => { s with statement.chainSpace.timepoint := timepoint }

def Extrinsic.dispatch (ext : Extrinsic T) : CallM T Unit :=
  match ext with
  | .statement ext => Runtime.statement ext.dispatch
  | .asset origin timepoint call => do
    atTime timepoint
    Runtime.asset (Asset.dispatch origin call)
  | .score origin timepoint call => do
    atTime timepoint
    Runtime.score (NetworkScore.dispatch origin call)

def machine (T : Config) : Machine (State T) Error (Extrinsic T) where
  dispatch := Extrinsic.dispatch

end Runtime
