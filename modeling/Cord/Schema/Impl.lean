import Cord.ChainSpace.Impl.Client

/-!
This module contains the schema pallet: schemas are anchored in a space, under an identifier that is
derived from their text, the space and the creator.
-/

open Frame Identifier
open ChainSpace (Client)
open ChainSpace.Client (getPallet modifyPallet)

namespace Schema

structure Config extends toChainSpace : ChainSpace.Config where
  ensureSchemaOrigin : Origin → Option SpaceCreatorId
  maxEncodedSchemaLength : UInt32
  encodeSchema : List UInt8 → List UInt8

/--
The plain configuration of the chain space pallet. The encoding of a short schema starts with four times
its length.
-/
abbrev Config.plain : Config where
  toChainSpace := .plain
  ensureSchemaOrigin := id
  maxEncodedSchemaLength := 8
  encodeSchema bytes := (4 * bytes.length).toUInt8 :: bytes

abbrev InputSchema (T : Config) := BoundedVec UInt8 T.maxEncodedSchemaLength.toNat

structure SchemaEntry (T : Config) where
  schema : InputSchema T
  digest : T.Hash
  creator : T.SpaceCreatorId
  space : T.Ss58Identifier
  deriving DecidableEq

inductive Event (T : Config) where
  | created (identifier : T.Ss58Identifier) (creator : T.SpaceCreatorId)
  deriving DecidableEq

inductive Error where
  | chainSpace (err : ChainSpace.Error)
  | schemaAlreadyAnchored
  | schemaNotFound
  | invalidIdentifierLength
  | maxEncodedSchemaLimitExceeded
  | emptyTransaction
  deriving DecidableEq, Repr

structure Storage (T : Config) where
  schemas : StorageMap T.Ss58Identifier (SchemaEntry T)
  events : List (Event T)

abbrev State (T : Config) := Client T.toChainSpace (Storage T)

abbrev CallM (T : Config) := DispatchM (State T) Error

def State.genesis (T : Config) : State T where
  chainSpace := .genesis T.toChainSpace
  pallet := { schemas := ∅, events := [] }

variable {T : Config}

def schemaIdentifier (T : Config) (txSchema : InputSchema T) (spaceId : T.Ss58Identifier)
    (creator : T.SpaceCreatorId) : Option T.Ss58Identifier :=
  let idDigest :=
    T.hash (T.encodeSchema txSchema.toList ++ T.encodeIdentifier spaceId ++ T.encodeCreator creator)
  T.createIdentifier (T.encodeHash idDigest) .schema

def updateActivity (txId : T.Ss58Identifier) (txAction : CallTypeOf) : CallM T Unit :=
  Client.updateActivity .chainSpace txId .schema txAction

def depositEvent (event : Event T) : CallM T Unit :=
  modifyPallet fun p => { p with events := p.events ++ [event] }

def create (origin : T.Origin) (txSchema : InputSchema T) (authorization : T.Ss58Identifier)
    : CallM T Unit := do
  let creator ← ensureOrigin (T.ensureSchemaOrigin origin)
  ensure (txSchema.toList.length > 0) .emptyTransaction
  ensure (txSchema.toList.length ≤ T.maxEncodedSchemaLength.toNat) .maxEncodedSchemaLimitExceeded
  let spaceId ← Client.ensureAuthorizationOrigin .chainSpace authorization creator
  let identifier ← okOr (schemaIdentifier T txSchema spaceId creator) .invalidIdentifierLength
  ensure (!(← getPallet).schemas.containsKey identifier) .schemaAlreadyAnchored
  let digest := T.hash txSchema.toList
  modifyPallet fun p =>
    {
      p with
      schemas := p.schemas.insert identifier { schema := txSchema, digest, creator, space := spaceId }
    }
  updateActivity identifier .genesis
  depositEvent (.created identifier creator)

def isValid (s : State T) (txIdent : T.Ss58Identifier) : Except Error Unit :=
  if s.pallet.schemas.containsKey txIdent then .ok () else .error .schemaNotFound

inductive Call (T : Config) where
  | create (txSchema : InputSchema T) (authorization : T.Ss58Identifier)

def dispatch (origin : T.Origin) (call : Call T) : CallM T Unit :=
  match call with
  | .create txSchema authorization => create origin txSchema authorization

abbrev Extrinsic (T : Config) := Client.Extrinsic T.toChainSpace (Call T)

def machine (T : Config) : Machine (State T) Error (Extrinsic T) :=
  Client.machine .chainSpace dispatch

end Schema
