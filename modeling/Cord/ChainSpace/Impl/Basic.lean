import Cord.Frame.Machine
import Cord.Identifier.Timeline

/-!
This module contains the data model of the chain space pallet: spaces, the authorizations of their
delegates and the storage that holds them.
-/

open Frame Identifier

namespace ChainSpace

structure Permissions where
  bits : UInt32
  deriving DecidableEq, Repr

namespace Permissions

def assert : Permissions := ⟨0b0000_0001⟩

def delegate : Permissions := ⟨0b0000_0010⟩

def admin : Permissions := ⟨0b0000_0100⟩

def all : Permissions := ⟨0b0000_0111⟩

def union (p q : Permissions) : Permissions := ⟨p.bits ||| q.bits⟩

def contains (self other : Permissions) : Bool :=
  -- `self.contains(other)`: all of the flags in `other` are set in `self`.
  self.bits &&& other.bits == other.bits

end Permissions

/--
What the runtime provides to the chain space pallet. `ensureOrigin` yields the subject of an origin
that passes `EnsureOrigin`, `chainSpaceOrigin` is the council or root check.
-/
structure Config extends Identifier.Config where
  Origin : Type
  Hash : Type
  [decEqHash : DecidableEq Hash]
  hash : List UInt8 → Hash
  encodeHash : Hash → List UInt8
  SpaceCreatorId : Type
  [decEqCreator : DecidableEq SpaceCreatorId]
  encodeCreator : SpaceCreatorId → List UInt8
  ensureOrigin : Origin → Option SpaceCreatorId
  chainSpaceOrigin : Origin → Option Unit
  isPermissioned : Bool
  maxSpaceDelegates : Nat

instance (T : Config) : DecidableEq T.Hash := T.decEqHash

instance (T : Config) : DecidableEq T.SpaceCreatorId := T.decEqCreator

/--
A permissioned configuration to evaluate calls in. Subjects are single bytes, `none` is the council,
and nothing is lost by hashing.
-/
abbrev Config.plain : Config where
  Ss58Identifier := List UInt8
  encodeIdentifier := id
  createIdentifier digest idType := some ((if idType = .space then 0 else 1) :: digest)
  maxEventsHistory := 6
  two_le_maxEventsHistory := by decide
  Origin := Option UInt8
  Hash := List UInt8
  hash := id
  encodeHash := id
  SpaceCreatorId := UInt8
  encodeCreator x := [x]
  ensureOrigin := id
  chainSpaceOrigin origin := if origin = none then some () else none
  isPermissioned := true
  maxSpaceDelegates := 5

structure SpaceDetails (T : Config) where
  code : T.Hash
  creator : T.SpaceCreatorId
  txnCapacity : UInt64
  txnReserve : UInt64
  txnCount : UInt64
  approved : Bool
  archive : Bool
  parent : T.Ss58Identifier
  deriving DecidableEq

structure SpaceAuthorization (T : Config) where
  spaceId : T.Ss58Identifier
  delegate : T.SpaceCreatorId
  permissions : Permissions
  delegator : T.SpaceCreatorId
  deriving DecidableEq

inductive Event (T : Config) where
  | authorization (space authorization : T.Ss58Identifier) (delegate : T.SpaceCreatorId)
  | deauthorization (space authorization : T.Ss58Identifier)
  | create (space : T.Ss58Identifier) (creator : T.SpaceCreatorId) (authorization : T.Ss58Identifier)
  | approve (space : T.Ss58Identifier)
  | archive (space : T.Ss58Identifier) (authority : T.SpaceCreatorId)
  | restore (space : T.Ss58Identifier) (authority : T.SpaceCreatorId)
  | approvalRevoke (space : T.Ss58Identifier)
  | approvalRestore (space : T.Ss58Identifier)
  | updateCapacity (space : T.Ss58Identifier)
  | resetUsage (space : T.Ss58Identifier)
  deriving DecidableEq

inductive Error where
  | spaceAlreadyAnchored
  | spaceNotFound
  | unauthorizedOperation
  | invalidIdentifierLength
  | archivedSpace
  | spaceNotArchived
  | spaceDelegatesLimitExceeded
  | delegateAlreadyAdded
  | authorizationNotFound
  | delegateNotFound
  | spaceAlreadyApproved
  | spaceNotApproved
  | capacityLimitExceeded
  | capacityLessThanUsage
  | capacityValueMissing
  | typeCapacityOverflow
  deriving DecidableEq, Repr

/--
The storage of the pallet, together with the timelines it writes to and the point in time that is
recorded there.
-/
structure State (T : Config) where
  spaces : StorageMap T.Ss58Identifier (SpaceDetails T)
  authorizations : StorageMap T.Ss58Identifier (SpaceAuthorization T)
  delegates : StorageMap T.Ss58Identifier (BoundedVec T.SpaceCreatorId T.maxSpaceDelegates)
  identifiers : Identifiers T.toConfig
  timepoint : Timepoint
  events : List (Event T)

abbrev CallM (T : Config) := DispatchM (State T) Error

def State.genesis (T : Config) : State T where
  spaces := ∅
  authorizations := ∅
  delegates := ∅
  identifiers := ∅
  timepoint := ⟨0, 0⟩
  events := []

variable {T : Config}

def State.delegatesOf (s : State T) (spaceId : T.Ss58Identifier)
    : BoundedVec T.SpaceCreatorId T.maxSpaceDelegates :=
  s.delegates.getD spaceId .empty

def getSpace (spaceId : T.Ss58Identifier) : CallM T (SpaceDetails T) := do
  okOr ((← get).spaces.get spaceId) .spaceNotFound

def insertSpace (spaceId : T.Ss58Identifier) (details : SpaceDetails T) : CallM T Unit :=
  modify fun s => { s with spaces := s.spaces.insert spaceId details }

def insertDelegates (spaceId : T.Ss58Identifier)
    (delegates : BoundedVec T.SpaceCreatorId T.maxSpaceDelegates) : CallM T Unit :=
  modify fun s => { s with delegates := s.delegates.insert spaceId delegates }

def insertAuthorization (authorizationId : T.Ss58Identifier)
    (authorization : SpaceAuthorization T) : CallM T Unit :=
  modify fun s =>
    { s with authorizations := s.authorizations.insert authorizationId authorization }

def removeAuthorization (authorizationId : T.Ss58Identifier) : CallM T Unit :=
  modify fun s => { s with authorizations := s.authorizations.remove authorizationId }

def State.deposit (s : State T) (event : Event T) : State T :=
  { s with events := s.events ++ [event] }

def depositEvent (event : Event T) : CallM T Unit :=
  modify fun s => s.deposit event

def State.logActivity (s : State T) (txId : T.Ss58Identifier) (txType : IdentifierTypeOf)
    (txAction : CallTypeOf) : State T :=
  -- Errors of the timeline update are ignored.
  let entry := { action := txAction, location := s.timepoint }
  { s with identifiers := (updateTimeline s.identifiers txId txType entry).getD s.identifiers }

def updateActivity (txId : T.Ss58Identifier) (txType : IdentifierTypeOf) (txAction : CallTypeOf)
    : CallM T Unit :=
  modify fun s => s.logActivity txId txType txAction

def spaceIdentifier (T : Config) (spaceCode : T.Hash) (creator : T.SpaceCreatorId)
    : Option T.Ss58Identifier :=
  let idDigest := T.hash (T.encodeHash spaceCode ++ T.encodeCreator creator)
  T.createIdentifier (T.encodeHash idDigest) .space

def authorizationIdentifier (T : Config) (spaceId : T.Ss58Identifier)
    (delegate creator : T.SpaceCreatorId) : Option T.Ss58Identifier :=
  let idDigest :=
    T.hash (T.encodeIdentifier spaceId ++ T.encodeCreator delegate ++ T.encodeCreator creator)
  T.createIdentifier (T.encodeHash idDigest) .authorization

end ChainSpace
