import Cord.Frame.Machine
import Cord.Identifier.Timeline

/-!
This module contains the data model of the registries pallet: registries, the authorizations of their
delegates and the storage that holds them.
-/

open Frame Identifier

namespace Registries

structure Permissions where
  bits : UInt32
  deriving DecidableEq, Repr

namespace Permissions

def assert : Permissions := ⟨0b0000_0001⟩

def delegate : Permissions := ⟨0b0000_0010⟩

def admin : Permissions := ⟨0b0000_0100⟩

def all : Permissions := ⟨0b0000_0111⟩

def union (p q : Permissions) : Permissions := ⟨p.bits ||| q.bits⟩

def contains (self other : Permissions) : Bool :=
  self.bits &&& other.bits == other.bits

end Permissions

/--
What the runtime provides to the registries pallet.
-/
structure Config extends Identifier.Config where
  Origin : Type
  AccountId : Type
  [decEqAccount : DecidableEq AccountId]
  encodeAccount : AccountId → List UInt8
  ensureSigned : Origin → Option AccountId
  Hash : Type
  [decEqHash : DecidableEq Hash]
  hash : List UInt8 → Hash
  encodeHash : Hash → List UInt8
  maxRegistryDelegates : Nat
  maxRegistryBlobSize : Nat

instance (T : Config) : DecidableEq T.AccountId := T.decEqAccount

instance (T : Config) : DecidableEq T.Hash := T.decEqHash

/--
A configuration to evaluate calls in. Accounts are single bytes, and nothing is lost by hashing.
-/
abbrev Config.plain : Config where
  Ss58Identifier := List UInt8
  encodeIdentifier := id
  createIdentifier digest idType := some ((if idType = .registries then 0 else 1) :: digest)
  maxEventsHistory := 4294967295
  two_le_maxEventsHistory := by decide
  Origin := Option UInt8
  AccountId := UInt8
  encodeAccount x := [x]
  ensureSigned := id
  Hash := List UInt8
  hash := id
  encodeHash := id
  maxRegistryDelegates := 10000
  maxRegistryBlobSize := 4096

structure RegistryDetails (T : Config) where
  creator : T.AccountId
  revoked : Bool
  archived : Bool
  digest : T.Hash
  schemaId : Option T.Ss58Identifier
  deriving DecidableEq

structure RegistryAuthorization (T : Config) where
  registryId : T.Ss58Identifier
  delegate : T.AccountId
  permissions : Permissions
  delegator : T.AccountId
  deriving DecidableEq

inductive Event (T : Config) where
  | authorization (registryId authorization : T.Ss58Identifier) (delegate : T.AccountId)
  | deauthorization (registryId authorization : T.Ss58Identifier)
  | create (registryId : T.Ss58Identifier) (creator : T.AccountId) (authorization : T.Ss58Identifier)
  | revoke (registryId : T.Ss58Identifier) (authority : T.AccountId)
  | reinstate (registryId : T.Ss58Identifier) (authority : T.AccountId)
  | update (registryId : T.Ss58Identifier) (updater : T.AccountId) (authorization : T.Ss58Identifier)
  | archive (registryId : T.Ss58Identifier) (authority : T.AccountId)
  | restore (registryId : T.Ss58Identifier) (authority : T.AccountId)
  deriving DecidableEq

inductive Error where
  | registryAlreadyAnchored
  | registryNotFound
  | unauthorizedOperation
  | invalidIdentifierLength
  | registryDelegatesLimitExceeded
  | delegateAlreadyAdded
  | authorizationNotFound
  | delegateNotFound
  | registryNotRevoked
  | registryAlreadyRevoked
  | registryRevoked
  | registryNotArchived
  | registryAlreadyArchived
  | registryArchived
  deriving DecidableEq, Repr

/--
The storage of the pallet, together with the timelines it writes to and the point in time that is
recorded there.
-/
structure State (T : Config) where
  registryInfo : StorageMap T.Ss58Identifier (RegistryDetails T)
  authorizations : StorageMap T.Ss58Identifier (RegistryAuthorization T)
  delegates : StorageMap T.Ss58Identifier (BoundedVec T.AccountId T.maxRegistryDelegates)
  identifiers : Identifiers T.toConfig
  timepoint : Timepoint
  events : List (Event T)

abbrev CallM (T : Config) := DispatchM (State T) Error

def State.genesis (T : Config) : State T where
  registryInfo := ∅
  authorizations := ∅
  delegates := ∅
  identifiers := ∅
  timepoint := ⟨0, 0⟩
  events := []

variable {T : Config}

def State.atTime (s : State T) (timepoint : Timepoint) : State T :=
  { s with timepoint }

def State.delegatesOf (s : State T) (registryId : T.Ss58Identifier)
    : BoundedVec T.AccountId T.maxRegistryDelegates :=
  s.delegates.getD registryId .empty

def getRegistry (registryId : T.Ss58Identifier) : CallM T (RegistryDetails T) := do
  okOr ((← get).registryInfo.get registryId) .registryNotFound

def insertRegistry (registryId : T.Ss58Identifier) (details : RegistryDetails T)
    : CallM T Unit :=
  modify fun s => { s with registryInfo := s.registryInfo.insert registryId details }

def insertDelegates (registryId : T.Ss58Identifier)
    (delegates : BoundedVec T.AccountId T.maxRegistryDelegates) : CallM T Unit :=
  modify fun s => { s with delegates := s.delegates.insert registryId delegates }

def insertAuthorization (authorizationId : T.Ss58Identifier)
    (authorization : RegistryAuthorization T) : CallM T Unit :=
  modify fun s =>
    { s with authorizations := s.authorizations.insert authorizationId authorization }

def removeAuthorization (authorizationId : T.Ss58Identifier) : CallM T Unit :=
  modify fun s => { s with authorizations := s.authorizations.remove authorizationId }

def depositEvent (event : Event T) : CallM T Unit :=
  modify fun s => { s with events := s.events ++ [event] }

def updateActivity (txId : T.Ss58Identifier) (txType : IdentifierTypeOf) (txAction : CallTypeOf)
    : CallM T Unit :=
  -- Errors of the timeline update are ignored.
  modify fun s =>
    let entry := { action := txAction, location := s.timepoint }
    { s with identifiers := (updateTimeline s.identifiers txId txType entry).getD s.identifiers }

def registryIdentifier (T : Config) (digest : T.Hash) (creator : T.AccountId)
    : Option T.Ss58Identifier :=
  let idDigest := T.hash (T.encodeHash digest ++ T.encodeAccount creator)
  T.createIdentifier (T.encodeHash idDigest) .registries

def authorizationIdentifier (T : Config) (registryId : T.Ss58Identifier)
    (delegate creator : T.AccountId) : Option T.Ss58Identifier :=
  let idDigest :=
    T.hash (T.encodeIdentifier registryId ++ T.encodeAccount delegate ++ T.encodeAccount creator)
  T.createIdentifier (T.encodeHash idDigest) .registryAuthorization

end Registries
