import Cord.Registries.Impl.Calls

/-!
This module contains the entries pallet. Its entries belong to registries, and the authorizations of
a registry are asked for whether a call may be made.
-/

open Frame Identifier

namespace Entries

structure Config extends toRegistries : Registries.Config where
  maxRegistryEntryBlobSize : Nat

structure RegistryEntryDetails (T : Config) where
  digest : T.Hash
  revoked : Bool
  creator : T.AccountId
  registryId : T.Ss58Identifier
  deriving DecidableEq

inductive Event (T : Config) where
  | registryEntryCreated (creator : T.AccountId) (registryId registryEntryId : T.Ss58Identifier)
  | registryEntryUpdated (updater : T.AccountId) (registryEntryId : T.Ss58Identifier)
  | registryEntryRevoked (updater : T.AccountId) (registryEntryId : T.Ss58Identifier)
  | registryEntryReinstated (updater : T.AccountId) (registryEntryId : T.Ss58Identifier)
  deriving DecidableEq

inductive Error where
  | registries (err : Registries.Error)
  | invalidIdentifierLength
  | unauthorizedOperation
  | registryEntryIdentifierAlreadyExists
  | registryEntryIdentifierDoesNotExist
  | registryEntryNotRevoked
  deriving DecidableEq, Repr

/--
The storage of the pallet next to that of the registries pallet.
-/
structure State (T : Config) where
  registries : Registries.State T.toRegistries
  registryEntries : StorageMap T.Ss58Identifier (RegistryEntryDetails T)
  events : List (Event T)

abbrev CallM (T : Config) := DispatchM (State T) Error

def State.genesis (T : Config) : State T where
  registries := .genesis T.toRegistries
  registryEntries := ∅
  events := []

variable {T : Config}

def runRegistries {α : Type} (x : Registries.CallM T.toRegistries α) : CallM T α :=
  zoom State.registries (fun t s => { s with registries := t }) .registries x

def getEntry (registryEntryId : T.Ss58Identifier) : CallM T (RegistryEntryDetails T) := do
  okOr ((← get).registryEntries.get registryEntryId) .registryEntryIdentifierDoesNotExist

def insertEntry (registryEntryId : T.Ss58Identifier) (entry : RegistryEntryDetails T)
    : CallM T Unit :=
  modify fun s => { s with registryEntries := s.registryEntries.insert registryEntryId entry }

def depositEvent (event : Event T) : CallM T Unit :=
  modify fun s => { s with events := s.events ++ [event] }

def updateActivity (txId : T.Ss58Identifier) (txAction : CallTypeOf) : CallM T Unit :=
  runRegistries (Registries.updateActivity txId .entries txAction)

def entryIdentifier (T : Config) (digest : T.Hash) (registryId : T.Ss58Identifier)
    (creator : T.AccountId) : Option T.Ss58Identifier :=
  let idDigest :=
    T.hash (T.encodeHash digest ++ T.encodeIdentifier registryId ++ T.encodeAccount creator)
  T.createIdentifier (T.encodeHash idDigest) .entries

def create (origin : T.Origin) (_registryEntryId authorization : T.Ss58Identifier)
    (digest : T.Hash) (_blob : Option (BoundedVec UInt8 T.maxRegistryEntryBlobSize))
    : CallM T Unit := do
  let creator ← ensureOrigin (T.ensureSigned origin)
  let registryId ← runRegistries (Registries.ensureAuthorizationOrigin authorization creator)
  let registryEntryId ← okOr (entryIdentifier T digest registryId creator) .invalidIdentifierLength
  ensure (!(← get).registryEntries.containsKey registryEntryId)
    .registryEntryIdentifierAlreadyExists
  insertEntry registryEntryId { digest, revoked := false, creator, registryId }
  updateActivity registryEntryId .genesis
  depositEvent (.registryEntryCreated creator registryId registryEntryId)

def changeEntryWith (check : RegistryEntryDetails T → CallM T Unit)
    (change : RegistryEntryDetails T → RegistryEntryDetails T) (txAction : CallTypeOf)
    (event : T.AccountId → T.Ss58Identifier → Event T) (origin : T.Origin)
    (registryEntryId authorization : T.Ss58Identifier) : CallM T Unit := do
  -- The part that `update`, `revoke` and `reinstate` share.
  let updater ← ensureOrigin (T.ensureSigned origin)
  let registryId ← runRegistries (Registries.ensureAuthorizationOrigin authorization updater)
  let entry ← getEntry registryEntryId
  ensure (entry.registryId = registryId) .unauthorizedOperation
  check entry
  insertEntry registryEntryId (change entry)
  updateActivity registryEntryId txAction
  depositEvent (event updater registryEntryId)

def update (origin : T.Origin) (registryEntryId authorization : T.Ss58Identifier)
    (digest : T.Hash) (_blob : Option (BoundedVec UInt8 T.maxRegistryEntryBlobSize))
    : CallM T Unit :=
  changeEntryWith (fun _ => pure ()) (fun entry => { entry with digest }) .update
    .registryEntryUpdated origin registryEntryId authorization

def revoke : T.Origin → T.Ss58Identifier → T.Ss58Identifier → CallM T Unit :=
  changeEntryWith (fun _ => pure ()) (fun entry => { entry with revoked := true }) .revoke
    .registryEntryRevoked

def reinstate : T.Origin → T.Ss58Identifier → T.Ss58Identifier → CallM T Unit :=
  changeEntryWith (fun entry => ensure entry.revoked .registryEntryNotRevoked)
    (fun entry => { entry with revoked := false }) .reinstate .registryEntryReinstated

inductive Call (T : Config) where
  | create (registryEntryId authorization : T.Ss58Identifier) (digest : T.Hash)
      (blob : Option (BoundedVec UInt8 T.maxRegistryEntryBlobSize))
  | update (registryEntryId authorization : T.Ss58Identifier) (digest : T.Hash)
      (blob : Option (BoundedVec UInt8 T.maxRegistryEntryBlobSize))
  | revoke (registryEntryId authorization : T.Ss58Identifier)
  | reinstate (registryEntryId authorization : T.Ss58Identifier)

def Call.dispatch (origin : T.Origin) : Call T → CallM T Unit
  | .create registryEntryId authorization digest blob =>
    Entries.create origin registryEntryId authorization digest blob
  | .update registryEntryId authorization digest blob =>
    Entries.update origin registryEntryId authorization digest blob
  | .revoke registryEntryId authorization => Entries.revoke origin registryEntryId authorization
  | .reinstate registryEntryId authorization =>
    Entries.reinstate origin registryEntryId authorization

inductive Extrinsic (T : Config) where
  | registries (ext : Registries.Extrinsic T.toRegistries)
  | entries (origin : T.Origin) (timepoint : Timepoint) (call : Call T)

/--
The calls of the two pallets, interleaved in any order.
-/
def machine (T : Config) : Machine (State T) Error (Extrinsic T) where
  dispatch
    | .registries ext => runRegistries ext.dispatch
    | .entries origin timepoint call => do
      modify fun s => { s with registries := s.registries.atTime timepoint }
      call.dispatch origin

end Entries
