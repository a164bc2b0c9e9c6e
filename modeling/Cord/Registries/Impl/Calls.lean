import Cord.Registries.Impl.Basic

/-!
This module contains the authorization of calls and the dispatchable calls of the registries pallet.
-/

open Frame Identifier

namespace Registries

variable {T : Config}

def validateRegistryForTransaction (registryId : T.Ss58Identifier) : CallM T Unit := do
  let registryDetails ← getRegistry registryId
  ensure (!registryDetails.archived) .registryArchived
  ensure (!registryDetails.revoked) .registryRevoked

def validateRegistryForRestoreTransaction (registryId : T.Ss58Identifier) : CallM T Unit := do
  let registryDetails ← getRegistry registryId
  ensure registryDetails.archived .registryNotArchived

def validateRegistryForReinstateTransaction (registryId : T.Ss58Identifier) : CallM T Unit := do
  let registryDetails ← getRegistry registryId
  ensure registryDetails.revoked .registryNotRevoked

def ensureAuthorizationWith (validate : T.Ss58Identifier → CallM T Unit) (required : Permissions)
    (authorizationId : T.Ss58Identifier) (delegate : T.AccountId) : CallM T T.Ss58Identifier := do
  let d ← okOr ((← get).authorizations.get authorizationId) .authorizationNotFound
  ensure (d.delegate = delegate) .unauthorizedOperation
  validate d.registryId
  ensure (d.permissions.contains required) .unauthorizedOperation
  return d.registryId

def ensureAuthorizationOrigin : T.Ss58Identifier → T.AccountId → CallM T T.Ss58Identifier :=
  ensureAuthorizationWith validateRegistryForTransaction .assert

def ensureAuthorizationReinstateOrigin : T.Ss58Identifier → T.AccountId → CallM T T.Ss58Identifier :=
  ensureAuthorizationWith validateRegistryForReinstateTransaction .admin

def ensureAuthorizationRestoreOrigin : T.Ss58Identifier → T.AccountId → CallM T T.Ss58Identifier :=
  ensureAuthorizationWith validateRegistryForRestoreTransaction .admin

def ensureAuthorizationAdminOrigin : T.Ss58Identifier → T.AccountId → CallM T T.Ss58Identifier :=
  ensureAuthorizationWith validateRegistryForTransaction .admin

def ensureAuthorizationDelegatorOrigin : T.Ss58Identifier → T.AccountId → CallM T T.Ss58Identifier :=
  ensureAuthorizationWith validateRegistryForTransaction (.union .delegate .admin)

def ensureAuthorizationAdminRemoveOrigin
    : T.Ss58Identifier → T.AccountId → CallM T T.Ss58Identifier :=
  ensureAuthorizationWith validateRegistryForTransaction .admin

def registryDelegateAddition (registryId : T.Ss58Identifier) (delegate creator : T.AccountId)
    (permissions : Permissions) : CallM T Unit := do
  let delegateAuthorizationId ←
    okOr (authorizationIdentifier T registryId delegate creator) .invalidIdentifierLength
  ensure (!(← get).authorizations.containsKey delegateAuthorizationId) .delegateAlreadyAdded
  let delegates ←
    okOr (((← get).delegatesOf registryId).tryPush delegate) .registryDelegatesLimitExceeded
  insertDelegates registryId delegates
  insertAuthorization delegateAuthorizationId
    { registryId, delegate, permissions, delegator := creator }
  updateActivity registryId .registryAuthorization .authorization
  depositEvent (.authorization registryId delegateAuthorizationId delegate)

def addDelegateWith
    (ensureAuthorization : T.Ss58Identifier → T.AccountId → CallM T T.Ss58Identifier)
    (permissions : Permissions) (origin : T.Origin) (registryId : T.Ss58Identifier)
    (delegate : T.AccountId) (authorization : T.Ss58Identifier) : CallM T Unit := do
  let creator ← ensureOrigin (T.ensureSigned origin)
  let authRegistryId ← ensureAuthorization authorization creator
  ensure (authRegistryId = registryId) .unauthorizedOperation
  registryDelegateAddition authRegistryId delegate creator permissions

def addDelegate : T.Origin → T.Ss58Identifier → T.AccountId → T.Ss58Identifier → CallM T Unit :=
  addDelegateWith ensureAuthorizationDelegatorOrigin .assert

def addAdminDelegate : T.Origin → T.Ss58Identifier → T.AccountId → T.Ss58Identifier → CallM T Unit :=
  addDelegateWith ensureAuthorizationAdminOrigin .admin

def addDelegator : T.Origin → T.Ss58Identifier → T.AccountId → T.Ss58Identifier → CallM T Unit :=
  addDelegateWith ensureAuthorizationAdminOrigin .delegate

def removeDelegate (origin : T.Origin)
    (registryId removeAuthorizationId authorization : T.Ss58Identifier) : CallM T Unit := do
  -- Only the delegate of `removeAuthorization` is looked up in the list of the registry, the
  -- registry that is stored in `removeAuthorization` is not compared with `registryId`.
  let creator ← ensureOrigin (T.ensureSigned origin)
  let authRegistryId ← ensureAuthorizationAdminRemoveOrigin authorization creator
  ensure (authorization ≠ removeAuthorizationId) .unauthorizedOperation
  ensure (authRegistryId = registryId) .unauthorizedOperation
  let authorizationDetails ←
    okOr ((← get).authorizations.get removeAuthorizationId) .authorizationNotFound
  let delegates := (← get).delegatesOf registryId
  let index ← okOr (delegates.toList.idxOf? authorizationDetails.delegate) .delegateNotFound
  insertDelegates registryId (delegates.remove index)
  removeAuthorization removeAuthorizationId
  updateActivity registryId .registryAuthorization .deauthorization
  depositEvent (.deauthorization registryId removeAuthorizationId)

def create (origin : T.Origin) (_registryId : T.Ss58Identifier) (digest : T.Hash)
    (schemaId : Option T.Ss58Identifier) (_blob : Option (BoundedVec UInt8 T.maxRegistryBlobSize))
    : CallM T Unit := do
  let creator ← ensureOrigin (T.ensureSigned origin)
  let identifier ← okOr (registryIdentifier T digest creator) .invalidIdentifierLength
  ensure (!(← get).registryInfo.containsKey identifier) .registryAlreadyAnchored
  let authorizationId ←
    okOr (authorizationIdentifier T identifier creator creator) .invalidIdentifierLength
  let delegates ← okOr (BoundedVec.empty.tryPush creator) .registryDelegatesLimitExceeded
  insertDelegates identifier delegates
  insertAuthorization authorizationId
    { registryId := identifier, delegate := creator, permissions := .all, delegator := creator }
  insertRegistry identifier { creator, revoked := false, archived := false, digest, schemaId }
  updateActivity identifier .registries .genesis
  depositEvent (.create identifier creator authorizationId)

def changeStatusWith
    (ensureAuthorization : T.Ss58Identifier → T.AccountId → CallM T T.Ss58Identifier)
    (allowed : RegistryDetails T → Bool) (err : Error)
    (change : RegistryDetails T → RegistryDetails T) (txAction : CallTypeOf)
    (event : T.Ss58Identifier → T.AccountId → Event T) (origin : T.Origin)
    (registryId authorization : T.Ss58Identifier) : CallM T Unit := do
  -- The part that `revoke`, `reinstate`, `archive` and `restore` share.
  let creator ← ensureOrigin (T.ensureSigned origin)
  let authRegistryId ← ensureAuthorization authorization creator
  ensure (authRegistryId = registryId) .unauthorizedOperation
  let registryDetails ← getRegistry registryId
  ensure (allowed registryDetails) err
  insertRegistry registryId (change registryDetails)
  updateActivity registryId .registries txAction
  depositEvent (event registryId creator)

def revoke : T.Origin → T.Ss58Identifier → T.Ss58Identifier → CallM T Unit :=
  changeStatusWith ensureAuthorizationAdminOrigin (fun d => !d.revoked) .registryAlreadyRevoked
    (fun d => { d with revoked := true }) .revoke .revoke

def reinstate : T.Origin → T.Ss58Identifier → T.Ss58Identifier → CallM T Unit :=
  changeStatusWith ensureAuthorizationReinstateOrigin (fun d => d.revoked) .registryNotRevoked
    (fun d => { d with revoked := false }) .reinstate .reinstate

def archive : T.Origin → T.Ss58Identifier → T.Ss58Identifier → CallM T Unit :=
  changeStatusWith ensureAuthorizationAdminOrigin (fun d => !d.archived) .registryAlreadyArchived
    (fun d => { d with archived := true }) .archive .archive

def restore : T.Origin → T.Ss58Identifier → T.Ss58Identifier → CallM T Unit :=
  changeStatusWith ensureAuthorizationRestoreOrigin (fun d => d.archived) .registryNotArchived
    (fun d => { d with archived := false }) .restore .restore

def update (origin : T.Origin) (registryId : T.Ss58Identifier) (digest : T.Hash)
    (_blob : Option (BoundedVec UInt8 T.maxRegistryBlobSize)) (authorization : T.Ss58Identifier)
    : CallM T Unit := do
  let creator ← ensureOrigin (T.ensureSigned origin)
  let registry ← getRegistry registryId
  let authRegistryId ← ensureAuthorizationAdminOrigin authorization creator
  ensure (authRegistryId = registryId) .unauthorizedOperation
  insertRegistry registryId { registry with digest }
  updateActivity registryId .registries .update
  depositEvent (.update registryId creator authorization)

inductive Call (T : Config) where
  | addDelegate (registryId : T.Ss58Identifier) (delegate : T.AccountId)
      (authorization : T.Ss58Identifier)
  | addAdminDelegate (registryId : T.Ss58Identifier) (delegate : T.AccountId)
      (authorization : T.Ss58Identifier)
  | addDelegator (registryId : T.Ss58Identifier) (delegate : T.AccountId)
      (authorization : T.Ss58Identifier)
  | removeDelegate (registryId removeAuthorization authorization : T.Ss58Identifier)
  | create (registryId : T.Ss58Identifier) (digest : T.Hash) (schemaId : Option T.Ss58Identifier)
      (blob : Option (BoundedVec UInt8 T.maxRegistryBlobSize))
  | revoke (registryId authorization : T.Ss58Identifier)
  | reinstate (registryId authorization : T.Ss58Identifier)
  | update (registryId : T.Ss58Identifier) (digest : T.Hash)
      (blob : Option (BoundedVec UInt8 T.maxRegistryBlobSize)) (authorization : T.Ss58Identifier)
  | archive (registryId authorization : T.Ss58Identifier)
  | restore (registryId authorization : T.Ss58Identifier)

def Call.dispatch (origin : T.Origin) : Call T → CallM T Unit
  | .addDelegate registryId delegate authorization =>
    Registries.addDelegate origin registryId delegate authorization
  | .addAdminDelegate registryId delegate authorization =>
    Registries.addAdminDelegate origin registryId delegate authorization
  | .addDelegator registryId delegate authorization =>
    Registries.addDelegator origin registryId delegate authorization
  | .removeDelegate registryId removeAuthorization authorization =>
    Registries.removeDelegate origin registryId removeAuthorization authorization
  | .create registryId digest schemaId blob =>
    Registries.create origin registryId digest schemaId blob
  | .revoke registryId authorization => Registries.revoke origin registryId authorization
  | .reinstate registryId authorization => Registries.reinstate origin registryId authorization
  | .update registryId digest blob authorization =>
    Registries.update origin registryId digest blob authorization
  | .archive registryId authorization => Registries.archive origin registryId authorization
  | .restore registryId authorization => Registries.restore origin registryId authorization

structure Extrinsic (T : Config) where
  origin : T.Origin
  timepoint : Timepoint
  call : Call T

def Extrinsic.dispatch (ext : Extrinsic T) : CallM T Unit := do
  modify fun s => s.atTime ext.timepoint
  ext.call.dispatch ext.origin

def machine (T : Config) : Machine (State T) Error (Extrinsic T) where
  dispatch := Extrinsic.dispatch

end Registries
