import Cord.Did.Impl.Calls
import Cord.DidName.Impl.Calls
import Cord.Frame.Iteration
import Cord.Runtime.Impl.Did

/-!
This module puts the DID pallet and the DID name pallet together, and contains the runtime interface by
which clients look up a DID: by its identifier, or by its name.
-/

open Frame

namespace Runtime

/-
The configuration of the DID name pallet in a runtime with DIDs.
-/
abbrev nameConfig (τ : Did.Types) (minNameLength maxNameLength maxPrefixLength : UInt32)
    (banOrigin : τ.OtherOrigin → Option Unit) : DidName.Config where
  Origin := Did.Origin τ
  DidNameOwner := τ.DidIdentifier
  decEqOwner := τ.decEqDid
  Name := DidName.AsciiDidName maxNameLength
  decEqName := inferInstance
  maxNameLength
  tryFrom := DidName.AsciiDidName.tryFrom minNameLength maxNameLength maxPrefixLength
  ensureOrigin := Did.ensureDidOrigin
  banOrigin := councilOrigin banOrigin

/--
A runtime with DIDs and names. `name?` yields the call of the DID name pallet that a call of the runtime is.
The number of the current block is kept by a pallet that is not modelled.
-/
structure NameConfig where
  did : Did.Config
  minNameLength : UInt32
  maxNameLength : UInt32
  maxPrefixLength : UInt32
  banOrigin : did.OtherOrigin → Option Unit
  name? : did.OtherCall → Option (DidName.Call
    (nameConfig did.toTypes minNameLength maxNameLength maxPrefixLength banOrigin))
  blockNumber : did.World → UInt32

namespace NameConfig

abbrev toName (R : NameConfig) : DidName.Config :=
  nameConfig R.did.toTypes R.minNameLength R.maxNameLength R.maxPrefixLength R.banOrigin

variable (R : NameConfig)

abbrev World : Type := DidName.State R.toName × R.did.World

def dispatchOther (call : R.did.OtherCall) (origin : Did.Origin R.did.toTypes) (world : R.World)
    : Option R.World :=
  match R.name? call with
  | some call =>
    match (call.dispatch origin).run { world.1 with blockNumber := R.blockNumber world.2 } with
    | .ok (_, names) => some (names, world.2)
    | .error _ => none
  | none => (R.did.dispatchOther call origin world.2).map fun rest => (world.1, rest)

abbrev toDid : Did.Config :=
  { R.did with World := R.World, dispatchOther := R.dispatchOther }

end NameConfig

section Types

structure ServiceEndpoint where
  id : List UInt8
  serviceTypes : List (List UInt8)
  urls : List (List UInt8)
  deriving DecidableEq

def ServiceEndpoint.ofDidEndpoint {τ : Did.Types} (runtimeEndpoint : Did.DidEndpoint τ)
    : ServiceEndpoint where
  id := runtimeEndpoint.id.toList
  serviceTypes := runtimeEndpoint.serviceTypes.toList.map BoundedVec.toList
  urls := runtimeEndpoint.urls.toList.map BoundedVec.toList

structure DidDetails (τ : Did.Types) where
  authenticationKey : τ.KeyId
  keyAgreementKeys : Finset τ.KeyId
  delegationKey : Option τ.KeyId
  assertionKey : Option τ.KeyId
  publicKeys : StorageMap τ.KeyId (Did.DidPublicKeyDetails τ.AccountId)
  lastTxCounter : UInt64

def DidDetails.ofDetails {τ : Did.Types} (didDetails : Did.DidDetails τ) : DidDetails τ where
  authenticationKey := didDetails.authenticationKey
  keyAgreementKeys := didDetails.keyAgreementKeys.toFinset
  delegationKey := didDetails.delegationKey
  assertionKey := didDetails.assertionKey
  publicKeys := didDetails.publicKeys.toMap
  lastTxCounter := didDetails.lastTxCounter

/--
The account of a DID is its identifier, they have the same type in the runtimes.
-/
structure RawDidLinkedInfo (τ : Did.Types) where
  identifier : τ.DidIdentifier
  account : τ.DidIdentifier
  name : Option (List UInt8)
  serviceEndpoints : List ServiceEndpoint
  details : DidDetails τ

end Types

namespace NameConfig

variable (R : NameConfig)

def query (s : Did.State R.toDid) (did : R.did.DidIdentifier)
    : Option (RawDidLinkedInfo R.did.toTypes) := do
  let details ← s.did.get did
  let name := (s.world.1.names.get did).map BoundedVec.toList
  let serviceEndpoints := (s.serviceEndpoints.iterPrefix R.did.endpointOrder did).map
    fun e => ServiceEndpoint.ofDidEndpoint e.2
  return {
    identifier := did
    account := did
    name
    serviceEndpoints
    details := .ofDetails details
  }

def queryByName (s : Did.State R.toDid) (name : List UInt8)
    : Option (RawDidLinkedInfo R.did.toTypes) := do
  let dname ← (R.toName.tryFrom name).toOption
  let ownerInfo ← s.world.1.owner.get dname
  let details ← s.did.get ownerInfo.owner
  let serviceEndpoints :=
    (s.serviceEndpoints.iterPrefix R.did.endpointOrder ownerInfo.owner).map
      fun e => ServiceEndpoint.ofDidEndpoint e.2
  return {
    identifier := ownerInfo.owner
    account := ownerInfo.owner
    name := some dname.toList
    serviceEndpoints
    details := .ofDetails details
  }

end NameConfig

end Runtime
