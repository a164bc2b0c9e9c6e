import Cord.ChainSpace.Impl.Calls
import Cord.Did.Impl.Runtime

/-!
This module puts the DID pallet and the chain space pallet together: the creators of spaces are DIDs, and
the calls of the chain space pallet are among those that can be made under the authority of a DID. The
runtimes differ in the council only.
-/

open Frame

namespace ChainSpace

def Call.kind {T : Config} : Call T → Did.ChainSpaceCall
  | .addDelegate .. => .addDelegate
  | .addAdminDelegate .. => .addAdminDelegate
  | .addDelegator .. => .addDelegator
  | .removeDelegate .. => .removeDelegate
  | .create .. => .create
  | .approve .. => .approve
  | .archive .. => .archive
  | .restore .. => .restore
  | .updateTransactionCapacity .. => .updateTransactionCapacity
  | .resetTransactionCount .. => .resetTransactionCount
  | .approvalRevoke .. => .approvalRevoke
  | .approvalRestore .. => .approvalRestore
  | .subspaceCreate .. => .subspaceCreate
  | .updateTransactionCapacitySub .. => .updateTransactionCapacitySub

end ChainSpace

namespace Runtime

def councilOrigin {τ : Did.Types} (council : τ.OtherOrigin → Option Unit)
    : Did.Origin τ → Option Unit
  | .other origin => council origin
  | _ => none

/-
The configuration of the chain space pallet in a runtime with DIDs.
-/
abbrev spaceConfig (space : ChainSpace.Config) (τ : Did.Types)
    (encodeDid : τ.DidIdentifier → List UInt8) (council : τ.OtherOrigin → Option Unit)
    : ChainSpace.Config :=
  {
    space with
    Origin := Did.Origin τ
    SpaceCreatorId := τ.DidIdentifier
    decEqCreator := τ.decEqDid
    encodeCreator := encodeDid
    ensureOrigin := Did.ensureDidOrigin
    chainSpaceOrigin := councilOrigin council
  }

/--
A runtime with DIDs and spaces. `space?` yields the call of the chain space pallet that a call of the
runtime is, the storage of that pallet is a part of what the DID pallet does not look at.
-/
structure DidConfig where
  did : Did.Config
  space : ChainSpace.Config
  encodeDid : did.DidIdentifier → List UInt8
  council : did.OtherOrigin → Option Unit
  space? : did.OtherCall →
    Option (ChainSpace.Call (spaceConfig space did.toTypes encodeDid council))
  pallet : did.OtherCall → Did.PalletCall
  spaces : did.World → ChainSpace.State (spaceConfig space did.toTypes encodeDid council)
  setSpaces : ChainSpace.State (spaceConfig space did.toTypes encodeDid council) →
    did.World → did.World

namespace DidConfig

abbrev toSpace (R : DidConfig) : ChainSpace.Config :=
  spaceConfig R.space R.did.toTypes R.encodeDid R.council

variable (R : DidConfig)

def palletCall (call : R.did.OtherCall) : Did.PalletCall :=
  match R.space? call with
  | some call => .chainSpace call.kind
  | none => R.pallet call

def dispatchOther (call : R.did.OtherCall) (origin : Did.Origin R.did.toTypes) (world : R.did.World)
    : Option R.did.World :=
  match R.space? call with
  | some call =>
    match (call.dispatch origin).run (R.spaces world) with
    | .ok (_, s) => some (R.setSpaces s world)
    | .error _ => none
  | none => R.did.dispatchOther call origin world

abbrev toDid : Did.Config :=
  {
    R.did with
    dispatchOther := R.dispatchOther
    deriveOther := fun call => (R.palletCall call).deriveVerificationKeyRelationship
  }

end DidConfig

section Plain

/-
A runtime in which the calls of the chain space pallet are the numbers of a table. The calls are about the
space with code 10 of the DID with identifier 1, and about its sub space with code 20.
-/
abbrev plainTypes : Did.Types :=
  { Did.Config.plain.toTypes with OtherCall := UInt8 }

abbrev plainSpaces : ChainSpace.Config :=
  spaceConfig .plain plainTypes (fun did => did.toList) fun _ => some ()

def plainDid (n : UInt8) : Did.Bytes32 :=
  .replicate 32 n

def didSpace (code : UInt8) : List UInt8 :=
  0 :: code :: (plainDid 1).toList

def plainCall : UInt8 → Option (ChainSpace.Call plainSpaces)
  | 0 => some (.create [10])
  | 1 => some (.approve (didSpace 10) 100)
  | 2 => some (.subspaceCreate [20] (some 10) (didSpace 10))
  | 3 => some (.resetTransactionCount (didSpace 20))
  | _ => none

abbrev DidConfig.plain : DidConfig where
  did :=
    {
      Did.Config.plain with
      toTypes := plainTypes
      World := ChainSpace.State plainSpaces
      dispatchOther := fun _ _ world => some world
      deriveOther := fun _ => .error .notCallableByDid
      proxyOrigin := fun real _ => some (.signed real)
      encodeCreation := fun _ => []
      encodeOperation := fun _ => []
    }
  space := .plain
  encodeDid did := did.toList
  council _ := some ()
  space? := plainCall
  pallet _ := .other
  spaces := id
  setSpaces s _ := s

end Plain

end Runtime
