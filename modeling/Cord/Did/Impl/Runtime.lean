import Cord.Did.Impl.Calls

/-!
This module contains which calls of the runtime a DID can make, and with which of its keys. The
runtimes agree on this.
-/

open Frame

namespace Did

inductive ChainSpaceCall where
  | addDelegate
  | addAdminDelegate
  | addDelegator
  | removeDelegate
  | create
  | approve
  | archive
  | restore
  | updateTransactionCapacity
  | resetTransactionCount
  | approvalRevoke
  | approvalRestore
  | subspaceCreate
  | updateTransactionCapacitySub
  deriving DecidableEq, Repr

/--
What the runtime looks at in a call that is neither one of the DID pallet nor a batch.
-/
inductive PalletCall where
  | didName
  | schema
  | statement
  | networkScore
  | chainSpace (call : ChainSpaceCall)
  | other
  deriving DecidableEq, Repr

def PalletCall.deriveVerificationKeyRelationship
    : PalletCall → DeriveDidCallKeyRelationshipResult
  | .didName => .ok .authentication
  | .schema => .ok .authentication
  | .statement => .ok .authentication
  | .networkScore => .ok .authentication
  | .chainSpace .addDelegate => .ok .capabilityDelegation
  | .chainSpace .addAdminDelegate => .ok .capabilityDelegation
  | .chainSpace .addDelegator => .ok .capabilityDelegation
  | .chainSpace .removeDelegate => .ok .capabilityDelegation
  | .chainSpace .create => .ok .authentication
  | .chainSpace .archive => .ok .authentication
  | .chainSpace .restore => .ok .authentication
  | .chainSpace .subspaceCreate => .ok .authentication
  | .chainSpace .updateTransactionCapacity => .ok .authentication
  | .chainSpace .updateTransactionCapacitySub => .ok .authentication
  | _ => .error .notCallableByDid

/-
The configuration in which the calls of the other pallets are told apart by `pallet`.
-/
def Config.runtime (T : Config) (pallet : T.OtherCall → PalletCall) : Config :=
  { T with deriveOther := fun call => (pallet call).deriveVerificationKeyRelationship }

end Did
