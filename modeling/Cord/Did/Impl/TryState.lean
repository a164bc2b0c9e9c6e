import Cord.Did.Impl.Calls
import Cord.Frame.Iteration

/-!
This module contains the check of the storage of the DID pallet that is made after a runtime upgrade was
tried out.
-/

open Frame

namespace Did

variable {T : Config}

/--
What the check logs, the error that it returns is the same for all of them.
-/
inductive TryStateError (T : Config) where
  | notMatchingServiceEndpoints (did : T.DidIdentifier) (inServiceEndpoints : Nat)
      (inDidEndpointsCount : UInt32)
  | tooManyKeyAgreementKeys (did : T.DidIdentifier) (allowed found : Nat)
  | tooManyServiceEndpoints (did : T.DidIdentifier) (allowed : UInt32) (found : Nat)
  | blacklisted (did : T.DidIdentifier)
  | blacklistedHasServiceEndpoints (did : T.DidIdentifier)

def doTryState (didOrder : Multiset T.DidIdentifier → List T.DidIdentifier) (s : State T)
    : Except (TryStateError T) Unit := do
  for (didSubject, didDetails) in s.did.iter didOrder do
    let serviceEndpointsCount := (s.serviceEndpoints.iterPrefix T.endpointOrder didSubject).length
    unless serviceEndpointsCount = (s.didEndpointsCount.getD didSubject 0).toNat do
      throw (.notMatchingServiceEndpoints didSubject serviceEndpointsCount
        (s.didEndpointsCount.getD didSubject 0))
    unless didDetails.keyAgreementKeys.toFinset.card ≤ T.maxTotalKeyAgreementKeys do
      throw (.tooManyKeyAgreementKeys didSubject T.maxTotalKeyAgreementKeys
        didDetails.keyAgreementKeys.toFinset.card)
    unless serviceEndpointsCount ≤ T.maxNumberOfServicesPerDid.toNat do
      throw (.tooManyServiceEndpoints didSubject T.maxNumberOfServicesPerDid serviceEndpointsCount)
    unless !s.didBlacklist.containsKey didSubject do
      throw (.blacklisted didSubject)
  for deletedDidSubject in didOrder s.didBlacklist.keys do
    let serviceEndpointsCount :=
      (s.serviceEndpoints.iterPrefix T.endpointOrder deletedDidSubject).length
    unless serviceEndpointsCount = 0 do
      throw (.blacklistedHasServiceEndpoints deletedDidSubject)

end Did
