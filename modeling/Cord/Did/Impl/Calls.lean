import Cord.Did.Impl.Basic

/-!
This module contains the dispatchable calls of the DID pallet, and the dispatch of the calls that
are made under the authority of a DID.
-/

open Frame

namespace Did

variable {T : Config}

mutual

def RuntimeCall.deriveVerificationKeyRelationship (T : Config)
    : RuntimeCall T.toTypes → DeriveDidCallKeyRelationshipResult
  | .did (.create _ _) => .error .notCallableByDid
  | .did _ => .ok .authentication
  | .utility _ calls => singleKeyRelationship T calls
  | .proxied _ _ => .error .notCallableByDid
  | .other call => T.deriveOther call

def singleKeyRelationship (T : Config)
    : List (RuntimeCall T.toTypes) → DeriveDidCallKeyRelationshipResult
  | [] => .error .invalidCallParameter
  | call :: calls =>
    match call.deriveVerificationKeyRelationship T with
    | .ok init => sameKeyRelationship T init calls
    | .error err => .error err

def sameKeyRelationship (T : Config) (acc : DidVerificationKeyRelationship)
    : List (RuntimeCall T.toTypes) → DeriveDidCallKeyRelationshipResult
  | [] => .ok acc
  | call :: calls =>
    if call.deriveVerificationKeyRelationship T = .ok acc then
      sameKeyRelationship T acc calls
    else
      .error .invalidCallParameter

end

namespace DidVerificationKey

def verifySignature (T : Config) (key : DidVerificationKey T.AccountId) (payload : Payload)
    (signature : DidSignature) : Except SignatureError Unit :=
  match key, signature with
  | .ed25519 key, .ed25519 sig =>
    if T.verifyEd25519 sig payload key then .ok () else .error .invalidData
  | .sr25519 key, .sr25519 sig =>
    if T.verifySr25519 sig payload key then .ok () else .error .invalidData
  | .ecdsa key, .ecdsa sig =>
    if T.verifyEcdsa sig payload key then .ok () else .error .invalidData
  | _, _ => .error .invalidFormat

def intoAccount (T : Config) (key : DidVerificationKey T.AccountId) : T.AccountId :=
  let bytes :=
    match key with
    | .ed25519 key => key
    | .sr25519 key => key
    | .ecdsa key => T.blake2 key.toList
    | .account id => T.accountBytes id
  T.accountOfBytes bytes

end DidVerificationKey

def verifyAndRecoverSignature (T : Config) (did : T.DidIdentifier) (payload : Payload)
    (signature : DidSignature) : Except SignatureError (DidVerificationKey T.AccountId) := do
  -- The key that a DID is created with is the one its identifier stands for: the identifier is
  -- the raw public key, or the hash of an ECDSA key.
  let rawPublicKey := T.didBytes did
  match signature with
  | .ed25519 _ =>
    DidVerificationKey.verifySignature T (.ed25519 rawPublicKey) payload signature
    return .ed25519 rawPublicKey
  | .sr25519 _ =>
    DidVerificationKey.verifySignature T (.sr25519 rawPublicKey) payload signature
    return .sr25519 rawPublicKey
  | .ecdsa sig =>
    match T.ecdsaRecover sig (T.blake2 payload) with
    | some recoveredPk =>
      if T.blake2 recoveredPk.toList = rawPublicKey then
        return .ecdsa recoveredPk
      else
        throw .invalidData
    | none => throw .invalidData

def testUriBase : List UInt8 :=
  "did:cord:test-did".toUTF8.toList

def isValidUriFragment (T : Config) (input : List UInt8) : Bool :=
  -- `is_valid_uri_fragment`. Texts are bytes here, `isValidUri` does not accept what is not
  -- UTF-8.
  T.isValidUri (testUriBase ++ "#".toUTF8.toList ++ input)

def isValidAsciiString (input : List UInt8) : Bool :=
  input.all fun c => c < 128

def DidEndpoint.validateAgainstConstraints (endpoint : DidEndpoint T.toTypes)
    : Except InputError Unit := do
  -- The length checks repeat the bounds of the types.
  unless endpoint.serviceTypes.toList.length ≤ T.maxNumberOfTypesPerService do
    throw .maxTypeCountExceeded
  unless endpoint.urls.toList.length ≤ T.maxNumberOfUrlsPerService do
    throw .maxUrlCountExceeded
  unless endpoint.id.toList.length ≤ T.maxServiceIdLength do
    throw .maxIdLengthExceeded
  unless isValidUriFragment T endpoint.id.toList do
    throw .invalidEncoding
  for sType in endpoint.serviceTypes.toList do
    unless sType.toList.length ≤ T.maxServiceTypeLength do
      throw .maxTypeLengthExceeded
    unless isValidAsciiString sType.toList do
      throw .invalidEncoding
  for sUrl in endpoint.urls.toList do
    unless sUrl.toList.length ≤ T.maxServiceUrlLength do
      throw .maxUrlLengthExceeded
    unless T.isValidUri sUrl.toList do
      throw .invalidEncoding

def validateNewServiceEndpoints (endpoints : List (DidEndpoint T.toTypes))
    : Except InputError Unit := do
  unless endpoints.length ≤ T.maxNumberOfServicesPerDid.toNat do
    throw .maxServicesCountExceeded
  for endpoint in endpoints do
    endpoint.validateAgainstConstraints

def updateIfGiven (key : Option (DidVerificationKey T.AccountId))
    (update : DidVerificationKey T.AccountId → Except StorageError (DidDetails T.toTypes))
    (didDetails : DidDetails T.toTypes) : Except DidError (DidDetails T.toTypes) :=
  match key with
  | some key => (update key).mapError .storage
  | none => pure didDetails

def newWithCreationDetails (T : Config) (details : DidCreationDetails T.toTypes)
    (newAuthKey : DidVerificationKey T.AccountId) (blockNumber : UInt32)
    : Except DidError (DidDetails T.toTypes) := do
  unless details.newKeyAgreementKeys.toList.length ≤ T.maxNewKeyAgreementKeys do
    throw (.input .maxKeyAgreementKeysLimitExceeded)
  let didDetails ← (DidDetails.new (calculateKeyId T) newAuthKey blockNumber).mapError .storage
  let didDetails ← (didDetails.addKeyAgreementKeys (calculateKeyId T)
    details.newKeyAgreementKeys.toList blockNumber).mapError .storage
  let didDetails ← updateIfGiven details.newAssertionKey
    (didDetails.updateAssertionKey (calculateKeyId T) · blockNumber) didDetails
  updateIfGiven details.newDelegationKey
    (didDetails.updateDelegationKey (calculateKeyId T) · blockNumber) didDetails

def depositEvent (event : Event T.toTypes) : CallM T Unit :=
  modify fun s => { s with events := s.events ++ [event] }

def getDid (did : T.DidIdentifier) : CallM T (DidDetails T.toTypes) := do
  okOr ((← get).did.get did) .notFound

def tryInsertDid (did : T.DidIdentifier) (didEntry : DidDetails T.toTypes) (sender : T.AccountId)
    : CallM T Unit := do
  ensure (!(← get).didBlacklist.containsKey did) .alreadyDeleted
  ensure (!(← get).did.containsKey did) .alreadyExists
  modify fun s => { s with did := s.did.insert did didEntry }
  depositEvent (.created sender did)

def tryUpdateDid (did : T.DidIdentifier) (didDetails : DidDetails T.toTypes) : CallM T Unit :=
  modify fun s => { s with did := s.did.insert did didDetails }

def create (origin : Origin T.toTypes) (details : DidCreationDetails T.toTypes)
    (signature : DidSignature) : CallM T Unit := do
  let sender ← ensureOrigin (ensureSigned origin)
  ensureOrigin (if sender = details.submitter then some () else none)
  let accountDidAuthKey ← mapErr SignatureError.toError
    (verifyAndRecoverSignature T details.did (T.encodeCreation details) signature)
  mapErr InputError.toError (validateNewServiceEndpoints details.newServiceDetails)
  modify fun s =>
    {
      s with
      serviceEndpoints := details.newServiceDetails.foldl
        (fun endpoints service => endpoints.insert (details.did, service.id) service)
        s.serviceEndpoints
      didEndpointsCount :=
        s.didEndpointsCount.insert details.did details.newServiceDetails.length.toUInt32
    }
  let didEntry ← mapErr DidError.toError
    (newWithCreationDetails T details accountDidAuthKey (← get).blockNumber)
  tryInsertDid details.did didEntry sender

def createFromAccount (origin : Origin T.toTypes)
    (authenticationKey : DidVerificationKey T.AccountId) : CallM T Unit := do
  let sender ← ensureOrigin (ensureSigned origin)
  let didEntry ← mapErr StorageError.toError
    (DidDetails.new (calculateKeyId T) authenticationKey (← get).blockNumber)
  tryInsertDid (T.didOfAccount sender) didEntry sender

def updateDetails (origin : Origin T.toTypes)
    (update : DidDetails T.toTypes → UInt32 → Except StorageError (DidDetails T.toTypes))
    : CallM T Unit := do
  let didSubject ← ensureOrigin (ensureDidOrigin origin)
  let didDetails ← getDid didSubject
  let didDetails ← mapErr StorageError.toError (update didDetails (← get).blockNumber)
  tryUpdateDid didSubject didDetails
  depositEvent (.updated didSubject)

def setAuthenticationKey (origin : Origin T.toTypes) (newKey : DidVerificationKey T.AccountId)
    : CallM T Unit :=
  updateDetails origin fun d block => d.updateAuthenticationKey (calculateKeyId T) newKey block

def setDelegationKey (origin : Origin T.toTypes) (newKey : DidVerificationKey T.AccountId)
    : CallM T Unit :=
  updateDetails origin fun d block => d.updateDelegationKey (calculateKeyId T) newKey block

def removeDelegationKey (origin : Origin T.toTypes) : CallM T Unit :=
  updateDetails origin fun d _ => d.removeDelegationKey

def setAssertionKey (origin : Origin T.toTypes) (newKey : DidVerificationKey T.AccountId)
    : CallM T Unit :=
  updateDetails origin fun d block => d.updateAssertionKey (calculateKeyId T) newKey block

def removeAssertionKey (origin : Origin T.toTypes) : CallM T Unit :=
  updateDetails origin fun d _ => d.removeAssertionKey

def addKeyAgreementKey (origin : Origin T.toTypes) (newKey : DidEncryptionKey) : CallM T Unit :=
  updateDetails origin fun d block => d.addKeyAgreementKey (calculateKeyId T) newKey block

def removeKeyAgreementKey (origin : Origin T.toTypes) (keyId : T.KeyId) : CallM T Unit :=
  updateDetails origin fun d _ => d.removeKeyAgreementKey keyId

def addServiceEndpoint (origin : Origin T.toTypes) (serviceEndpoint : DidEndpoint T.toTypes)
    : CallM T Unit := do
  let didSubject ← ensureOrigin (ensureDidOrigin origin)
  mapErr InputError.toError serviceEndpoint.validateAgainstConstraints
  let didDetails ← getDid didSubject
  let currentlyStored := (← get).didEndpointsCount.getD didSubject 0
  ensure (currentlyStored < T.maxNumberOfServicesPerDid) .maxNumberOfServicesExceeded
  ensure (!(← get).serviceEndpoints.containsKey (didSubject, serviceEndpoint.id))
    .serviceAlreadyExists
  modify fun s =>
    {
      s with
      serviceEndpoints :=
        s.serviceEndpoints.insert (didSubject, serviceEndpoint.id) serviceEndpoint
      didEndpointsCount := s.didEndpointsCount.insert didSubject (saturatingAdd32 currentlyStored 1)
    }
  tryUpdateDid didSubject didDetails
  depositEvent (.updated didSubject)

def removeServiceEndpoint (origin : Origin T.toTypes)
    (serviceId : BoundedVec UInt8 T.maxServiceIdLength) : CallM T Unit := do
  let didSubject ← ensureOrigin (ensureDidOrigin origin)
  let didDetails ← getDid didSubject
  ensure ((← get).serviceEndpoints.containsKey (didSubject, serviceId)) .serviceNotFound
  let newValue := saturatingSub32 ((← get).didEndpointsCount.getD didSubject 0) 1
  modify fun s =>
    {
      s with
      serviceEndpoints := s.serviceEndpoints.remove (didSubject, serviceId)
      didEndpointsCount :=
        if newValue = 0 then
          s.didEndpointsCount.remove didSubject
        else
          s.didEndpointsCount.insert didSubject newValue
    }
  tryUpdateDid didSubject didDetails
  depositEvent (.updated didSubject)

def deleteDid (didSubject : T.DidIdentifier) (endpointsToRemove : UInt32) : CallM T Unit := do
  -- `clear_prefix` returns a cursor if there are more entries than it was asked to remove.
  let currentEndpointsCount := (← get).didEndpointsCount.getD didSubject 0
  ensure (currentEndpointsCount ≤ endpointsToRemove) .maxStoredEndpointsCountExceeded
  let stored := (← get).serviceEndpoints.prefixKeys didSubject
  modify fun s =>
    {
      s with
      serviceEndpoints :=
        s.serviceEndpoints.clearPrefix T.endpointOrder didSubject currentEndpointsCount.toNat
    }
  ensure (stored.card ≤ currentEndpointsCount.toNat) .internal
  let _didEntry ← getDid didSubject
  modify fun s =>
    {
      s with
      did := s.did.remove didSubject
      didEndpointsCount := s.didEndpointsCount.remove didSubject
      didBlacklist := s.didBlacklist.insert didSubject ()
    }
  depositEvent (.deleted didSubject)

def delete (origin : Origin T.toTypes) (endpointsToRemove : UInt32) : CallM T Unit := do
  let didSubject ← ensureOrigin (ensureDidOrigin origin)
  deleteDid didSubject endpointsToRemove

def validateBlockNumberValue (blockNumber : UInt32) : CallM T Unit := do
  let currentBlockNumber := (← get).blockNumber
  ensure
    (blockNumber ≤ currentBlockNumber ∧
      currentBlockNumber ≤ saturatingAdd32 blockNumber T.maxBlocksTxValidity)
    (SignatureError.toError .transactionExpired)

def validateCounterValue (counter : UInt64) (didDetails : DidDetails T.toTypes) : CallM T Unit :=
  ensure (counter = didDetails.lastTxCounter + 1) (SignatureError.toError .invalidNonce)

def getVerificationKey (didDetails : DidDetails T.toTypes)
    (keyType : DidVerificationKeyRelationship) : CallM T (DidVerificationKey T.AccountId) :=
  okOr (didDetails.getVerificationKeyForKeyType keyType)
    (StorageError.toError (.notFound (.key keyType.toKeyType)))

def verifyPayloadSignatureWithDidKeyType (payload : Payload) (signature : DidSignature)
    (didDetails : DidDetails T.toTypes) (keyType : DidVerificationKeyRelationship)
    : CallM T Unit := do
  let verificationKey ← getVerificationKey didDetails keyType
  mapErr SignatureError.toError (verificationKey.verifySignature T payload signature)

def verifyDidOperationSignatureAndIncreaseNonce
    (operation : DidAuthorizedCallOperation T.toTypes)
    (verificationKeyRelationship : DidVerificationKeyRelationship) (signature : DidSignature)
    : CallM T Unit := do
  validateBlockNumberValue operation.blockNumber
  let didDetails ← getDid operation.did
  validateCounterValue operation.txCounter didDetails
  let didDetails := didDetails.increaseTxCounter
  verifyPayloadSignatureWithDidKeyType (T.encodeOperation operation) signature didDetails
    verificationKeyRelationship
  modify fun s => { s with did := s.did.insert operation.did didDetails }

def verifyAccountAuthorization (didIdentifier : T.DidIdentifier) (submitterAccount : T.AccountId)
    (verificationKeyRelationship : DidVerificationKeyRelationship) : CallM T Unit := do
  let didDetails ← getDid didIdentifier
  let verificationKey ← getVerificationKey didDetails verificationKeyRelationship
  ensure (submitterAccount = verificationKey.intoAccount T) (SignatureError.toError .invalidData)

def authorizeDidCall (origin : Origin T.toTypes) (operation : DidAuthorizedCallOperation T.toTypes)
    (signature : DidSignature) : CallM T Unit := do
  let who ← ensureOrigin (ensureSigned origin)
  ensure (operation.submitter = who) .badDidOrigin
  let relationship ← mapErr RelationshipDeriveError.toError
    (operation.call.deriveVerificationKeyRelationship T)
  verifyDidOperationSignatureAndIncreaseNonce operation relationship signature

def completeDidCall (operation : DidAuthorizedCallOperation T.toTypes) : CallM T Unit := do
  -- What `submit_did_call` does after the call was dispatched successfully. The record of
  -- accepted operations is the only thing that the code does not have.
  depositEvent (.callDispatched operation.did)
  modify fun s => { s with accepted := s.accepted ++ [operation] }

def authorizeDispatchAs (origin : Origin T.toTypes) (didIdentifier : T.DidIdentifier)
    (call : RuntimeCall T.toTypes) : CallM T T.AccountId := do
  let who ← ensureOrigin (ensureSigned origin)
  let relationship ← mapErr RelationshipDeriveError.toError
    (call.deriveVerificationKeyRelationship T)
  verifyAccountAuthorization didIdentifier who relationship
  return who

def dispatchOther (origin : Origin T.toTypes) (call : T.OtherCall) : CallM T Unit := do
  let world ← okOr (T.dispatchOther call origin (← get).world) .other
  modify fun s => { s with world }

mutual

def RuntimeCall.dispatch (origin : Origin T.toTypes) : RuntimeCall T.toTypes → CallM T Unit
  | .did call => call.dispatch origin
  | .utility kind calls => do
    ensure (calls.length ≤ T.batchedCallsLimit) .tooManyCalls
    dispatchBatch origin kind calls
  | .proxied proxy call => do
    let origin ← ensureOrigin (T.proxyOrigin proxy origin)
    let result ← attempt (call.dispatch origin)
    ensure (result.isNone ∨ T.proxyIgnoresError proxy) .other
  | .other call => dispatchOther origin call

def dispatchBatch (origin : Origin T.toTypes) (kind : BatchKind)
    : List (RuntimeCall T.toTypes) → CallM T Unit
  -- A failed call ends `batch`, fails `batch_all` and is skipped by `force_batch`.
  | [] => return ()
  | call :: calls => do
    let result ← attempt (call.dispatch origin)
    match result, kind with
    | none, _ => dispatchBatch origin kind calls
    | some _, .batch => return ()
    | some err, .batchAll => throw err
    | some _, .forceBatch => dispatchBatch origin kind calls

def Call.dispatch (origin : Origin T.toTypes) : Call T.toTypes → CallM T Unit
  | .create details signature => Did.create origin details signature
  | .setAuthenticationKey newKey => Did.setAuthenticationKey origin newKey
  | .setDelegationKey newKey => Did.setDelegationKey origin newKey
  | .removeDelegationKey => Did.removeDelegationKey origin
  | .setAssertionKey newKey => Did.setAssertionKey origin newKey
  | .removeAssertionKey => Did.removeAssertionKey origin
  | .addKeyAgreementKey newKey => Did.addKeyAgreementKey origin newKey
  | .removeKeyAgreementKey keyId => Did.removeKeyAgreementKey origin keyId
  | .addServiceEndpoint serviceEndpoint => Did.addServiceEndpoint origin serviceEndpoint
  | .removeServiceEndpoint serviceId => Did.removeServiceEndpoint origin serviceId
  | .delete endpointsToRemove => Did.delete origin endpointsToRemove
  | .submitDidCall did txCounter call blockNumber submitter signature => do
    let operation := { did, txCounter, call, blockNumber, submitter }
    authorizeDidCall origin operation signature
    call.dispatch (.did did submitter)
    completeDidCall operation
  | .dispatchAs didIdentifier call => do
    let who ← authorizeDispatchAs origin didIdentifier call
    call.dispatch (.did didIdentifier who)
    depositEvent (.callDispatched didIdentifier)
  | .createFromAccount authenticationKey => Did.createFromAccount origin authenticationKey

end

structure Extrinsic (T : Config) where
  origin : Origin T.toTypes
  blockNumber : UInt32
  call : RuntimeCall T.toTypes

def Extrinsic.dispatch (ext : Extrinsic T) : CallM T Unit := do
  modify fun s => { s with blockNumber := ext.blockNumber }
  ext.call.dispatch ext.origin

def machine (T : Config) : Machine (State T) Error (Extrinsic T) where
  dispatch := Extrinsic.dispatch

end Did
