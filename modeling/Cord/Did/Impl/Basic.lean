import Cord.Did.Impl.Keys
import Cord.Frame.Machine
import Cord.Frame.Sort

/-!
This module contains the data model of the DID pallet: service endpoints, the calls that can be made
under the authority of a DID, and the storage of the pallet.
-/

open Frame

namespace Did

structure DidEndpoint (τ : Types) where
  id : BoundedVec UInt8 τ.maxServiceIdLength
  serviceTypes :
    BoundedVec (BoundedVec UInt8 τ.maxServiceTypeLength) τ.maxNumberOfTypesPerService
  urls : BoundedVec (BoundedVec UInt8 τ.maxServiceUrlLength) τ.maxNumberOfUrlsPerService
  deriving DecidableEq

/--
The new key agreement keys are a set, the list has its elements in the order they are visited.
-/
structure DidCreationDetails (τ : Types) where
  did : τ.DidIdentifier
  submitter : τ.AccountId
  newKeyAgreementKeys : BoundedVec DidEncryptionKey τ.maxNewKeyAgreementKeys
  newAssertionKey : Option (DidVerificationKey τ.AccountId)
  newDelegationKey : Option (DidVerificationKey τ.AccountId)
  newServiceDetails : List (DidEndpoint τ)

inductive BatchKind where
  | batch
  | batchAll
  | forceBatch
  deriving DecidableEq, Repr

mutual

/--
A call of the runtime, as far as the DID pallet can tell them apart: its own calls, the batches of
the utility pallet, calls of other pallets that dispatch a call, and all others.
-/
inductive RuntimeCall (τ : Types) where
  | did (call : Call τ)
  | utility (kind : BatchKind) (calls : List (RuntimeCall τ))
  | proxied (proxy : τ.Proxy) (call : RuntimeCall τ)
  | other (call : τ.OtherCall)

/--
The arguments of `submit_did_call` are the fields of a `DidAuthorizedCallOperation` and a signature.
-/
inductive Call (τ : Types) where
  | create (details : DidCreationDetails τ) (signature : DidSignature)
  | setAuthenticationKey (newKey : DidVerificationKey τ.AccountId)
  | setDelegationKey (newKey : DidVerificationKey τ.AccountId)
  | removeDelegationKey
  | setAssertionKey (newKey : DidVerificationKey τ.AccountId)
  | removeAssertionKey
  | addKeyAgreementKey (newKey : DidEncryptionKey)
  | removeKeyAgreementKey (keyId : τ.KeyId)
  | addServiceEndpoint (serviceEndpoint : DidEndpoint τ)
  | removeServiceEndpoint (serviceId : BoundedVec UInt8 τ.maxServiceIdLength)
  | delete (endpointsToRemove : UInt32)
  | submitDidCall (did : τ.DidIdentifier) (txCounter : UInt64) (call : RuntimeCall τ)
      (blockNumber : UInt32) (submitter : τ.AccountId) (signature : DidSignature)
  | dispatchAs (didIdentifier : τ.DidIdentifier) (call : RuntimeCall τ)
  | createFromAccount (authenticationKey : DidVerificationKey τ.AccountId)

end

structure DidAuthorizedCallOperation (τ : Types) where
  did : τ.DidIdentifier
  txCounter : UInt64
  call : RuntimeCall τ
  blockNumber : UInt32
  submitter : τ.AccountId

inductive Origin (τ : Types) where
  | signed (who : τ.AccountId)
  | did (id : τ.DidIdentifier) (submitter : τ.AccountId)
  | other (origin : τ.OtherOrigin)

def ensureSigned {τ : Types} : Origin τ → Option τ.AccountId
  | .signed who => some who
  | _ => none

def ensureDidOrigin {τ : Types} : Origin τ → Option τ.DidIdentifier
  | .did id _ => some id
  | _ => none

inductive RelationshipDeriveError where
  | notCallableByDid
  | invalidCallParameter
  deriving DecidableEq, Repr

abbrev DeriveDidCallKeyRelationshipResult :=
  Except RelationshipDeriveError DidVerificationKeyRelationship

/--
What the runtime provides to the DID pallet. Signature verification, hashing, encodings and URI
parsing are library functions. The endpoints of a DID are visited in the order of the hashed keys, of
which nothing is known. `World` is the storage of all other pallets, the DID pallet does not
look at it and no other pallet writes the storage of the DID pallet.
-/
structure Config extends Types where
  World : Type
  dispatchOther : OtherCall → Origin toTypes → World → Option World
  deriveOther : OtherCall → DeriveDidCallKeyRelationshipResult
  proxyOrigin : Proxy → Origin toTypes → Option (Origin toTypes)
  proxyIgnoresError : Proxy → Bool
  batchedCallsLimit : Nat
  accountBytes : AccountId → Bytes32
  accountOfBytes : Bytes32 → AccountId
  didBytes : DidIdentifier → Bytes32
  didOfAccount : AccountId → DidIdentifier
  hash : List UInt8 → KeyId
  encodePublicKey : DidPublicKey AccountId → List UInt8
  blake2 : List UInt8 → Bytes32
  verifyEd25519 : Vector UInt8 64 → Payload → Bytes32 → Bool
  verifySr25519 : Vector UInt8 64 → Payload → Bytes32 → Bool
  verifyEcdsa : Vector UInt8 65 → Payload → Bytes33 → Bool
  ecdsaRecover : Vector UInt8 65 → Bytes32 → Option Bytes33
  encodeCreation : DidCreationDetails toTypes → Payload
  encodeOperation : DidAuthorizedCallOperation toTypes → Payload
  isValidUri : List UInt8 → Bool
  maxBlocksTxValidity : UInt32
  maxNumberOfServicesPerDid : UInt32
  endpointOrder : Multiset (BoundedVec UInt8 maxServiceIdLength) →
    List (BoundedVec UInt8 maxServiceIdLength)
  endpointOrder_eq : ∀ ids, Multiset.ofList (endpointOrder ids) = ids

def calculateKeyId (T : Config) (key : DidPublicKey T.AccountId) : T.KeyId :=
  T.hash (T.encodePublicKey key)

def isHexDigit (byte : UInt8) : Bool :=
  48 ≤ byte && byte ≤ 57 || 65 ≤ byte && byte ≤ 70 || 97 ≤ byte && byte ≤ 102

def isUriCharacter (byte : UInt8) : Bool :=
  48 ≤ byte && byte ≤ 57 || 65 ≤ byte && byte ≤ 90 || 97 ≤ byte && byte ≤ 122 ||
    "-._~!$&'()*+,;=:@/?".toUTF8.toList.contains byte

/--
Whether all characters and percent escapes of a text are those of a URI, and at most one `#` starts a
fragment. How they make up a scheme and an authority is not looked at.
-/
def isUriText (inFragment : Bool) : List UInt8 → Bool
  | [] => true
  | byte :: rest =>
    if byte = 35 then
      !inFragment && isUriText true rest
    else if byte = 37 then
      match rest with
      | high :: low :: rest => isHexDigit high && isHexDigit low && isUriText inFragment rest
      | _ => false
    else
      isUriCharacter byte && isUriText inFragment rest

/--
A small instance of the configuration with the bounds of the runtime. Nothing is lost by hashing,
every signature is valid, a proxy makes the calls of the account it was given, and of a URI the
characters are checked.
-/
abbrev Config.plain : Config where
  AccountId := Bytes32
  DidIdentifier := Bytes32
  KeyId := List UInt8
  OtherOrigin := Unit
  OtherCall := Unit
  Proxy := Bytes32
  maxPublicKeysPerDid := 20
  maxNewKeyAgreementKeys := 10
  maxTotalKeyAgreementKeys := 19
  maxServiceIdLength := 50
  maxServiceTypeLength := 50
  maxNumberOfTypesPerService := 1
  maxServiceUrlLength := 200
  maxNumberOfUrlsPerService := 1
  World := Unit
  dispatchOther _ _ world := some world
  deriveOther _ := .ok .assertionMethod
  proxyOrigin real _ := some (.signed real)
  proxyIgnoresError _ := true
  batchedCallsLimit := 100
  accountBytes := id
  accountOfBytes := id
  didBytes := id
  didOfAccount := id
  hash := id
  encodePublicKey key :=
    match key with
    | .publicVerificationKey (.ed25519 key) => 0 :: 0 :: key.toList
    | .publicVerificationKey (.sr25519 key) => 0 :: 1 :: key.toList
    | .publicVerificationKey (.ecdsa key) => 0 :: 2 :: key.toList
    | .publicVerificationKey (.account id) => 0 :: 3 :: id.toList
    | .publicEncryptionKey (.x25519 key) => 1 :: 0 :: key.toList
  blake2 _ := .replicate 32 0
  verifyEd25519 _ _ _ := true
  verifySr25519 _ _ _ := true
  verifyEcdsa _ _ _ := true
  ecdsaRecover _ _ := none
  encodeCreation _ := []
  encodeOperation _ := []
  isValidUri := isUriText false
  maxBlocksTxValidity := 1200
  maxNumberOfServicesPerDid := 25
  endpointOrder := sortByBytes BoundedVec.toList BoundedVec.toList_injective
  endpointOrder_eq := sortByBytes_eq BoundedVec.toList BoundedVec.toList_injective

inductive Error where
  | invalidSignatureFormat
  | invalidSignature
  | alreadyExists
  | notFound
  | verificationKeyNotFound
  | invalidNonce
  | unsupportedDidAuthorizationCall
  | invalidDidAuthorizationCall
  | maxNewKeyAgreementKeysLimitExceeded
  | maxPublicKeysExceeded
  | maxKeyAgreementKeysExceeded
  | badDidOrigin
  | transactionExpired
  | alreadyDeleted
  | maxNumberOfServicesExceeded
  | maxServiceIdLengthExceeded
  | maxServiceTypeLengthExceeded
  | maxNumberOfTypesPerServiceExceeded
  | maxServiceUrlLengthExceeded
  | maxNumberOfUrlsPerServiceExceeded
  | serviceAlreadyExists
  | serviceNotFound
  | invalidServiceEncoding
  | maxStoredEndpointsCountExceeded
  | internal
  | tooManyCalls
  | other
  deriving DecidableEq, Repr

def StorageError.toError : StorageError → Error
  | .notFound .did => .notFound
  | .notFound (.key _) => .verificationKeyNotFound
  | .alreadyExists => .alreadyExists
  | .maxPublicKeysExceeded => .maxPublicKeysExceeded
  | .maxTotalKeyAgreementKeysExceeded => .maxKeyAgreementKeysExceeded
  | .alreadyDeleted => .alreadyDeleted

def SignatureError.toError : SignatureError → Error
  | .invalidData => .invalidSignature
  | .invalidFormat => .invalidSignatureFormat
  | .invalidNonce => .invalidNonce
  | .transactionExpired => .transactionExpired

def InputError.toError : InputError → Error
  | .maxKeyAgreementKeysLimitExceeded => .maxNewKeyAgreementKeysLimitExceeded
  | .maxIdLengthExceeded => .maxServiceIdLengthExceeded
  | .maxServicesCountExceeded => .maxNumberOfServicesExceeded
  | .maxTypeCountExceeded => .maxNumberOfTypesPerServiceExceeded
  | .maxTypeLengthExceeded => .maxServiceTypeLengthExceeded
  | .maxUrlCountExceeded => .maxNumberOfUrlsPerServiceExceeded
  | .maxUrlLengthExceeded => .maxServiceUrlLengthExceeded
  | .invalidEncoding => .invalidServiceEncoding

def DidError.toError : DidError → Error
  | .storage err => err.toError
  | .signature err => err.toError
  | .input err => err.toError
  | .internal => .internal

def RelationshipDeriveError.toError : RelationshipDeriveError → Error
  | .invalidCallParameter => .invalidDidAuthorizationCall
  | .notCallableByDid => .unsupportedDidAuthorizationCall

inductive Event (τ : Types) where
  | created (author : τ.AccountId) (identifier : τ.DidIdentifier)
  | updated (identifier : τ.DidIdentifier)
  | deleted (identifier : τ.DidIdentifier)
  | callDispatched (identifier : τ.DidIdentifier)
  deriving DecidableEq

/--
The storage of the pallet and of all others. `accepted` is not stored anywhere, it records the
operations of the calls of `submit_did_call` that returned `Ok`.
-/
structure State (T : Config) where
  did : StorageMap T.DidIdentifier (DidDetails T.toTypes)
  serviceEndpoints :
    StorageMap (T.DidIdentifier × BoundedVec UInt8 T.maxServiceIdLength) (DidEndpoint T.toTypes)
  didEndpointsCount : StorageMap T.DidIdentifier UInt32
  didBlacklist : StorageMap T.DidIdentifier Unit
  world : T.World
  blockNumber : UInt32
  events : List (Event T.toTypes)
  accepted : List (DidAuthorizedCallOperation T.toTypes)

abbrev CallM (T : Config) := DispatchM (State T) Error

def State.genesis (T : Config) (world : T.World) : State T where
  did := ∅
  serviceEndpoints := ∅
  didEndpointsCount := ∅
  didBlacklist := ∅
  world
  blockNumber := 0
  events := []
  accepted := []

end Did
